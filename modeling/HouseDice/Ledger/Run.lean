import HouseDice.Call.InitializePool
import HouseDice.Call.PlaceBet
import HouseDice.Call.RefundBet
import HouseDice.Call.ResolveBet

/-!
# Running calls on the ledger

A call either succeeds, and then the accounts that it names are written back and
it leaves one event, or it fails, and then the ledger stays as it was. Either
way it may leave lines in the log of its transaction, and a call that fails only
when it closes an account leaves its event there too.
-/

namespace HouseDice

/-- Does what a request asks for. -/
def Request.run (r : Request) (c : Call) (slot : UInt64) (v : View) :
    Except Failure Effects :=
  match r with
  | .initializePool amount => c.initializePool slot v amount
  | .placeBet seed amount roll => c.placeBet slot v seed amount roll
  | .resolveBet signature => c.resolveBet v signature
  | .refundBet => c.refundBet slot v

/-- What a call does inside its transaction. -/
def Call.effects (c : Call) (slot : UInt64) (v : View) :
    Except Failure Effects := do
  ensure (c.program = Key.game) (.check .misdirected none)
  let request ← (Request.decode c.data).mapError (Failure.check · none)
  request.run c slot v

/-- The first line of a call's log, once it is known what is asked for. -/
def Call.heading (c : Call) : List String :=
  if c.program = Key.game then
    ((Request.Kind.ofData? c.data).map fun k =>
      "Instruction: " ++ k.title).toList
  else []

namespace Ledger

/-- The ledger with some accounts written back from a view. -/
def commit (L : Ledger) (keys : List Key) (v : View) : Ledger :=
  keys.foldl (fun M k => M.set k (v k)) L

@[simp]
theorem slot_commit (L : Ledger) (keys : List Key) (v : View) :
    (L.commit keys v).slot = L.slot := by
  induction keys generalizing L with
  | nil => rfl
  | cons k rest ih => exact ih (L.set k (v k))

/-- Writing back takes over what the view holds under the given keys, and
nothing else. -/
theorem get_commit (L : Ledger) (keys : List Key) (v : View) (j : Key) :
    (L.commit keys v).get j = if j ∈ keys then (v j).kept else L.get j := by
  induction keys generalizing L with
  | nil => rfl
  | cons k rest ih =>
    show ((L.set k (v k)).commit rest v).get j = _
    rw [ih, get_set]
    by_cases hrest : j ∈ rest
    · rw [if_pos hrest, if_pos (List.mem_cons_of_mem _ hrest)]
    · rw [if_neg hrest]
      by_cases hk : j = k
      · rw [if_pos hk, if_pos (hk ▸ List.mem_cons_self), hk]
      · rw [if_neg hk, if_neg (by simp [hk, hrest])]

structure Report where
  log : List String
  result : Except Failure (Ledger × Event)

def run (L : Ledger) (c : Call) : Report :=
  match c.effects L.slot L.get with
  | .ok e => ⟨c.heading ++ e.log,
    .ok (L.commit (c.accounts.map (·.key)) e.view, e.event)⟩
  | .error f => ⟨c.heading ++ f.log, .error f⟩

/-- The ledger after a call: the old one, if the call failed. -/
def after (L : Ledger) (c : Call) : Ledger :=
  match (L.run c).result with
  | .ok (M, _) => M
  | .error _ => L

end Ledger

end HouseDice
