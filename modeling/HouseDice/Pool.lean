import HouseDice.Bet
import HouseDice.Game.Rules
import HouseDice.Record

/-!
# Pools

A pool is a house's bankroll. Its lamports lie in a vault; the pool itself
counts what has been staked, paid and refunded, and how much of the vault is
only there because bets are open. Those locked stakes are owed back, so they are
never spent on other players' wins.

The calls below change the counters one after the other, and one that fails
half way leaves the counters it had already changed. `Counting` keeps both: what
the call answered and the pool that it left.
-/

namespace HouseDice

/-- A house's bankroll, as its account stores it. -/
structure Pool where
  house : Key
  bump : UInt8
  vault : Key
  vaultBump : UInt8
  createdSlot : UInt64
  initialFunding : UInt64
  openBets : UInt64
  /-- The stakes of the open bets. -/
  lockedStakes : UInt64
  totalWagered : UInt64
  totalPaidOut : UInt64
  totalRefunded : UInt64
  version : UInt16
deriving DecidableEq

namespace Pool

def initialVersion : UInt16 := 1

def layout : Layout Pool :=
  ((Layout.block 32).prod <| Layout.u8.prod <| (Layout.block 32).prod <|
    Layout.u8.prod <| Layout.u64.prod <| Layout.u64.prod <| Layout.u64.prod <|
    Layout.u64.prod <| Layout.u64.prod <| Layout.u64.prod <|
    Layout.u64.prod Layout.u16).via
    (fun (house, bump, vault, vaultBump, createdSlot, initialFunding, openBets,
        lockedStakes, totalWagered, totalPaidOut, totalRefunded, version) =>
      ⟨house, bump, vault, vaultBump, createdSlot, initialFunding, openBets,
        lockedStakes, totalWagered, totalPaidOut, totalRefunded, version⟩)
    (fun p => (p.house, p.bump, p.vault, p.vaultBump, p.createdSlot,
      p.initialFunding, p.openBets, p.lockedStakes, p.totalWagered,
      p.totalPaidOut, p.totalRefunded, p.version))
    (fun _ => rfl) (fun _ => rfl)

def record : Record Pool where
  tag := ⟨[0xf1, 0x9a, 0x6d, 0x04, 0x11, 0xb1, 0x6d, 0xbc], rfl⟩
  layout := layout

theorem tag_record : record.tag.bytes = Sha256.tag "account:Pool" := by
  decide +kernel

/-- A new pool, which has to start with some lamports. -/
def create (house : Key) (bump : UInt8) (vault : Key) (vaultBump : UInt8)
    (createdSlot initialFunding : UInt64) : Except GameError Pool := do
  ensure (0 < initialFunding) .invalidFunding
  return {
    house, bump, vault, vaultBump, createdSlot, initialFunding
    openBets := 0
    lockedStakes := 0
    totalWagered := 0
    totalPaidOut := 0
    totalRefunded := 0
    version := initialVersion }

theorem create_eq_ok_iff {house vault : Key} {bump vaultBump : UInt8}
    {slot amount : UInt64} {p : Pool} :
    create house bump vault vaultBump slot amount = .ok p ↔ 0 < amount
      ∧ p = ⟨house, bump, vault, vaultBump, slot, amount, 0, 0, 0, 0, 0,
        initialVersion⟩ := by
  simp only [create, bind_eq_ok_iff, ensure_eq_ok_iff, exists_const, pure,
    Except.pure, Except.ok.injEq]
  exact and_congr_right fun _ => eq_comm

/-- The lamports that may back payouts: above the rent floor and not locked. -/
def spendable (p : Pool) (vaultLamports rentFloor : UInt64) : UInt64 :=
  Word.satSub (Game.available vaultLamports rentFloor) p.lockedStakes

/-! ## Calls -/

/-- A call that changes a pool and keeps what it changed even if it fails. -/
abbrev Counting (α : Type) := EStateM GameError Pool α

namespace Counting

variable {α : Type}

/-- Asks the rules of the game, which change nothing. -/
def rule : Except GameError α → Counting α
  | .ok a => pure a
  | .error e => throw e

/-- Replaces the pool, unless one of its numbers would leave its range. -/
def update (f : Pool → Option Pool) : Counting Unit := do
  match f (← get) with
  | some p => set p
  | none => throw .mathOverflow

theorem run_rule (x : Except GameError α) (p : Pool) :
    (rule x).run p = match x with
      | .ok a => .ok a p
      | .error e => .error e p := by
  cases x <;> rfl

theorem run_update (f : Pool → Option Pool) (p : Pool) :
    (update f).run p = match f p with
      | some q => .ok () q
      | none => .error .mathOverflow p := by
  unfold update
  simp only [EStateM.run_bind, EStateM.run_get]
  cases f p <;> rfl

end Counting

open Counting

def countOpened (p : Pool) : Option Pool :=
  (Word.add? p.openBets 1).map fun n => { p with openBets := n }

def countClosed (p : Pool) : Option Pool :=
  (Word.sub? p.openBets 1).map fun n => { p with openBets := n }

def lock (amount : UInt64) (p : Pool) : Option Pool :=
  (Word.add? p.lockedStakes amount).map fun n => { p with lockedStakes := n }

def unlock (amount : UInt64) (p : Pool) : Option Pool :=
  (Word.sub? p.lockedStakes amount).map fun n => { p with lockedStakes := n }

def countWagered (amount : UInt64) (p : Pool) : Option Pool :=
  (Word.add? p.totalWagered amount).map fun n => { p with totalWagered := n }

def countPaidOut (amount : UInt64) (p : Pool) : Option Pool :=
  (Word.add? p.totalPaidOut amount).map fun n => { p with totalPaidOut := n }

def countRefunded (amount : UInt64) (p : Pool) : Option Pool :=
  (Word.add? p.totalRefunded amount).map fun n => { p with totalRefunded := n }

/-- Releases the stake of a bet that is about to be closed. -/
def release (amount : UInt64) : Counting Unit := do
  update countClosed
  update (unlock amount)

/-- Takes a new stake. The vault is as it was before the stake went in. -/
def accept (vaultLamports rentFloor amount : UInt64) (roll : UInt8) :
    Counting Unit := do
  rule (Game.validate amount roll)
  let p ← get
  let _ ← rule (Game.exposure (p.spendable vaultLamports rentFloor) amount roll)
  update countOpened
  update (lock amount)
  update (countWagered amount)

/-- Settles a bet and releases its stake. A winner's own stake is part of what
it is owed. -/
def settle (vaultLamports rentFloor : UInt64) (bet : Bet)
    (signature : Signature) : Counting Game.Settlement := do
  let settlement ← rule (Game.settle bet.amount bet.roll signature)
  if settlement.won then
    let p ← get
    let funds ← rule
      (demand (Word.add? (p.spendable vaultLamports rentFloor) bet.amount)
      .mathOverflow)
    rule (Game.cover funds settlement.payout)
  release bet.amount
  update (countPaidOut settlement.payout)
  return settlement

/-- Releases the stake of a bet whose time is over, and says how much is owed
back. -/
def refund (bet : Bet) (currentSlot : UInt64) : Counting UInt64 := do
  rule (Game.refundable bet.slot currentSlot)
  release bet.amount
  update (countRefunded bet.amount)
  return bet.amount

/-- What a call makes of a pool where only a call that succeeds counts. -/
def after {α : Type} (p : Pool) (call : Counting α) :
    Except GameError (α × Pool) :=
  match call.run p with
  | .ok a q => .ok (a, q)
  | .error e _ => .error e

end Pool

end HouseDice
