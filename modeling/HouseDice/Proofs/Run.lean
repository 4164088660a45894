import HouseDice.Ledger.Run
import HouseDice.Proofs.Apart
import Mathlib.Data.List.Induction

/-!
# Runs of the game

Three things happen to the chain: somebody calls the program, the clock moves
on, or accounts change by what other programs do. Anybody may call with any
data, any accounts and any marks, and a call that fails changes nothing. What
the chain itself promises is little, and `Allowed` says it in full.

Nobody signs for the system program or for a derived address; the first has no
key, and the others are no points of the curve. The clock does not go back. And
other programs can do to an account of this program, or to an address for which
only this program signs, no more than send it lamports; they cannot make an
account of this program either.

The clause about `opens` keeps the run inside a set `S` of purposes whose
addresses do not collide. It asks nothing of a call that opens no account.
-/

namespace HouseDice

open Address

/-! ## What a call may be -/

/-- The purposes for which a call opens accounts, if it goes well. -/
def Call.opens (c : Call) : List Purpose :=
  match Request.decode c.data with
  | .ok (.initializePool _) =>
    (c.accounts[2]?.map fun a => [.pool a.key, .vault a.key]).getD []
  | .ok (.placeBet seed _ _) =>
    (c.accounts[3]?.map fun a => [.bet a.key seed]).getD []
  | .ok (.resolveBet _) | .ok .refundBet | .error _ => []

/-- A call that the chain lets through, whose new accounts are for purposes of
`S`. -/
structure Call.Lawful (S : Set Purpose) (c : Call) : Prop where
  signer : ∀ k, c.rights.signs k → k ≠ Key.system ∧ ¬ Derived S k
  opens : ∀ p ∈ c.opens, p ∈ S

/-- Where all addresses are known, it can be checked that the chain lets a call
through. -/
theorem Call.lawful_known {table : List (Purpose × Key)}
    (hfind : ∀ e ∈ table, (find? e.1).map Prod.fst = some e.2) {c : Call}
    (hsigner : ∀ a ∈ c.accounts, a.signer → a.key ≠ Key.system
      ∧ a.key ∉ table.map Prod.snd)
    (hopens : ∀ p ∈ c.opens, p ∈ table.map Prod.fst) :
    c.Lawful (Known table) where
  signer k hk := by
    obtain ⟨a, ha, hsigns⟩ := List.any_eq_true.1 hk
    rw [Bool.and_eq_true, beq_iff_eq] at hsigns
    obtain ⟨rfl, hsigns⟩ := hsigns
    obtain ⟨hsystem, hout⟩ := hsigner a ha hsigns
    exact ⟨hsystem, fun hderived => hout (mem_of_derived_known hfind hderived)⟩
  opens := hopens

/-! ## What else may happen -/

/-- What other programs can make of a store. -/
structure Store.Outside (S : Set Purpose) (s t : Store) : Prop where
  gift : ∀ k, (s.get k).owner = Key.game ∨ Derived S k →
    ∃ lamports, (s.get k).lamports ≤ lamports
      ∧ t.get k = { s.get k with lamports }
  owned : ∀ k, (t.get k).owner = Key.game → (s.get k).owner = Key.game

/-- One thing that happens to the chain. -/
inductive Action where
  | call (c : Call)
  | clock (slot : UInt64)
  | outside (accounts : Store)

namespace Ledger

def act (L : Ledger) : Action → Ledger
  | .call c => L.after c
  | .clock slot => L.atSlot slot
  | .outside accounts => { L with accounts }

theorem act_call (L : Ledger) (c : Call) : L.act (.call c) = L.after c := rfl

def play (L : Ledger) (run : List Action) : Ledger := run.foldl act L

/-- Whether the chain lets something happen. -/
def Allows (S : Set Purpose) (L : Ledger) : Action → Prop
  | .call c => c.Lawful S
  | .clock slot => L.slot ≤ slot
  | .outside accounts => L.accounts.Outside S accounts

/-- An account that gets more lamports keeps all else. -/
theorem get_setLamports_of_le {L : Ledger} {k : Key} {lamports : UInt64}
    (h : (L.get k).lamports ≤ lamports) (j : Key) :
    (L.setLamports k lamports).get j = if j = k then { L.get k with lamports }
      else L.get j := by
  have hkept : { L.get k with lamports : Account }.kept
      = { L.get k with lamports } := by
    by_cases hzero : lamports = 0
    · -- Nothing was there, so the account was the blank one.
      have hempty : (L.accounts.get k).lamports = 0 :=
        UInt64.le_zero_iff.1 (hzero ▸ h)
      have hblank := L.accounts.kept_get k
      rw [Account.kept, if_pos hempty] at hblank
      rw [get, ← hblank, hzero]
      rfl
    · exact if_neg hzero
  rw [setLamports, get_set, hkept]

/-- Anybody may send lamports to any account. -/
theorem allows_gift (S : Set Purpose) {L : Ledger} {k : Key} {lamports : UInt64}
    (h : (L.get k).lamports ≤ lamports) :
    L.Allows S (.outside (L.setLamports k lamports).accounts) := by
  have hget : ∀ j, (L.setLamports k lamports).accounts.get j
      = if j = k then { L.get k with lamports } else L.get j :=
        get_setLamports_of_le h
  refine ⟨fun j _ => ?_, fun j hj => ?_⟩
  · rw [hget]
    split
    next hjk => exact ⟨lamports, hjk ▸ h, hjk ▸ rfl⟩
    next => exact ⟨(L.get j).lamports, UInt64.le_refl _, rfl⟩
  · rw [hget] at hj
    split at hj
    next hjk => exact hjk ▸ hj
    next => exact hj

/-- Whether the chain lets a run happen, one thing after the other. -/
def AllowsAll (S : Set Purpose) (L : Ledger) : List Action → Prop
  | [] => True
  | a :: rest => L.Allows S a ∧ (L.act a).AllowsAll S rest

/-- A ledger in which the program has no account yet. -/
def Untouched (L : Ledger) : Prop := ∀ k, (L.get k).owner ≠ Key.game

/-- A ledger that a run has led to, from one that the program had not
touched. -/
def Reachable (S : Set Purpose) (L : Ledger) : Prop :=
  ∃ (L₀ : Ledger) (run : List Action), L₀.Untouched ∧ L₀.AllowsAll S run
    ∧ L = L₀.play run

/-- What holds at the start and is kept by everything that may happen holds in
the end. -/
theorem play_induction {S : Set Purpose} {P : Ledger → Prop}
    (hstep : ∀ L a, P L → L.Allows S a → P (L.act a)) {L : Ledger}
    {run : List Action} (hrun : L.AllowsAll S run) (hL : P L) :
    P (L.play run) := by
  induction run generalizing L with
  | nil => exact hL
  | cons a rest ih => exact ih hrun.2 (hstep L a hL hrun.1)

theorem Untouched.reachable {L : Ledger} (h : L.Untouched) (S : Set Purpose) :
    L.Reachable S :=
  ⟨L, [], h, trivial, rfl⟩

theorem play_append (L : Ledger) (run more : List Action) :
    L.play (run ++ more) = (L.play run).play more := List.foldl_append

theorem play_nil (L : Ledger) : L.play [] = L := rfl

theorem play_cons (L : Ledger) (a : Action) (rest : List Action) :
    L.play (a :: rest) = (L.act a).play rest := rfl

theorem allowsAll_append {S : Set Purpose} {L : Ledger}
    {run more : List Action} :
    L.AllowsAll S (run ++ more) ↔
    L.AllowsAll S run ∧ (L.play run).AllowsAll S more := by
  induction run generalizing L with
  | nil => exact ⟨fun h => ⟨trivial, h⟩, fun h => h.2⟩
  | cons a rest ih =>
    show L.Allows S a ∧ (L.act a).AllowsAll S (rest ++ more) ↔ _
    rw [ih]
    exact and_assoc.symm

/-- What holds of the empty run and of every run that has grown by one step
holds of all. -/
theorem AllowsAll.induction {S : Set Purpose} {L : Ledger}
    {P : List Action → Prop} (hnil : P [])
    (hsnoc : ∀ run a, L.AllowsAll S run → (L.play run).Allows S a → P run →
      P (run ++ [a])) {run : List Action} (hrun : L.AllowsAll S run) :
    P run := by
  induction run using List.reverseRecOn with
  | nil => exact hnil
  | append_singleton run a ih =>
    obtain ⟨hbefore, ha, _⟩ := allowsAll_append.1 hrun
    exact hsnoc run a hbefore ha (ih hbefore)

theorem Reachable.step {S : Set Purpose} {L : Ledger} (hL : L.Reachable S)
    {a : Action} (ha : L.Allows S a) : (L.act a).Reachable S := by
  obtain ⟨L₀, run, hL₀, hrun, rfl⟩ := hL
  refine ⟨L₀, run ++ [a], hL₀, allowsAll_append.2 ⟨hrun, ha, trivial⟩, ?_⟩
  rw [play_append]
  rfl

theorem Reachable.induction {S : Set Purpose} {P : Ledger → Prop}
    (hstart : ∀ L : Ledger, L.Untouched → P L)
    (hstep : ∀ L a, P L → L.Allows S a → P (L.act a)) {L : Ledger}
    (hL : L.Reachable S) : P L := by
  obtain ⟨L₀, run, hL₀, hrun, rfl⟩ := hL
  exact play_induction hstep hrun (hstart L₀ hL₀)

/-! ### Reading a run -/

section

variable {α : Type}

/-- What is read off the steps of a run, each with the ledger before it. -/
def collect (read : Ledger → Action → List α) : Ledger → List Action → List α
  | _, [] => []
  | L, a :: rest => read L a ++ (L.act a).collect read rest

theorem collect_append (read : Ledger → Action → List α) (L : Ledger)
    (run more : List Action) :
    L.collect read (run ++ more)
      = L.collect read run ++ (L.play run).collect read more := by
  induction run generalizing L with
  | nil => rfl
  | cons a rest ih =>
    show read L a ++ (L.act a).collect read (rest ++ more) = _
    rw [ih, ← List.append_assoc]
    rfl

theorem collect_append_one (read : Ledger → Action → List α) (L : Ledger)
    (run : List Action) (a : Action) :
    L.collect read (run ++ [a])
      = L.collect read run ++ read (L.play run) a := by
  rw [collect_append, collect, collect, List.append_nil]

/-- Whatever is read off a run is read off one of its steps. -/
theorem mem_collect_iff {read : Ledger → Action → List α} {L : Ledger}
    {run : List Action} {y : α} :
    y ∈ L.collect read run ↔
      ∃ before a after, run = before ++ a :: after
        ∧ y ∈ read (L.play before) a := by
  constructor
  · intro h
    induction run generalizing L with
    | nil => cases h
    | cons a rest ih =>
      rw [collect, List.mem_append] at h
      rcases h with hfirst | hrest
      · exact ⟨[], a, rest, rfl, hfirst⟩
      · obtain ⟨before, a', after, rfl, hy⟩ := ih hrest
        exact ⟨a :: before, a', after, rfl, hy⟩
  · intro h
    obtain ⟨before, a, after, rfl, hy⟩ := h
    rw [collect_append, collect]
    exact List.mem_append_right _ (List.mem_append_left _ hy)

end

end Ledger

end HouseDice
