import HouseDice.Proofs.Movement

/-!
# Addresses that were kept free

Only the program signs for its addresses, so nobody else can put anything there
but lamports. If there was nothing else at the start, then whatever stands at
such an address later was put there by the program: it is one of its accounts,
or it still holds lamports and nothing more. In such a ledger an address can be
used for a new bet exactly if no bet is open there, and for a new pool exactly
if there is none; and nothing ever comes to stand at the address of a vault.
-/

namespace HouseDice

open Address

variable {S : Set Purpose} {L M : Ledger} {c : Call}

/-- A ledger in which the program has no account yet and its addresses hold
nothing but lamports. -/
structure Ledger.Pristine (S : Set Purpose) (L : Ledger) : Prop where
  untouched : L.Untouched
  plain : ∀ k, Derived S k → L.content k = Account.plain

/-- A ledger that a run has led to, from one where nobody else had used the
program's addresses. -/
def Ledger.FromPristine (S : Set Purpose) (L : Ledger) : Prop :=
  ∃ (L₀ : Ledger) (run : List Action), L₀.Pristine S ∧ L₀.AllowsAll S run
    ∧ L = L₀.play run

theorem Ledger.FromPristine.reachable (hL : L.FromPristine S) :
    L.Reachable S := by
  obtain ⟨L₀, run, hL₀, hrun, hplay⟩ := hL
  exact ⟨L₀, run, hL₀.untouched, hrun, hplay⟩

theorem Ledger.Pristine.fromPristine (hL : L.Pristine S) : L.FromPristine S :=
  ⟨L, [], hL, trivial, rfl⟩

theorem Ledger.FromPristine.step (hL : L.FromPristine S) {a : Action}
    (ha : L.Allows S a) :
    (L.act a).FromPristine S := by
  obtain ⟨L₀, run, hL₀, hrun, rfl⟩ := hL
  refine ⟨L₀, run ++ [a], hL₀, allowsAll_append.2 ⟨hrun, ha, trivial⟩, ?_⟩
  rw [play_append]
  rfl

/-- What stands at the program's addresses is the program's, or nothing but
lamports. -/
def Ledger.Clear (S : Set Purpose) (L : Ledger) : Prop :=
  ∀ k, Derived S k → (L.get k).owner = Key.game ∨ L.content k = Account.plain

namespace Ledger.Clear

theorem of_content (hL : L.Clear S)
    (h : ∀ k, M.content k = L.content k ∨ (M.get k).owner = Key.game
      ∨ M.content k = Account.plain) : M.Clear S := by
  intro k hk
  rcases h k with hsame | hnew
  · rw [hsame]
    exact (hL k hk).imp_left fun howner =>
      (congrArg Prod.fst hsame).trans howner
  · exact hnew

theorem act (hS : Apart S) (hsound : Sound S L) (hL : L.Clear S) {a : Action}
    (ha : L.Allows S a) : (L.act a).Clear S := by
  cases a with
  | call c =>
    rcases after_eq_or_change hS hsound ha with hsame | ⟨event, hchange⟩
    · show (L.after c).Clear S
      rw [hsame]
      exact hL
    · exact hL.of_content (hchange.content_cases hS hsound)
  | clock slot => exact hL
  | outside accounts =>
    intro k hk
    have hsame : Ledger.content { L with accounts } k = L.content k :=
      Store.Outside.content ha (.inr hk)
    show (accounts.get k).owner = Key.game
      ∨ Ledger.content { L with accounts } k = Account.plain
    rw [hsame]
    exact (hL k hk).imp_left fun howner =>
      (congrArg Prod.fst hsame).trans howner

end Ledger.Clear

theorem Ledger.FromPristine.clear (hS : Apart S) (hL : L.FromPristine S) :
    L.Clear S := by
  obtain ⟨L₀, run, hL₀, hrun, rfl⟩ := hL
  have hboth : Sound S (L₀.play run) ∧ (L₀.play run).Clear S := by
    refine play_induction (P := fun M => Sound S M ∧ M.Clear S)
      (fun M a hM ha => ?_) hrun
      ⟨.of_untouched hL₀.untouched, fun k hk => .inr (hL₀.plain k hk)⟩
    exact ⟨hM.1.act hS ha, hM.2.act hS hM.1 ha⟩
  exact hboth.2

/-! What stands at an address tells what the address is for. -/

theorem Sound.purpose_of_pool? (hS : Apart S) (hL : Sound S L)
    {purpose : Purpose} {k : Key} {p : Pool} (hk : Of S purpose k)
    (hp : L.pool? k = some p) : purpose = .pool p.house :=
  hS _ _ k hk (hL.pool k p hp).stands.pool

theorem Sound.purpose_of_bet? (hS : Apart S) (hL : Sound S L)
    {purpose : Purpose} {k : Key} {b : Bet} (hk : Of S purpose k)
    (hb : L.bet? k = some b) :
    ∃ V, purpose = .bet V b.seed := by
  obtain ⟨p, _, hstands⟩ := (hL.bet k b hb).pool
  exact ⟨p.vault, hS _ _ k hk hstands.bet⟩

/-- Where the program keeps no record, nothing stands in the way of one. -/
theorem Ledger.Clear.free_of_none (hsound : Sound S L) (hL : L.Clear S)
    {k : Key} (hk : Derived S k) (hpool : ∀ p, L.pool? k ≠ some p)
    (hbet : ∀ b, L.bet? k ≠ some b) :
    (L.get k).owner = Key.system ∧ (L.get k).data = [] := by
  rcases hL k hk with howner | hplain
  · rcases Account.pool?_or_bet? howner (hsound.stored k howner) with ⟨p, hp⟩
      | ⟨b, hb⟩
    · exact absurd hp (hpool p)
    · exact absurd hb (hbet b)
  · exact Account.content_eq_plain_iff.1 hplain

/-- Where no bet is open, nothing stands in the way of one. -/
theorem Ledger.Clear.free (hS : Apart S) (hsound : Sound S L) (hL : L.Clear S)
    {V B : Key} {seed : Seed} (hB : Of S (.bet V seed) B)
    (hnone : L.bet? B = none) :
    (L.get B).owner = Key.system ∧ (L.get B).data = [] := by
  refine hL.free_of_none hsound hB.derived (fun p hp => ?_) fun b hb => ?_
  · cases hsound.purpose_of_pool? hS hB hp
  · cases hnone.symm.trans hb

/-- Where there is no pool, nothing stands in the way of one. -/
theorem Ledger.Clear.pool_free (hS : Apart S) (hsound : Sound S L)
    (hL : L.Clear S) {H P : Key} (hP : Of S (.pool H) P)
    (hnone : ∀ p, L.pool? P ≠ some p) :
    (L.get P).owner = Key.system ∧ (L.get P).data = [] := by
  refine hL.free_of_none hsound hP.derived hnone fun b hb => ?_
  obtain ⟨V, hpurpose⟩ := hsound.purpose_of_bet? hS hP hb
  cases hpurpose

/-- At the address of a vault there is never more than lamports. -/
theorem Ledger.Clear.vault_free (hS : Apart S) (hsound : Sound S L)
    (hL : L.Clear S) {H V : Key} (hV : Of S (.vault H) V) :
    (L.get V).owner = Key.system ∧ (L.get V).data = [] := by
  refine hL.free_of_none hsound hV.derived (fun p hp => ?_) fun b hb => ?_
  · cases hsound.purpose_of_pool? hS hV hp
  · obtain ⟨V', hpurpose⟩ := hsound.purpose_of_bet? hS hV hb
    cases hpurpose

/-! The first run begins where nothing but lamports stands anywhere. -/

theorem Sample.start_pristine : start.Pristine (Known addresses) where
  untouched := start_untouched
  plain k hk := by
    have hall : ∀ j ∈ addresses.map Prod.snd,
      start.content j = Account.plain := by decide +kernel
    exact hall k (mem_of_derived_known find?_addresses hk)

end HouseDice
