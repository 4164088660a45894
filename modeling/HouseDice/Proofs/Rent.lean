import HouseDice.Proofs.Reachable

/-!
# Rent

A call that finds an account where it wanted a new one asks for the account's
rent before it looks at what the account holds. In a run that question never
decides anything. An account of the program was opened with its rent minimum,
its data never changes its length, and no lamports leave it before it is closed.
-/

namespace HouseDice

open Address

variable {S : Set Purpose} {L M : Ledger} {c : Call} {x : Seats} {p q : Pool}

/-- Every account of the program holds the rent minimum for its data. -/
def Ledger.Rented (L : Ledger) : Prop :=
  ∀ k, (L.get k).owner = Key.game →
    Ledger.rentMinimum (L.get k).data.length ≤ (L.get k).lamports

theorem Ledger.Steps.rented {purse vault : UInt64} {bet : Account}
    (h : L.Steps S x p q bet) (hS : Apart S) (hL : Sound S L) (hR : L.Rented)
    (hbet : bet.owner = Key.game →
      Ledger.rentMinimum bet.data.length ≤ bet.lamports) :
    (L.betStep x purse vault q bet).Rented := by
  intro k hk
  by_cases hout : k = x.player ∨ k = x.vault
  · exact absurd hk (h.outside_not_game hS hL purse vault hout).2
  by_cases hkp : k = x.pool
  · rw [hkp, h.get_pool hS]
    show Ledger.rentMinimum (Pool.record.encode q).length
      ≤ (L.get x.pool).lamports
    rw [Record.length_encode, ← hL.length_of_pool? h.pool]
    exact hR x.pool h.owner_pool
  by_cases hkb : k = x.bet
  · rw [hkb, h.get_bet hS] at hk ⊢
    exact hbet hk
  · rw [L.get_betStep_of_ne hout hkp hkb] at hk ⊢
    exact hR k hk

theorem Ledger.Founds.rented {pool : Key} {amount : UInt64}
    (h : L.Founds S c pool p amount M) (hS : Apart S) (hL : Sound S L)
    (hR : L.Rented) : M.Rented := by
  intro k hk
  by_cases hkp : k = pool
  · obtain ⟨purse, rent, funds, hrent, _, _, rfl⟩ := h.moved
    obtain ⟨_, hpool, _⟩ := L.get_foundStep (h.nodup hS) purse rent funds p
    have hpos : 0 < (Ledger.rentMinimum Pool.record.size).toNat := by decide
    have hne : rent ≠ 0 := Word.ne_zero_of_toNat_pos (by omega)
    rw [hkp, hpool, Account.kept_of_lamports_ne hne, UInt64.le_iff_toNat_le]
    show (Ledger.rentMinimum (Pool.record.encode p).length).toNat ≤ rent.toNat
    rw [Record.length_encode, hrent]
    exact Nat.le_max_right _ _
  · obtain ⟨_, ⟨purse, hhouse⟩, _, ⟨funds, hvault, _⟩, hother⟩ := h.gets hS
    by_cases hkh : k = p.house
    · rw [hkh, hhouse] at hk
      exact absurd hk (Account.owner_kept_lamports
        (fun howner => h.outside (hL.derived_of_owner howner)) purse)
    by_cases hkv : k = p.vault
    · rw [hkv, hvault] at hk
      exact absurd hk Key.system_ne_game
    · rw [hother k (by simp [hkh, hkp, hkv])] at hk ⊢
      exact hR k hk

theorem Ledger.Change.rented (hS : Apart S) (hL : Sound S L) (hR : L.Rented)
    {event : Event} (h : L.Change S c M event) : M.Rented := by
  cases h with
  | founds _ step => exact step.rented hS hL hR
  | stakes _ step =>
    obtain ⟨purse, vault, rent, _, hrent, _, rfl⟩ := step.moved
    have hle := hrent ▸ Nat.le_max_right _ _
    refine (step.steps hle).rented hS hL hR fun _ => ?_
    rw [Record.length_encode, UInt64.le_iff_toNat_le]
    exact hle
  | resolves _ step =>
    obtain ⟨purse, vault, _, _, rfl⟩ := step.closes
    exact (step.holds.steps hL
      (Pool.releases_of_settle step.counted)).rented hS hL hR
      fun howner => absurd howner Key.system_ne_game
  | refunds _ step =>
    obtain ⟨purse, vault, _, _, rfl⟩ := step.closes
    exact (step.holds.steps hL
      (Pool.releases_of_refund step.counted)).rented hS hL hR
      fun howner => absurd howner Key.system_ne_game

theorem Ledger.Rented.outside (hR : L.Rented) {accounts : Store}
    (h : L.accounts.Outside S accounts) :
    Ledger.Rented { L with accounts } := by
  intro k hk
  have howner : (L.get k).owner = Key.game := h.owned k hk
  obtain ⟨lamports, hle, hget⟩ := h.gift k (.inl howner)
  have hget : Ledger.get { L with accounts } k = { L.get k with lamports } :=
    hget
  rw [hget]
  exact UInt64.le_trans (hR k howner) hle

theorem Ledger.Reachable.rented (hS : Apart S) (hL : L.Reachable S) :
    L.Rented := by
  have hboth : Sound S L ∧ L.Rented := by
    refine hL.induction (P := fun L => Sound S L ∧ L.Rented)
      (fun L hL => ⟨.of_untouched hL, fun k hk => absurd hk (hL k)⟩)
      fun L a hL ha => ?_
    refine ⟨hL.1.act hS ha, ?_⟩
    cases a with
    | call c =>
      rcases after_eq_or_change hS hL.1 ha with hsame | ⟨_, hchange⟩
      · show (L.after c).Rented
        rw [hsame]
        exact hL.2
      · exact hchange.rented hS hL.1 hL.2
    | clock slot => exact hL.2
    | outside accounts => exact hL.2.outside ha
  exact hboth.2

end HouseDice
