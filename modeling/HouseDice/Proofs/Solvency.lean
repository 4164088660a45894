import HouseDice.Proofs.Reachable

/-!
# Solvency

What a vault holds above its rent floor is never less than the stakes of the
open bets against its pool. The two differences by which the program computes
what is spendable stop at zero in its arithmetic; they never have to.
-/

namespace HouseDice

open Address

variable {S : Set Purpose} {L : Ledger}

theorem Call.toNat_rentFloor : rentFloor.toNat = 890880 := by decide

/-- What is spendable is an honest difference where the vault holds floor and
stakes. -/
theorem Pool.toNat_spendable {p : Pool} {lamports floor : UInt64}
    (h : floor.toNat + p.lockedStakes.toNat ≤ lamports.toNat) :
    (Game.available lamports floor).toNat + floor.toNat = lamports.toNat
      ∧ (p.spendable lamports floor).toNat + p.lockedStakes.toNat
        = (Game.available lamports floor).toNat := by
  rw [spendable, Word.toNat_satSub, Game.available, Word.toNat_satSub]
  omega

/-- In every reachable ledger the vault of a pool holds its rent floor and all
locked stakes. -/
theorem Ledger.Reachable.solvent (hS : Apart S) (hL : L.Reachable S) {P : Key}
    {p : Pool} (hp : L.pool? P = some p) :
    ∃ V bump, find? (.vault p.house) = some (V, bump)
      ∧ (L.get V).owner = Key.system ∧ (L.get V).data = []
      ∧ 890880 + p.lockedStakes.toNat ≤ (L.get V).lamports.toNat
      ∧ (Game.available (L.get V).lamports Call.rentFloor).toNat + 890880
        = (L.get V).lamports.toNat
      ∧ (p.spendable (L.get V).lamports Call.rentFloor).toNat
        + p.lockedStakes.toNat
        = (Game.available (L.get V).lamports Call.rentFloor).toNat := by
  have hgood := (hL.sound hS).pool P p hp
  have hbacked := hgood.backed
  obtain ⟨havailable, hspendable⟩ := Pool.toNat_spendable hbacked
  rw [Call.toNat_rentFloor] at hbacked havailable
  exact ⟨p.vault, p.vaultBump, hgood.stands.vaultFind, hgood.vaultOwner,
    hgood.vaultData, hbacked, havailable, hspendable⟩

/-- The pool of the first run, with one bet open. -/
theorem solvent_first_run :
    ∃ V bump, find? (.vault Sample.house) = some (V, bump)
      ∧ 890880 + 1000000 ≤ (Sample.ledger.get V).lamports.toNat := by
  obtain ⟨V, bump, hfind, _, _, hbacked, _⟩ :=
    Ledger.Reachable.solvent Sample.apart Sample.reachable Sample.stored.1
  exact ⟨V, bump, hfind, hbacked⟩

end HouseDice
