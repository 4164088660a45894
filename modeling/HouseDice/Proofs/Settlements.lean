import HouseDice.Proofs.Outflow
import HouseDice.Proofs.Refunds
import HouseDice.Proofs.Solvency

/-!
# What a settlement answers

A settlement that the house has signed for cannot go wrong for many reasons. Its
payout is always a number, because the most that the bet can pay was computed
when it was placed. A bet that pays nothing is always settled. A win is settled
if the pool can cover it with what is spendable and the winner's own stake, and
if the total of payouts stays a word; each of the two has its own cause, and
they are asked in this order.

Nothing else can fail. The sum of what is spendable and the stake is a word
because the stake is one of those that the vault already holds, the counters
count the bet, and a vault that covers a payout can pay it.
-/

namespace HouseDice

open Address

variable {S : Set Purpose} {L : Ledger} {c : Call} {x : Seats} {b : Bet}
  {p : Pool} {s : Signature} {paid : UInt64}

namespace Ledger.Holds

/-- The price of an open bet is known for every outcome. -/
theorem payout_ok (h : L.Holds x b p) (hL : Sound S L) (drawn : UInt8) :
    ∃ paid, Game.payout b.amount b.roll drawn = .ok paid := by
  obtain ⟨most, hmost⟩ := (h.stands hL).payable
  exact ⟨_, Game.payout_of_maxPayout hmost drawn⟩

/-- What a win may cost: what the vault holds above its floor and all stakes,
and the winner's own stake. -/
theorem funds_ok (h : L.Holds x b p) (hL : Sound S L) : ∃ funds : UInt64,
    funds.toNat
        = (p.spendable (L.get x.vault).lamports Call.rentFloor).toNat
          + b.amount.toNat
      ∧ funds.toNat
        = (L.get x.vault).lamports.toNat - 890880 - p.lockedStakes.toNat
          + b.amount.toNat := by
  have hbacked := (h.goodPool hL).backed
  rw [h.vault] at hbacked
  obtain ⟨havailable, hspendable⟩ := Pool.toNat_spendable hbacked
  have hstake := (h.counted hL).2
  have hlamports := (L.get x.vault).lamports.toNat_lt_size
  rw [Call.toNat_rentFloor] at havailable
  have hfits :
      (p.spendable (L.get x.vault).lamports Call.rentFloor).toNat
          + b.amount.toNat
        < UInt64.size := by omega
  obtain ⟨funds, hfunds⟩ := Word.exists_toNat_eq hfits
  exact ⟨funds, hfunds, by omega⟩

/-- What the pool says to a settlement that pays `paid`. -/
theorem settle_result (h : L.Holds x b p) (hL : Sound S L)
    (hpaid : Game.payout b.amount b.roll (Game.outcome s) = .ok paid) :
    (paid = 0
        ∨ paid.toNat ≤ (L.get x.vault).lamports.toNat - 890880
              - p.lockedStakes.toNat + b.amount.toNat
          ∧ p.totalPaidOut.toNat + paid.toNat < UInt64.size →
        ∃ q, p.after (Pool.settle (L.get x.vault).lamports Call.rentFloor b s)
          = .ok (⟨Game.outcome s, paid⟩, q))
      ∧ (paid ≠ 0 → ¬ paid.toNat ≤ (L.get x.vault).lamports.toNat - 890880
            - p.lockedStakes.toNat + b.amount.toNat →
        p.after (Pool.settle (L.get x.vault).lamports Call.rentFloor b s)
          = .error .poolUnderfunded)
      ∧ (paid ≠ 0 → paid.toNat ≤ (L.get x.vault).lamports.toNat - 890880
            - p.lockedStakes.toNat + b.amount.toNat →
          ¬ p.totalPaidOut.toNat + paid.toNat < UInt64.size →
        p.after (Pool.settle (L.get x.vault).lamports Call.rentFloor b s)
          = .error .mathOverflow) := by
  have hsettle : Game.settle b.amount b.roll s = .ok ⟨Game.outcome s, paid⟩ :=
    Game.settle_eq_ok_iff.2 ⟨rfl, hpaid⟩
  obtain ⟨funds, hfunds, hspendable⟩ := h.funds_ok hL
  obtain ⟨openBets, lockedStakes, hopen, hlocked⟩ := h.released hL
  refine ⟨fun hgood => ?_, fun hne hshort => ?_, fun hne hcovered hfull => ?_⟩
  · have hcounts : p.totalPaidOut.toNat + paid.toNat < UInt64.size := by
      rcases hgood with hzero | ⟨_, hfits⟩
      · rw [hzero, UInt64.toNat_zero]
        exact p.totalPaidOut.toNat_lt_size
      · exact hfits
    obtain ⟨totalPaidOut, htotal⟩ := Word.exists_toNat_eq hcounts
    refine ⟨_, Pool.after_settle_eq_ok_iff.2 ⟨hsettle,
      fun hwon => ⟨funds, hfunds, ?_⟩, openBets, lockedStakes, totalPaidOut,
        hopen, hlocked, htotal, rfl⟩⟩
    rcases hgood with hzero | ⟨hcovered, _⟩
    · exact absurd hzero (Game.Settlement.won_iff.1 hwon)
    · rw [UInt64.le_iff_toNat_le, hspendable]
      exact hcovered
  · refine Pool.after_settle_of_underfunded hsettle
      (Game.Settlement.won_iff.2 hne) hfunds ?_
    rw [UInt64.le_iff_toNat_le, hspendable]
    exact hshort
  · refine Pool.after_settle_of_uncounted hsettle
      (Game.Settlement.won_iff.2 hne) hfunds ?_ hopen
      hlocked (Nat.le_of_not_lt hfull)
    rw [UInt64.le_iff_toNat_le, hspendable]
    exact hcovered

end Ledger.Holds

/-- What a settlement with the right accounts and the house's word answers in a
sound ledger. -/
theorem Sound.settlement_result (hS : Apart S) (hL : Sound S L)
    (htotal : L.total < UInt64.size) (h : L.Holds x b p)
    (hc : c.Seated .resolveBet x)
    (hdecode : Request.decode c.data = .ok (.resolveBet s))
    (hvouched : Ed25519.vouchPreceding c.index c.instruction?
      ⟨x.house, b.message, s⟩ = .ok ()) :
    (∀ t q,
      p.after (Pool.settle (L.get x.vault).lamports Call.rentFloor b s)
          = .ok (t, q) →
        ∃ r, (L.run c).result = .ok r)
      ∧ ∀ f,
        p.after (Pool.settle (L.get x.vault).lamports Call.rentFloor b s)
            = .error f →
          (L.run c).result = .error (.game f none) := by
  have heffects : c.effects L.slot L.get = c.resolveBet L.get s := by
    rw [Call.effects, hc.program, hdecode]
    rfl
  refine ⟨fun t q hq => ?_, fun f hf => ?_⟩
  · obtain ⟨e, he⟩ := Call.resolveBet_of_ok hS hL hc h htotal hvouched hq
    exact ⟨_, Ledger.run_of_ok (heffects.trans he)⟩
  · exact Ledger.run_of_error
      (heffects.trans (Call.resolveBet_of_error hL hc h hvouched hf))

/-- In every reachable ledger an open bet whose house has signed is settled,
unless it wins more than the pool can cover or more than the total of payouts
can count. -/
theorem Ledger.Reachable.settlement_accepted (hS : Apart S) (hL : L.Reachable S)
    (htotal : L.total < UInt64.size) {B : Key} (hb : L.bet? B = some b) :
    ∃ p, L.pool? b.pool = some p
      ∧ (∃ bump, find? (.pool p.house) = some (b.pool, bump))
      ∧ (∃ bump, find? (.vault p.house) = some (p.vault, bump))
      ∧ (∃ bump, find? (.bet p.vault b.seed) = some (B, bump))
      ∧ 890880 + p.lockedStakes.toNat ≤ (L.get p.vault).lamports.toNat
      ∧ ∀ s, ∃ paid, Game.payout b.amount b.roll (Game.outcome s) = .ok paid
        ∧ ∀ (c : Call) (i : Instruction), c.Seated .resolveBet (b.seats B p) →
          Request.decode c.data = .ok (.resolveBet s) →
          1 ≤ c.index.toNat → c.instruction? (c.index.toNat - 1) = some i →
          Ed25519.Vouches i ⟨p.house, b.message, s⟩ →
          let covered := paid.toNat ≤ (L.get p.vault).lamports.toNat - 890880
            - p.lockedStakes.toNat + b.amount.toNat
          let counted := p.totalPaidOut.toNat + paid.toNat < UInt64.size
          ((∃ r, (L.run c).result = .ok r) ↔ paid = 0 ∨ covered ∧ counted)
            ∧ (paid ≠ 0 → ¬ covered →
              (L.run c).result = .error (.game .poolUnderfunded none))
            ∧ (paid ≠ 0 → covered → ¬ counted →
              (L.run c).result = .error (.game .mathOverflow none)) := by
  have hsound := hL.sound hS
  obtain ⟨p, hp, hholds⟩ := hsound.holds hb
  have hpool := (hholds.goodPool hsound).stands
  have hbacked := (hholds.goodPool hsound).backed
  rw [Call.toNat_rentFloor] at hbacked
  refine ⟨p, hp, ⟨p.bump, hpool.find⟩, ⟨p.vaultBump, hpool.vaultFind⟩,
    ⟨b.bump, (hholds.stands hsound).find⟩, hbacked, fun s => ?_⟩
  obtain ⟨paid, hpaid⟩ := hholds.payout_ok hsound (Game.outcome s)
  refine ⟨paid, hpaid, fun c i hc hdecode hindex hpreceding hvouches => ?_⟩
  have hvouched :
      Ed25519.vouchPreceding c.index c.instruction? ⟨p.house, b.message, s⟩
        = .ok () :=
    Ed25519.vouchPreceding_eq_ok_iff.2 ⟨hindex, i, hpreceding, hvouches⟩
  obtain ⟨hok, herror⟩ :=
    hsound.settlement_result hS htotal hholds hc hdecode hvouched
  obtain ⟨hgood, hshort, hfull⟩ := hholds.settle_result hsound hpaid
  intro covered counted
  have hunderfunded : paid ≠ 0 → ¬ covered →
      (L.run c).result = .error (.game .poolUnderfunded none) :=
    fun hne hnot => herror _ (hshort hne hnot)
  have hoverflow : paid ≠ 0 → covered → ¬ counted →
      (L.run c).result = .error (.game .mathOverflow none) :=
    fun hne hcovered hnot => herror _ (hfull hne hcovered hnot)
  refine ⟨⟨fun hrun => ?_, fun hgoes => ?_⟩, hunderfunded, hoverflow⟩
  · -- A call that goes well has been told neither of the two causes.
    obtain ⟨r, hr⟩ := hrun
    refine Decidable.or_iff_not_imp_left.2 fun hne => ?_
    refine Decidable.byContradiction fun hnot => ?_
    by_cases hcovered : covered
    · rw [hoverflow hne hcovered fun hcounted =>
        hnot ⟨hcovered, hcounted⟩] at hr
      cases hr
    · rw [hunderfunded hne hcovered] at hr
      cases hr
  · obtain ⟨q, hq⟩ := hgood hgoes
    exact hok _ q hq

/-- The first run's bet wins nearly twice its stake, and the pool can pay
that. -/
theorem settlement_accepted_first_run :
    ∃ r, (Sample.ledger.run Sample.settling).result = .ok r := by
  have htotal : Sample.ledger.total < UInt64.size := by
    rw [Sample.stored.2.2]
    decide
  obtain ⟨p, hp, _, _, _, _, hsettle⟩ :=
    Ledger.Reachable.settlement_accepted Sample.apart
      Sample.reachable htotal Sample.stored.2.1
  have heq := hp.symm.trans Sample.stored.1
  cases heq
  obtain ⟨paid, hpaid, hresult⟩ := hsettle (Block.replicate 64 3)
  have hprice :
      (Game.payout 1000000 50 (Game.outcome (Block.replicate 64 3))).toOption
        = some 1970000 := by decide +kernel
  have hpaidEq : paid = 1970000 := by
    rw [hpaid] at hprice
    exact Option.some.inj hprice
  have hvouches : Ed25519.Vouches (Ed25519.Check.instruction ⟨Sample.house,
      Bet.message ⟨Sample.player, Sample.pool, 0, 5, 50, 1000000, 255⟩,
      Block.replicate 64 3⟩)
      ⟨Sample.house,
        Bet.message ⟨Sample.player, Sample.pool, 0, 5, 50, 1000000, 255⟩,
        Block.replicate 64 3⟩ :=
    Ed25519.ofInstruction?_eq_some_iff.1 (by decide +kernel)
  obtain ⟨haccepted, _⟩ :=
    hresult Sample.settling _ (Call.seated_of_accounts [] rfl rfl)
      (Request.decode_encode _) (by decide) rfl hvouches
  refine haccepted.2 (.inr ?_)
  rw [hpaidEq, Sample.vault_holds]
  decide

end HouseDice
