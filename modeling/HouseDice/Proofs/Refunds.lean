import HouseDice.Proofs.Reachable

/-!
# A refund is always available

Nobody can keep a player from taking a stake back, and nothing that happened to
the pool in between can. Once the time of a bet is over its refund succeeds; one
slot earlier it fails, and being early is the cause that is reported. The bet's
own keys are enough to ask for it.

The pool can count the refund. It counts the bet among the open ones and the
stake among the locked ones, and the total of refunds has room because refunds
and locked stakes together are no more than what was wagered. The vault can pay
it because it holds every locked stake.
-/

namespace HouseDice

open Address

variable {S : Set Purpose} {L : Ledger} {c : Call} {x : Seats} {b : Bet}
  {p : Pool}

/-- The keys of a bet under `B` against the pool `p`. -/
def Bet.seats (b : Bet) (B : Key) (p : Pool) : Seats :=
  ⟨p.house, b.player, b.pool, p.vault, B⟩

theorem Sound.holds (hL : Sound S L) {B : Key} (hb : L.bet? B = some b) :
    ∃ p, L.pool? b.pool = some p ∧ L.Holds (b.seats B p) b p := by
  obtain ⟨p, hp, _⟩ := (hL.bet B b hb).pool
  exact ⟨p, hp, hb, hp, rfl, rfl, rfl, rfl⟩

theorem Ledger.Holds.refund_counted (h : L.Holds x b p) (hL : Sound S L)
    (htime : Game.refundable b.slot L.slot = .ok ()) :
    ∃ q, p.after (Pool.refund b L.slot) = .ok (b.amount, q) := by
  obtain ⟨openBets, lockedStakes, hopen, hlocked⟩ := h.released hL
  have hrefunded := (h.goodPool hL).refunded
  have hwagered := p.totalWagered.toNat_lt_size
  have hfits : p.totalRefunded.toNat + b.amount.toNat < UInt64.size := by omega
  obtain ⟨totalRefunded, htotal⟩ := Word.exists_toNat_eq hfits
  exact ⟨_, Pool.after_refund_eq_ok_iff.2 ⟨htime, rfl, openBets, lockedStakes,
    totalRefunded, hopen, hlocked, htotal, rfl⟩⟩

/-- What a refund with the right accounts answers in a sound ledger. -/
theorem Sound.refund_result (hS : Apart S) (hL : Sound S L)
    (htotal : L.total < UInt64.size) (h : L.Holds x b p)
    (hc : c.Seated .refundBet x)
    (hdecode : Request.decode c.data = .ok .refundBet) :
    (min (b.slot.toNat + 1000) (UInt64.size - 1) ≤ L.slot.toNat →
        ∃ r, (L.run c).result = .ok r)
      ∧ (¬ min (b.slot.toNat + 1000) (UInt64.size - 1) ≤ L.slot.toNat →
        (L.run c).result = .error (.game .timeoutNotReached none)) := by
  have heffects : c.effects L.slot L.get = c.refundBet L.slot L.get := by
    rw [Call.effects, hc.program, hdecode]
    rfl
  refine ⟨fun htime => ?_, fun hearly => ?_⟩
  · obtain ⟨q, hq⟩ := h.refund_counted hL (Game.refundable_eq_ok_iff.2 htime)
    obtain ⟨e, he⟩ := Call.refundBet_of_ok hS hL hc h htotal hq
    exact ⟨_, Ledger.run_of_ok (heffects.trans he)⟩
  · have hrefused :=
      Pool.after_refund_of_early (p := p) (Game.refundable_of_early hearly)
    exact Ledger.run_of_error
      (heffects.trans (Call.refundBet_of_error hL hc h hrefused))

/-- In every reachable ledger the player of an open bet gets the stake back from
the slot in which its time is over on, and before that is told that it is too
early. -/
theorem Ledger.Reachable.refund_available (hS : Apart S) (hL : L.Reachable S)
    (htotal : L.total < UInt64.size) {B : Key} (hb : L.bet? B = some b) :
    ∃ p, L.pool? b.pool = some p
      ∧ (∃ bump, find? (.pool p.house) = some (b.pool, bump))
      ∧ (∃ bump, find? (.vault p.house) = some (p.vault, bump))
      ∧ (∃ bump, find? (.bet p.vault b.seed) = some (B, bump))
      ∧ ∀ c : Call, c.Seated .refundBet (b.seats B p) →
        Request.decode c.data = .ok .refundBet →
        ((∃ r, (L.run c).result = .ok r) ↔
            min (b.slot.toNat + 1000) (UInt64.size - 1) ≤ L.slot.toNat)
          ∧ (¬ min (b.slot.toNat + 1000) (UInt64.size - 1) ≤ L.slot.toNat →
            (L.run c).result = .error (.game .timeoutNotReached none)) := by
  have hsound := hL.sound hS
  obtain ⟨p, hp, hholds⟩ := hsound.holds hb
  have hpool := (hholds.goodPool hsound).stands
  refine ⟨p, hp, ⟨p.bump, hpool.find⟩, ⟨p.vaultBump, hpool.vaultFind⟩,
    ⟨b.bump, (hholds.stands hsound).find⟩, fun c hc hdecode => ?_⟩
  obtain ⟨hlate, hearly⟩ := hsound.refund_result hS htotal hholds hc hdecode
  refine ⟨⟨fun hok => ?_, hlate⟩, hearly⟩
  -- A call that goes well has not been told that it is too early.
  refine Decidable.byContradiction fun htime => ?_
  obtain ⟨r, hr⟩ := hok
  rw [hearly htime] at hr
  cases hr

/-- A thousand slots after the bet of the first run its refund goes through. -/
theorem refund_available_first_run :
    ∃ r, (Sample.late.run (Sample.call .refundBet)).result = .ok r := by
  have htotal : Sample.late.total < UInt64.size := by
    rw [Sample.late_stored.2.2]
    decide
  obtain ⟨p, hp, _, _, _, hrefund⟩ :=
    Ledger.Reachable.refund_available Sample.apart
      Sample.late_reachable htotal Sample.late_stored.2.1
  have heq := hp.symm.trans Sample.late_stored.1
  cases heq
  exact (hrefund _ Sample.refunding_seated (Request.decode_encode _)).1.2
    (by decide)

end HouseDice
