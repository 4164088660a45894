import HouseDice.Game.Rules

/-!
# What the rules say in numbers

Each rule that a call asks is turned into the condition under which it lets the
call go on, over the natural numbers where words are compared.
-/

namespace HouseDice.Game

variable {amount placed current : UInt64} {roll : UInt8} {u : Unit}

theorem validate_eq_ok_iff :
    validate amount roll = .ok u ↔ 0 < amount ∧ 1 ≤ roll ∧ roll ≤ 99 := by
  simp only [validate, bind_eq_ok_iff, ensure_eq_ok_iff, exists_const]
  exact Iff.rfl

theorem validate_eq_ok_iff_toNat : validate amount roll = .ok u ↔
    0 < amount.toNat ∧ 1 ≤ roll.toNat ∧ roll.toNat ≤ 99 := by
  rw [validate_eq_ok_iff, Word.pos_iff, UInt8.le_iff_toNat_le,
    UInt8.le_iff_toNat_le]
  rfl

theorem le_satAdd_timeout_iff :
    Word.satAdd placed refundTimeoutSlots ≤ current ↔
    min (placed.toNat + 1000) (UInt64.size - 1) ≤ current.toNat := by
  rw [UInt64.le_iff_toNat_le, Word.toNat_satAdd]
  exact Iff.rfl

theorem refundable_eq_ok_iff : refundable placed current = .ok u ↔
    min (placed.toNat + 1000) (UInt64.size - 1) ≤ current.toNat := by
  rw [refundable, ensure_eq_ok_iff, le_satAdd_timeout_iff]

/-- What a winner is owed in whole lamports. -/
def price (amount : UInt64) (roll : UInt8) : Nat :=
  amount.toNat * 9850 / (100 * roll.toNat)

/-- Two floors in a row are the floor of the one quotient. -/
theorem floors_eq_price (amount : UInt64) (roll : UInt8) :
    amount.toNat * (bpsDenominator - houseEdgeBps) / roll.toNat / rollScale
      = price amount roll := by
  rw [price, Nat.div_div_eq_div_mul, Nat.mul_comm roll.toNat]
  rfl

/-- The most that a bet can pay is the stake less the house's share, at the
price of its roll. -/
theorem maxPayout_eq_ok_iff {most : UInt64} : maxPayout amount roll = .ok most ↔
    1 ≤ roll.toNat ∧ most.toNat = amount.toNat * 9850 / (100 * roll.toNat) := by
  have hself : ¬ roll < roll := UInt8.lt_irrefl roll
  simp only [maxPayout, payout, if_neg hself, bind_eq_ok_iff, ensure_eq_ok_iff,
    exists_const, demand_eq_ok_iff, Word.ofNat?_eq_some_iff, floors_eq_price,
    price, minRoll, UInt8.le_iff_toNat_le, UInt8.toNat_one]

/-- A winner gets the same for every outcome, and so what it gets for its own
roll. -/
theorem payout_of_win {drawn : UInt8} (h : ¬ roll < drawn) :
    payout amount roll drawn = maxPayout amount roll := by
  have hself : ¬ roll < roll := UInt8.lt_irrefl roll
  rw [maxPayout, payout, payout, if_neg h, if_neg hself]

/-- What a bet pays is either nothing or the most that it can. -/
theorem payout_of_maxPayout {most : UInt64}
    (h : maxPayout amount roll = .ok most) (drawn : UInt8) :
    payout amount roll drawn = .ok (if roll < drawn then 0 else most) := by
  by_cases hlost : roll < drawn
  · rw [if_pos hlost, payout, if_pos hlost]
  · rw [if_neg hlost, payout_of_win hlost, h]

theorem exposure_eq_ok_iff {availableLamports most : UInt64} :
    exposure availableLamports amount roll = .ok most ↔
    maxPayout amount roll = .ok most ∧ most ≤ availableLamports := by
  simp only [exposure, bind_eq_ok_iff, ensure_eq_ok_iff, exists_const, pure,
    Except.pure, Except.ok.injEq]
  constructor
  · intro h
    obtain ⟨_, hmost, hle, rfl⟩ := h
    exact ⟨hmost, hle⟩
  · intro h
    exact ⟨most, h.1, h.2, rfl⟩

/-- Too early is the only thing that can be wrong. -/
theorem refundable_of_early
    (h : ¬ min (placed.toNat + 1000) (UInt64.size - 1) ≤ current.toNat) :
    refundable placed current = .error .timeoutNotReached := by
  rw [refundable, ensure_eq_error_iff, le_satAdd_timeout_iff]
  exact ⟨h, rfl⟩

theorem settle_eq_ok_iff {s : Signature} {t : Settlement} :
    settle amount roll s = .ok t ↔ t.outcome = outcome s
      ∧ payout amount roll (outcome s) = .ok t.payout := by
  simp only [settle, bind_eq_ok_iff, pure, Except.pure, Except.ok.injEq]
  constructor
  · intro h
    obtain ⟨paid, hpaid, rfl⟩ := h
    exact ⟨rfl, hpaid⟩
  · intro h
    obtain ⟨houtcome, hpaid⟩ := h
    refine ⟨t.payout, hpaid, ?_⟩
    rw [← houtcome]

theorem Settlement.won_iff {t : Settlement} : t.won ↔ t.payout ≠ 0 := by
  rw [won, decide_eq_true_eq]
  exact UInt64.pos_iff_ne_zero

theorem Settlement.payout_of_lost {t : Settlement} (h : ¬ t.won) :
    t.payout.toNat = 0 := by
  rw [won, decide_eq_true_eq, Word.pos_iff] at h
  omega

end HouseDice.Game
