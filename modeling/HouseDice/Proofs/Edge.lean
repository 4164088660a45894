import HouseDice.Proofs.Price

/-!
# What the house keeps

A price is rounded down, and what is rounded away is the house's. Three things
follow that every player can check before a bet is placed. Over the hundred
outcomes, each drawn once, the house pays no more than 98.5 of a hundred stakes,
and less than that only by what is rounded away: less than a lamport for each
outcome that wins. Two bets instead of one, on the same roll and for the same
stake together, are never paid more, and at most a lamport less. And a higher
roll is never paid more than a lower one.

The last two hold of the most that a bet can pay, and so of what has to be
available for it: where a stake can be placed, a part of it can be, and all of
it on a higher roll.
-/

namespace HouseDice.Game

variable {amount other a b available most : UInt64} {roll high : UInt8}

/-! ## Over all outcomes -/

/-- What the outcomes from 1 to a last one pay together, each of them drawn
once. -/
def payAll (amount : UInt64) (roll : UInt8) : ℕ → Except GameError ℕ
  | 0 => .ok 0
  | last + 1 => do
    let before ← payAll amount roll last
    let paid ← payout amount roll (UInt8.ofNat (last + 1))
    return before + paid.toNat

/-- The outcomes up to the roll pay the most, and the others nothing. -/
theorem payAll_eq (h : maxPayout amount roll = .ok most) {last : ℕ}
    (hlast : last < UInt8.size) :
    payAll amount roll last = .ok (min last roll.toNat * most.toNat) := by
  induction last with
  | zero => rw [payAll, Nat.zero_min, Nat.zero_mul]
  | succ last ih =>
    have hdrawn : (UInt8.ofNat (last + 1)).toNat = last + 1 := by
      rw [UInt8.toNat_ofNat', Nat.mod_eq_of_lt hlast]
    rw [payAll, ih (by omega), ok_bind, payout_of_maxPayout h, ok_bind]
    refine congrArg Except.ok ?_
    by_cases hlost : roll < UInt8.ofNat (last + 1)
    · rw [if_pos hlost, UInt64.toNat_zero, Nat.add_zero]
      rw [UInt8.lt_iff_toNat_lt, hdrawn] at hlost
      rw [Nat.min_eq_right (by omega), Nat.min_eq_right (by omega)]
    · rw [if_neg hlost]
      rw [UInt8.lt_iff_toNat_lt, hdrawn] at hlost
      rw [Nat.min_eq_left (by omega), Nat.min_eq_left (by omega), Nat.add_mul,
        Nat.one_mul]

/-- Less than a lamport is rounded away for each hundredth that the roll
counts. -/
theorem price_bounds (amount : UInt64) (hroll : 1 ≤ roll.toNat) :
    100 * (roll.toNat * price amount roll) ≤ 9850 * amount.toNat
      ∧ 9850 * amount.toNat
        < 100 * (roll.toNat * price amount roll) + 100 * roll.toNat := by
  have hle := Nat.div_mul_le_self (amount.toNat * 9850) (100 * roll.toNat)
  have hlt := Nat.lt_div_mul_add (a := amount.toNat * 9850)
    (show 0 < 100 * roll.toNat by omega)
  have hmul : price amount roll * (100 * roll.toNat)
      = 100 * (roll.toNat * price amount roll) := by
    ring
  rw [← price, hmul] at hle hlt
  constructor
  · omega
  · omega

/-- The house edge is kept over the whole space of outcomes. A hundred bets on
one roll that draw each outcome once are all paid, and together they get the
most as often as the roll says. That is no more than 98.5 stakes, and less only
by what is rounded away, which is less than a lamport for each of them that
wins. So of the hundred stakes the house keeps 1.5 percent at least. -/
theorem house_edge_kept (hhigh : roll ≤ 99)
    (h : maxPayout amount roll = .ok most) :
    ∃ total, payAll amount roll rollRange = .ok total
      ∧ total = roll.toNat * most.toNat
      ∧ (total : ℚ) ≤ 98.5 * amount.toNat
      ∧ 98.5 * amount.toNat - roll.toNat < (total : ℚ)
      ∧ (1.5 / 100 : ℚ) * (rollRange * amount.toNat)
        ≤ rollRange * amount.toNat - total := by
  obtain ⟨hroll, hmost⟩ := maxPayout_eq_ok_iff.1 h
  have hninetynine : roll.toNat ≤ 99 := UInt8.le_iff_toNat_le.1 hhigh
  have hrange : rollRange = 100 := rfl
  obtain ⟨hle, hlt⟩ := price_bounds amount hroll
  rw [price, ← hmost] at hle hlt
  have hleQ : (100 : ℚ) * (roll.toNat * most.toNat) ≤ 9850 * amount.toNat := by
    exact_mod_cast hle
  have hltQ : (9850 : ℚ) * amount.toNat
      < 100 * (roll.toNat * most.toNat) + 100 * roll.toNat := by
    exact_mod_cast hlt
  refine ⟨roll.toNat * most.toNat, ?_, rfl, ?_, ?_, ?_⟩
  · rw [payAll_eq h (by decide), hrange, Nat.min_eq_right (by omega)]
  · push_cast
    linarith
  · push_cast
    linarith
  · rw [hrange]
    push_cast
    linarith

/-- A thousand lamports on 3 are worth 32833 and a third, so the three winners
of a hundred leave the house one lamport more than its share. -/
theorem house_edge_kept_thousand :
    ∃ total, payAll 1000 3 rollRange = .ok total ∧ total = 98499 := by
  have hmost : maxPayout 1000 3 = .ok 32833 := by decide
  obtain ⟨total, htotal, hpaid, -⟩ := house_edge_kept (by decide) hmost
  exact ⟨total, htotal, hpaid⟩

/-! ## Two bets for one, and a higher roll -/

/-- What has the lower price has one of at most 64 bits if the other has. -/
theorem maxPayout_of_price_le (h : maxPayout amount roll = .ok most)
    (hhigh : 1 ≤ high.toNat) (hle : price other high ≤ price amount roll) :
    ∃ less, maxPayout other high = .ok less ∧ less.toNat = price other high
      ∧ less ≤ most := by
  obtain ⟨-, hmost⟩ := maxPayout_eq_ok_iff.1 h
  rw [← price] at hmost
  have hfits : price other high < UInt64.size := by
    have hlt := most.toNat_lt_size
    omega
  obtain ⟨less, hless⟩ := Word.exists_toNat_eq hfits
  refine ⟨less, maxPayout_eq_ok_iff.2 ⟨hhigh, hless⟩, hless, ?_⟩
  rw [UInt64.le_iff_toNat_le]
  omega

/-- So what has the lower price can be placed where the other can. -/
theorem exposure_of_price_le (h : exposure available amount roll = .ok most)
    (hhigh : 1 ≤ high.toNat) (hle : price other high ≤ price amount roll) :
    ∃ less, exposure available other high = .ok less := by
  obtain ⟨hmost, havailable⟩ := exposure_eq_ok_iff.1 h
  obtain ⟨less, hless, -, hlower⟩ := maxPayout_of_price_le hmost hhigh hle
  exact ⟨less, exposure_eq_ok_iff.2 ⟨hless, UInt64.le_trans hlower havailable⟩⟩

/-- The fractions that two prices lose make a lamport at most. -/
theorem price_add (hroll : 1 ≤ roll.toNat) (hsum : a.toNat + b.toNat < 2 ^ 64) :
    price a roll + price b roll ≤ price (a + b) roll
      ∧ price (a + b) roll ≤ price a roll + price b roll + 1 := by
  have hpos : 0 < 100 * roll.toNat := by omega
  have hadd : (a + b).toNat = a.toNat + b.toNat := by
    rw [UInt64.toNat_add, Nat.mod_eq_of_lt hsum]
  rw [price, price, price, hadd, Nat.add_mul, Nat.add_div hpos]
  split
  next => omega
  next => omega

theorem price_le_of_roll_le (hroll : 1 ≤ roll.toNat) (hle : roll ≤ high) :
    price amount high ≤ price amount roll := by
  rw [UInt8.le_iff_toNat_le] at hle
  rw [price, price]
  apply Nat.div_le_div_left
  · omega
  · omega

/-- Splitting a stake never gains. If the most that is paid for a stake is
known, it is known for both parts of it and for all of it on a higher roll; the
parts together are paid no more than the whole, and at most a lamport less, and
the higher roll is paid no more than the lower one. So wherever the whole stake
can be placed, each part of it can be, and all of it on a higher roll. -/
theorem split_never_gains (hsum : a.toNat + b.toNat < 2 ^ 64) (hroll : 1 ≤ roll)
    (hle : roll ≤ high) :
    (∀ whole, maxPayout (a + b) roll = .ok whole → ∃ first second higher,
      maxPayout a roll = .ok first ∧ maxPayout b roll = .ok second
        ∧ maxPayout (a + b) high = .ok higher
        ∧ first.toNat + second.toNat ≤ whole.toNat
        ∧ whole.toNat ≤ first.toNat + second.toNat + 1
        ∧ higher ≤ whole)
    ∧ ∀ available, (∃ most, exposure available (a + b) roll = .ok most) →
      (∃ most, exposure available a roll = .ok most)
        ∧ (∃ most, exposure available b roll = .ok most)
        ∧ ∃ most, exposure available (a + b) high = .ok most := by
  rw [UInt8.le_iff_toNat_le] at hroll
  obtain ⟨hlower, hupper⟩ := price_add hroll hsum
  have hfirst : price a roll ≤ price (a + b) roll := by omega
  have hsecond : price b roll ≤ price (a + b) roll := by omega
  have hhigher : price (a + b) high ≤ price (a + b) roll :=
    price_le_of_roll_le hroll hle
  have hhigh : 1 ≤ high.toNat :=
    Nat.le_trans hroll (UInt8.le_iff_toNat_le.1 hle)
  constructor
  · intro whole hwhole
    obtain ⟨first, hA, hpriceA, -⟩ := maxPayout_of_price_le hwhole hroll hfirst
    obtain ⟨second, hB, hpriceB, -⟩ :=
      maxPayout_of_price_le hwhole hroll hsecond
    obtain ⟨higher, hH, -, hleH⟩ := maxPayout_of_price_le hwhole hhigh hhigher
    obtain ⟨-, hprice⟩ := maxPayout_eq_ok_iff.1 hwhole
    rw [← price] at hprice
    refine ⟨first, second, higher, hA, hB, hH, ?_, ?_, hleH⟩
    · omega
    · omega
  · intro available hwhole
    obtain ⟨most, hmost⟩ := hwhole
    exact ⟨exposure_of_price_le hmost hroll hfirst,
      exposure_of_price_le hmost hroll hsecond,
      exposure_of_price_le hmost hhigh hhigher⟩

/-- On 60, two lamports pay three and one pays one; on 99 two pay one. -/
theorem split_never_gains_two :
    (∃ first second higher, maxPayout 1 60 = .ok first
      ∧ maxPayout 1 60 = .ok second ∧ maxPayout (1 + 1) 99 = .ok higher
      ∧ first.toNat + second.toNat ≤ 3 ∧ 3 ≤ first.toNat + second.toNat + 1
      ∧ higher ≤ 3)
    ∧ ∃ most, exposure 3 (1 + 1) 99 = .ok most := by
  have hwhole : maxPayout (1 + 1) 60 = .ok 3 := by decide
  have hplaced : exposure 3 (1 + 1) 60 = .ok 3 := by decide
  obtain ⟨hmost, hexposure⟩ :=
    @split_never_gains 1 1 60 99 (by decide) (by decide) (by decide)
  exact ⟨hmost 3 hwhole, (hexposure 3 ⟨3, hplaced⟩).2.2⟩

end HouseDice.Game
