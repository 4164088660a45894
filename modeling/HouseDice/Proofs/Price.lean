import HouseDice.Proofs.Game.Rules
import Mathlib.Algebra.Order.Floor.Semifield
import Mathlib.Data.Rat.Floor
import Mathlib.Tactic.Linarith

/-!
# The price of a bet

What a winner is owed is the stake at the odds of the roll, less what the house
keeps: a rational number, of which the program pays the whole lamports. It comes
to them by a product and two divisions, each of the divisions rounded down. That
looks as if it could lose more than a fraction of a lamport, and as if the
product could leave the 128 bits it is computed in. Neither happens: two floors
in a row are the floor of the one quotient, and a stake of 64 bits times 9850
has 78 bits at most.

So there is one number behind every payout, the price, and only two ways to be
refused: a roll of zero, and a price that does not fit into 64 bits. For every
roll there is a smallest stake from which on that happens.
-/

namespace HouseDice

/-! ## Numbers of 128 bits -/

/-- A number of 128 bits. -/
abbrev Wide := BitVec 128

namespace Wide

/-- The product, if it has no more bits. -/
def mul? (a b : Wide) : Option Wide :=
  if a.toNat * b.toNat < 2 ^ 128 then some (a * b) else none

/-- The quotient in whole numbers, unless the divisor is zero. -/
def div? (a b : Wide) : Option Wide :=
  if b = 0 then none else some (a / b)

theorem mul?_eq_some_iff {a b c : Wide} :
    mul? a b = some c ↔ c.toNat = a.toNat * b.toNat := by
  have hc : c.toNat < 2 ^ 128 := c.isLt
  unfold mul?
  split
  next h =>
    rw [Option.some.injEq, ← BitVec.toNat_inj, BitVec.toNat_mul,
      Nat.mod_eq_of_lt h, eq_comm]
  next h =>
    simp only [reduceCtorEq, false_iff]
    omega

theorem div?_eq_some_iff {a b c : Wide} :
    div? a b = some c ↔ b.toNat ≠ 0 ∧ c.toNat = a.toNat / b.toNat := by
  have hzero : b = 0 ↔ b.toNat = 0 := BitVec.toNat_inj.symm
  unfold div?
  split
  next h =>
    simp only [reduceCtorEq, false_iff]
    intro hc
    exact hc.1 (hzero.1 h)
  next h =>
    rw [Option.some.injEq, ← BitVec.toNat_inj, BitVec.toNat_udiv, eq_comm]
    rw [hzero] at h
    exact (and_iff_right h).symm

theorem toNat_ofNat {n : ℕ} (h : n < 2 ^ 128) :
    (BitVec.ofNat 128 n).toNat = n := by
  rw [BitVec.toNat_ofNat, Nat.mod_eq_of_lt h]

theorem mul?_ofNat {m n : ℕ} (hm : m < 2 ^ 128) (hn : n < 2 ^ 128)
    (hproduct : m * n < 2 ^ 128) :
    mul? (BitVec.ofNat 128 m) (BitVec.ofNat 128 n)
      = some (BitVec.ofNat 128 (m * n)) := by
  rw [mul?_eq_some_iff, toNat_ofNat hm, toNat_ofNat hn, toNat_ofNat hproduct]

theorem div?_ofNat {m n : ℕ} (hm : m < 2 ^ 128) (hn : n < 2 ^ 128)
    (hpos : n ≠ 0) :
    div? (BitVec.ofNat 128 m) (BitVec.ofNat 128 n)
      = some (BitVec.ofNat 128 (m / n)) := by
  have hquotient : m / n < 2 ^ 128 :=
    Nat.lt_of_le_of_lt (Nat.div_le_self m n) hm
  rw [div?_eq_some_iff, toNat_ofNat hm, toNat_ofNat hn, toNat_ofNat hquotient]
  exact ⟨hpos, rfl⟩

end Wide

namespace Game

variable {amount most : UInt64} {roll drawn : UInt8}

/-! ## The price -/

/-- What a winner is owed, to the fraction of a lamport. -/
def worth (amount : UInt64) (roll : UInt8) : ℚ :=
  9850 * amount.toNat / (100 * roll.toNat)

/-- The price is the worth in whole lamports. -/
theorem floor_worth (amount : UInt64) (roll : UInt8) :
    ⌊worth amount roll⌋₊ = price amount roll := by
  have hworth : worth amount roll
      = ((amount.toNat * 9850 : ℕ) : ℚ) / ((100 * roll.toNat : ℕ) : ℚ) := by
    rw [worth]
    push_cast
    ring
  rw [hworth, Nat.floor_div_eq_div, price]

theorem payout_eq (amount : UInt64) (roll drawn : UInt8) :
    payout amount roll drawn
      = if roll < drawn then .ok 0
        else (do
          ensure (minRoll ≤ roll) .invalidThreshold
          demand (Word.ofNat? (price amount roll)) .mathOverflow) := by
  rw [payout, ← floors_eq_price]

theorem maxPayout_of_roll (hroll : minRoll ≤ roll) :
    maxPayout amount roll
      = demand (Word.ofNat? (price amount roll)) .mathOverflow := by
  have hself : ¬ roll < roll := UInt8.lt_irrefl roll
  rw [maxPayout, payout_eq, if_neg hself, ensure_of hroll, ok_bind]

theorem maxPayout_overflow_iff (hroll : minRoll ≤ roll) :
    maxPayout amount roll = .error .mathOverflow ↔
    2 ^ 64 ≤ price amount roll := by
  rw [maxPayout_of_roll hroll, demand_eq_error_iff, Word.ofNat?_eq_none_iff]
  exact and_iff_left rfl

/-- Nobody draws zero; on a roll of zero it would win, and there is no price for
that. -/
theorem payout_cases (amount : UInt64) (roll drawn : UInt8) :
    payout amount roll drawn
      = if roll < drawn then .ok 0
        else if drawn = 0 ∧ roll = 0 then .error .invalidThreshold
        else if price amount roll < 2 ^ 64 then
          .ok (UInt64.ofNat (price amount roll))
        else .error .mathOverflow := by
  rw [payout_eq]
  by_cases hlost : roll < drawn
  · rw [if_pos hlost, if_pos hlost]
  · rw [if_neg hlost, if_neg hlost]
    by_cases hroll : minRoll ≤ roll
    · have hzero : ¬ (drawn = 0 ∧ roll = 0) := by
        rintro ⟨-, rfl⟩
        exact absurd hroll (by decide)
      have hsize : UInt64.size = 2 ^ 64 := rfl
      rw [ensure_of hroll, ok_bind, if_neg hzero, Word.ofNat?, hsize]
      by_cases hfits : price amount roll < 2 ^ 64
      · rw [if_pos hfits, if_pos hfits, demand_some]
      · rw [if_neg hfits, if_neg hfits]
        rfl
    · have hzero : drawn = 0 ∧ roll = 0 := by
        rw [UInt8.lt_iff_toNat_lt] at hlost
        rw [UInt8.le_iff_toNat_le, minRoll, UInt8.toNat_one] at hroll
        rw [← UInt8.toNat_inj, ← UInt8.toNat_inj, UInt8.toNat_zero]
        omega
      rw [ensure_of_not hroll, error_bind, if_pos hzero]

/-! ## The machine's way -/

/-- Where the machine can stop on its way to a payout. -/
inductive Halt where
  | threshold
  /-- The product has more than 128 bits. -/
  | product
  /-- The product is divided by a roll of zero. -/
  | odds
  /-- The quotient is divided by a scale of zero. -/
  | scale
  /-- The price has more than 64 bits. -/
  | narrowing
deriving DecidableEq

/-- What is said of a stop. -/
def Halt.error : Halt → GameError
  | threshold => .invalidThreshold
  | product => .mathOverflow
  | odds => .mathOverflow
  | scale => .mathOverflow
  | narrowing => .mathOverflow

/-- The payout as a machine computes it, in 128 bits. -/
def reckon (amount : UInt64) (roll drawn : UInt8) : Except Halt UInt64 :=
  if roll < drawn then .ok 0
  else do
    ensure (minRoll ≤ roll) .threshold
    let stake : Wide := BitVec.ofNat 128 amount.toNat
    let share ← demand
      (stake.mul? (BitVec.ofNat 128 (bpsDenominator - houseEdgeBps))) .product
    let quotient ← demand (share.div? (BitVec.ofNat 128 roll.toNat)) .odds
    let scaled ← demand (quotient.div? (BitVec.ofNat 128 rollScale)) .scale
    demand (Word.ofNat? scaled.toNat) .narrowing

/-- No step of the machine goes wrong: a stake has 64 bits and the share of it
that is paid is below 10000, so the product fits, and neither the roll nor the
scale is zero. -/
theorem reckon_of_win (hwin : ¬ roll < drawn) (hroll : minRoll ≤ roll) :
    reckon amount roll drawn
      = demand (Word.ofNat? (price amount roll)) .narrowing := by
  have hamount : amount.toNat < 2 ^ 64 := amount.toNat_lt
  have hbyte : roll.toNat < 2 ^ 8 := roll.toNat_lt
  have hone : 1 ≤ roll.toNat := UInt8.le_iff_toNat_le.1 hroll
  have hshare : bpsDenominator - houseEdgeBps = 9850 := rfl
  have hscale : rollScale = 100 := rfl
  -- Every number on the way is below `2 ^ 128`, and so it is what its bits say.
  have hproduct : amount.toNat * 9850 < 2 ^ 128 := by omega
  have hquotient : amount.toNat * 9850 / roll.toNat < 2 ^ 128 :=
    Nat.lt_of_le_of_lt (Nat.div_le_self _ _) hproduct
  have hprice : amount.toNat * 9850 / roll.toNat / 100 = price amount roll :=
    floors_eq_price amount roll
  have hscaled : price amount roll < 2 ^ 128 :=
    Nat.lt_of_le_of_lt (hprice ▸ Nat.div_le_self _ _) hquotient
  rw [reckon, if_neg hwin, ensure_of hroll, ok_bind, hshare, hscale]
  simp only [
    Wide.mul?_ofNat (show amount.toNat < 2 ^ 128 by omega) (by decide) hproduct,
    Wide.div?_ofNat hproduct (show roll.toNat < 2 ^ 128 by omega) (by omega),
    Wide.div?_ofNat hquotient (show 100 < 2 ^ 128 by decide) (by decide),
    demand_some, ok_bind, hprice, Wide.toNat_ofNat hscaled]

theorem reckon_eq (amount : UInt64) (roll drawn : UInt8) :
    reckon amount roll drawn
      = if roll < drawn then .ok 0
        else (do
          ensure (minRoll ≤ roll) .threshold
          demand (Word.ofNat? (price amount roll)) .narrowing) := by
  by_cases hlost : roll < drawn
  · rw [if_pos hlost, reckon, if_pos hlost]
  · rw [if_neg hlost]
    by_cases hroll : minRoll ≤ roll
    · rw [reckon_of_win hlost hroll, ensure_of hroll, ok_bind]
    · rw [reckon, if_neg hlost, ensure_of_not hroll, error_bind, error_bind]

theorem mapError_reckon (amount : UInt64) (roll drawn : UInt8) :
    (reckon amount roll drawn).mapError Halt.error
      = payout amount roll drawn := by
  rw [reckon_eq, payout_eq]
  split
  next => rfl
  next =>
    rw [mapError_bind, mapError_ensure]
    simp only [mapError_demand, Halt.error]

theorem halt_of_reckon {halt : Halt}
    (h : reckon amount roll drawn = .error halt) :
    halt = .threshold ∨ halt = .narrowing := by
  rw [reckon_eq] at h
  split at h
  next => cases h
  next =>
    obtain hroll | ⟨-, -, hprice⟩ := bind_eq_error_iff.1 h
    · exact .inl (ensure_eq_error_iff.1 hroll).2.symm
    · exact .inr (demand_eq_error_iff.1 hprice).2.symm

/-! ## The frontier -/

/-- From which stake on a price has more than 64 bits. -/
theorem overflow_le_price_iff (hroll : 1 ≤ roll.toNat) :
    2 ^ 64 ≤ price amount roll
      ↔ ⌈(2 ^ 64 * 100 * roll.toNat / 9850 : ℚ)⌉₊ ≤ amount.toNat := by
  have hpos : 0 < 100 * roll.toNat := by omega
  rw [price, Nat.le_div_iff_mul_le hpos, Nat.ceil_le, div_le_iff₀ (by norm_num)]
  rw [← Nat.mul_assoc]
  constructor
  · intro h
    exact_mod_cast h
  · intro h
    exact_mod_cast h

/-! ## What is paid -/

/-- A bet whose most is known can be settled whatever is drawn, for the most or
for nothing. -/
theorem payout_le_maxPayout (h : maxPayout amount roll = .ok most)
    (drawn : UInt8) :
    ∃ paid, payout amount roll drawn = .ok paid ∧ paid ≤ most
      ∧ (drawn ≤ roll → paid = most) := by
  refine ⟨_, payout_of_maxPayout h drawn, ?_⟩
  split
  next hlost =>
    refine ⟨UInt64.le_iff_toNat_le.2 (Nat.zero_le _), ?_⟩
    intro hwin
    exact absurd hlost (UInt8.not_lt.2 hwin)
  next hwin => exact ⟨UInt64.le_refl most, fun _ => rfl⟩

/-- Payouts are exact. A bet pays nothing above its roll, and there is no price
for a roll of zero; otherwise it pays the exact rational worth of the stake,
rounded down once, or is refused if that has more than 64 bits. A machine that
multiplies and divides twice in 128 bits comes to the same answer, and neither
its product nor its quotients ever fail. So a bet whose most is known has a
payout for every outcome, never more than that, and just that up to its roll.
And the stakes whose most has more than 64 bits are those from a frontier on,
which every roll has its own of. -/
theorem payout_exact :
    (∀ (amount : UInt64) (roll drawn : UInt8),
      payout amount roll drawn
          = (if roll < drawn then .ok 0
            else if drawn = 0 ∧ roll = 0 then .error .invalidThreshold
            else if ⌊worth amount roll⌋₊ < 2 ^ 64 then
              .ok (UInt64.ofNat ⌊worth amount roll⌋₊)
            else .error .mathOverflow)
        ∧ (reckon amount roll drawn).mapError Halt.error
          = payout amount roll drawn
        ∧ ∀ halt, reckon amount roll drawn = .error halt →
          halt = .threshold ∨ halt = .narrowing)
    ∧ (∀ (amount most : UInt64) (roll : UInt8),
      1 ≤ roll → maxPayout amount roll = .ok most →
      ∀ drawn, ∃ paid, payout amount roll drawn = .ok paid ∧ paid ≤ most
        ∧ (drawn ≤ roll → paid = most))
    ∧ ∀ (amount : UInt64) (roll : UInt8), 1 ≤ roll → roll ≤ 99 →
      (maxPayout amount roll = .error .mathOverflow
        ↔ ⌈(2 ^ 64 * 100 * roll.toNat / 9850 : ℚ)⌉₊ ≤ amount.toNat) := by
  refine ⟨?_, ?_, ?_⟩
  · intro amount roll drawn
    refine ⟨?_, mapError_reckon amount roll drawn, fun halt => halt_of_reckon⟩
    rw [floor_worth]
    exact payout_cases amount roll drawn
  · intro amount most roll _ hmost
    exact payout_le_maxPayout hmost
  · intro amount roll hlow _
    rw [maxPayout_overflow_iff hlow,
      overflow_le_price_iff (UInt8.le_iff_toNat_le.1 hlow)]

/-- The largest stake on roll 1 that has a price, and the next one, which has
none. -/
theorem payout_exact_frontier :
    (∃ paid, payout 187276589580807630 1 1 = .ok paid
      ∧ paid = 18446744073709551555)
      ∧ maxPayout 187276589580807631 1 = .error .mathOverflow := by
  obtain ⟨-, hpays, hfrontier⟩ := payout_exact
  have hmost : maxPayout 187276589580807630 1 = .ok 18446744073709551555 := by
    decide
  obtain ⟨paid, hpaid, -, hwin⟩ := hpays _ _ 1 (by decide) hmost 1
  refine ⟨⟨paid, hpaid, hwin (by decide)⟩, ?_⟩
  apply (hfrontier 187276589580807631 1 (by decide) (by decide)).2
  have hamount : (187276589580807631 : UInt64).toNat = 187276589580807631 := rfl
  rw [hamount, Nat.ceil_le, UInt8.toNat_one]
  norm_num

end Game

end HouseDice
