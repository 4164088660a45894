import HouseDice.Game.Rules
import Mathlib.Algebra.BigOperators.Group.Finset.Basic
import Mathlib.Data.BitVec
import Mathlib.Data.FinEnum
import Mathlib.Data.Fintype.Prod
import Mathlib.Data.Int.CardIntervalMod
import Mathlib.Logic.Equiv.Prod
import Mathlib.Tactic.Linarith
import Mathlib.Tactic.NormNum

/-!
# How outcomes are spread

An outcome is read off a digest, and whoever trusts the digest to be any one of
the `2 ^ 256` there are wants to know how many of them stand for each outcome.
They can be counted, because each step from a digest to its outcome is
understood. A digest is written from one pair of numbers of 128 bits and from no
other. A pair with a given sum is known by its first number, so every sum comes
up `2 ^ 128` times, and that is what the wrapping is good for: a sum that
stopped at the end would come up there far too often. What is left is the
remainder of a number below `2 ^ 128` modulo 100, and 100 does not divide
`2 ^ 128`: of the remainders, the lowest 56 come up once more than the others.

So the outcomes up to 56 are drawn a little more often than the rest. No way to
deal the sums out to a hundred outcomes is more even, and what a roll gains by
it is less than `2 ^ (-121)`.
-/

namespace HouseDice

open Finset

/-! ## Counting blocks -/

/-- A layout pairs blocks off with values. -/
def Layout.equiv {α : Type} (a : Layout α) : Block a.size ≃ α where
  toFun := a.decode
  invFun := a.encode
  left_inv := a.encode_decode
  right_inv := a.decode_encode

/-- A block is the writing of one number. -/
def Block.number (n : ℕ) : Block n ≃ BitVec (8 * n) :=
  (Layout.littleEndian n).equiv

-- Only here: elsewhere nothing should be decided by going through all blocks.
local instance (n : ℕ) : Fintype (Block n) :=
  Fintype.ofEquiv (BitVec (8 * n)) (Block.number n).symm

theorem card_bitVec (w : ℕ) : Fintype.card (BitVec w) = 2 ^ w := by
  rw [Fintype.card_congr BitVec.equivFin.toEquiv, Fintype.card_fin]

theorem Block.card (n : ℕ) : Fintype.card (Block n) = 2 ^ (8 * n) := by
  rw [Fintype.card_congr (Block.number n), card_bitVec]

namespace Game

/-! ## From a digest to its sum -/

/-- A digest is the writing of one pair of numbers. -/
def halves : Block 32 ≃ BitVec 128 × BitVec 128 :=
  (Layout.u128.prod Layout.u128).equiv

/-- A pair of numbers is known by the first of them and the sum. -/
def mix : BitVec 128 × BitVec 128 ≃ BitVec 128 × BitVec 128 :=
  Equiv.prodShear (Equiv.refl (BitVec 128)) Equiv.addLeft

/-- The sum of a digest's halves. -/
def sum (digest : Block 32) : BitVec 128 := (mix (halves digest)).2

theorem toNat_sum (digest : Block 32) : (sum digest).toNat
    = (Base256.value (digest.bytes.take 16)
      + Base256.value (digest.bytes.drop 16)) % 2 ^ 128 := by
  show (BitVec.ofNat 128 (Base256.value (digest.bytes.take 16))
    + BitVec.ofNat 128 (Base256.value (digest.bytes.drop 16))).toNat = _
  rw [BitVec.toNat_add, BitVec.toNat_ofNat, BitVec.toNat_ofNat, ← Nat.add_mod]

/-- A remainder fits into a byte with room for one more. -/
theorem toNat_outcomeOf (digest : Block 32) :
    (outcomeOf digest).toNat = (sum digest).toNat % 100 + 1 := by
  have hlt : (sum digest).toNat % 100 < 100 := Nat.mod_lt _ (by decide)
  show (UInt8.ofNat ((sum digest).toNat % 100) + 1).toNat = _
  rw [UInt8.toNat_add, UInt8.toNat_ofNat', UInt8.toNat_one]
  omega

theorem outcomeOf_mem (digest : Block 32) :
    1 ≤ (outcomeOf digest).toNat ∧ (outcomeOf digest).toNat ≤ 100 := by
  have hlt : (sum digest).toNat % 100 < 100 := Nat.mod_lt _ (by decide)
  rw [toNat_outcomeOf]
  omega

/-- Every sum comes up as often as there are first halves. -/
theorem card_sum (P : BitVec 128 → Prop) [DecidablePred P] :
    #{d : Block 32 | P (sum d)} = 2 ^ 128 * #{s : BitVec 128 | P s} := by
  have hpairs : #{d : Block 32 | P (sum d)}
      = #{x : BitVec 128 × BitVec 128 | P x.2} := by
    apply card_equiv (halves.trans mix)
    intro d
    rw [mem_filter_univ, mem_filter_univ]
    rfl
  rw [hpairs, ← univ_product_univ, filter_product_right, card_product,
    card_univ, card_bitVec]

/-- The numbers of 128 bits are the numbers below `2 ^ 128`. -/
theorem card_words (P : ℕ → Prop) [DecidablePred P] :
    #{s : BitVec 128 | P s.toNat} = Nat.count P (2 ^ 128) := by
  rw [Nat.count_eq_card_filter_range]
  apply card_nbij BitVec.toNat
  · intro s hs
    rw [mem_coe, mem_filter_univ] at hs
    exact mem_coe.2 (mem_filter.2 ⟨mem_range.2 s.isLt, hs⟩)
  · intro s _ t _ h
    exact BitVec.toNat_inj.1 h
  · intro n hn
    obtain ⟨hlt, hP⟩ := mem_filter.1 (mem_coe.1 hn)
    have hsame : (BitVec.ofNat 128 n).toNat = n := by
      rw [BitVec.toNat_ofNat, Nat.mod_eq_of_lt (mem_range.1 hlt)]
    refine ⟨BitVec.ofNat 128 n, ?_, hsame⟩
    rw [mem_coe, mem_filter_univ, hsame]
    exact hP

/-! ## From a sum to its outcome -/

theorem count_remainder {k : ℕ} (hlow : 1 ≤ k) (hhigh : k ≤ 100) :
    Nat.count (fun n => n % 100 + 1 = k) (2 ^ 128)
      = 2 ^ 128 / 100 + if k ≤ 56 then 1 else 0 := by
  have hsame : (fun n => n % 100 + 1 = k) = (fun n => n ≡ k - 1 [MOD 100]) := by
    funext n
    rw [Nat.ModEq, Nat.mod_eq_of_lt (show k - 1 < 100 by omega)]
    exact propext (by omega)
  have hleft : 2 ^ 128 % 100 = 56 := by norm_num
  simp only [hsame]
  rw [Nat.count_modEq_card _ (by decide), hleft,
    Nat.mod_eq_of_lt (show k - 1 < 100 by omega)]
  congr 1
  by_cases hk : k ≤ 56
  · rw [if_pos hk, if_pos (by omega)]
  · rw [if_neg hk, if_neg (by omega)]

/-- How many digests stand for an outcome. -/
theorem card_outcomeOf_eq {k : ℕ} (hlow : 1 ≤ k) (hhigh : k ≤ 100) :
    #{d : Block 32 | (outcomeOf d).toNat = k}
      = 2 ^ 128 * (2 ^ 128 / 100 + if k ≤ 56 then 1 else 0) := by
  simp only [toNat_outcomeOf]
  rw [card_sum (fun s => s.toNat % 100 + 1 = k),
    card_words (fun n => n % 100 + 1 = k), count_remainder hlow hhigh]

/-- How many digests stand for the outcomes up to a roll. -/
theorem card_outcomeOf_le {t : ℕ} (ht : t ≤ 100) :
    #{d : Block 32 | (outcomeOf d).toNat ≤ t}
      = 2 ^ 128 * (2 ^ 128 / 100 * t + min t 56) := by
  induction t with
  | zero =>
    rw [Nat.mul_zero, Nat.zero_min, Nat.mul_zero, card_eq_zero,
      filter_eq_empty_iff]
    intro d _
    have hone := (outcomeOf_mem d).1
    omega
  | succ t ih =>
    have hdisjoint : Disjoint (univ.filter fun d => (outcomeOf d).toNat ≤ t)
        (univ.filter fun d => (outcomeOf d).toNat = t + 1) := by
      rw [disjoint_filter]
      intro d _ hle
      omega
    rw [filter_congr fun d _ => Nat.le_add_one_iff, filter_or,
      card_union_of_disjoint hdisjoint, ih (by omega),
      card_outcomeOf_eq (by omega) ht, ← Nat.mul_add, Nat.mul_add _ t,
      Nat.mul_one]
    congr 1
    split
    next hk => omega
    next hk => omega

/-! ## What a roll gains -/

/-- A hundred times the sums for the outcomes up to a roll are as many as the
roll times all sums, and less than `100 * 2 ^ 7` more. -/
theorem share_bounds {t : ℕ} (ht : t ≤ 100) :
    2 ^ 128 * t ≤ 100 * (2 ^ 128 / 100 * t + min t 56)
      ∧ 100 * (2 ^ 128 / 100 * t + min t 56) < 2 ^ 128 * t + 100 * 2 ^ 7 := by
  omega

/-- The part of the digests that stands for an outcome up to a roll. -/
theorem fraction_bounds {t : ℕ} (ht : t ≤ 100) :
    (t / 100 : ℚ)
      ≤ #{d : Block 32 | (outcomeOf d).toNat ≤ t} / Fintype.card (Block 32)
      ∧ (#{d : Block 32 | (outcomeOf d).toNat ≤ t}
        / Fintype.card (Block 32) : ℚ)
        < t / 100 + 1 / 2 ^ 121 := by
  obtain ⟨hle, hlt⟩ := share_bounds ht
  rw [card_outcomeOf_le ht, Block.card]
  generalize 2 ^ 128 / 100 * t + min t 56 = share at hle hlt ⊢
  have hleQ : (2 ^ 128 * t : ℚ) ≤ 100 * share := by exact_mod_cast hle
  have hltQ : (100 * share : ℚ) < 2 ^ 128 * t + 100 * 2 ^ 7 := by
    exact_mod_cast hlt
  have hcancel : ((2 ^ 128 * share : ℕ) : ℚ) / ((2 ^ (8 * 32) : ℕ) : ℚ)
      = share / 2 ^ 128 := by
    have hsquare : 2 ^ (8 * 32) = 2 ^ 128 * 2 ^ 128 := by norm_num
    rw [hsquare, Nat.cast_mul, Nat.cast_mul, mul_div_mul_left _ _ (by norm_num),
      Nat.cast_pow, Nat.cast_ofNat]
  rw [hcancel]
  constructor
  · rw [le_div_iff₀ (by norm_num)]
    linarith
  · rw [div_lt_iff₀ (by norm_num)]
    linarith

/-- Outcomes are spread as evenly as they can be. An outcome is a function of
the digest alone: the sum of its halves as numbers, wrapped at `2 ^ 128`, modulo
100 and counted from one, and no byte of it is lost. Of the `2 ^ 256` digests,
each outcome up to 56 has `2 ^ 128` more than each of the others. So the part of
them that stands for the outcomes up to a roll is never less than the roll says,
and not by `2 ^ (-121)` more. -/
theorem draws_even :
    (∀ s : Signature, outcome s = outcomeOf (Sha256.digest s.bytes))
    ∧ (∀ d : Block 32, (outcomeOf d).toNat
          = (Base256.value (d.bytes.take 16) + Base256.value (d.bytes.drop 16))
            % 2 ^ 128 % 100 + 1
        ∧ 1 ≤ outcomeOf d ∧ outcomeOf d ≤ 100)
    ∧ Fintype.card (Block 32) = 2 ^ 256
    ∧ (∀ k : UInt8, 1 ≤ k → k ≤ 100 → #{d : Block 32 | outcomeOf d = k}
        = if k ≤ 56 then 2 ^ 128 * (2 ^ 128 / 100 + 1)
          else 2 ^ 128 * (2 ^ 128 / 100))
    ∧ ∀ t : UInt8, 1 ≤ t → t ≤ 99 →
      (t.toNat / 100 : ℚ)
        ≤ #{d : Block 32 | outcomeOf d ≤ t} / Fintype.card (Block 32)
        ∧ (#{d : Block 32 | outcomeOf d ≤ t} / Fintype.card (Block 32) : ℚ)
          - t.toNat / 100 < 1 / 2 ^ 121 := by
  refine ⟨fun _ => rfl, ?_, Block.card 32, ?_, ?_⟩
  · intro d
    obtain ⟨hlow, hhigh⟩ := outcomeOf_mem d
    refine ⟨?_, UInt8.le_iff_toNat_le.2 hlow, UInt8.le_iff_toNat_le.2 hhigh⟩
    rw [toNat_outcomeOf, toNat_sum]
  · intro k hlow hhigh
    rw [UInt8.le_iff_toNat_le] at hlow hhigh
    have hcard := card_outcomeOf_eq hlow hhigh
    simp only [UInt8.toNat_inj] at hcard
    rw [hcard]
    by_cases hk : k ≤ 56
    · have hlowest : k.toNat ≤ 56 := UInt8.le_iff_toNat_le.1 hk
      rw [if_pos hk, if_pos hlowest]
    · have hother : ¬ k.toNat ≤ 56 := fun h => hk (UInt8.le_iff_toNat_le.2 h)
      rw [if_neg hk, if_neg hother, Nat.add_zero]
  · intro t _ hhigh
    have hninetynine : t.toNat ≤ 99 := UInt8.le_iff_toNat_le.1 hhigh
    obtain ⟨hle, hlt⟩ := fraction_bounds (show t.toNat ≤ 100 by omega)
    simp only [← UInt8.le_iff_toNat_le] at hle hlt
    exact ⟨hle, by linarith⟩

/-- The last outcome that is drawn more often, the first that is not, and what a
roll of 50 gains. -/
theorem draws_even_fifty :
    #{d : Block 32 | outcomeOf d = 56} = 2 ^ 128 * (2 ^ 128 / 100 + 1)
      ∧ #{d : Block 32 | outcomeOf d = 57} = 2 ^ 128 * (2 ^ 128 / 100)
      ∧ (50 / 100 : ℚ)
        ≤ #{d : Block 32 | outcomeOf d ≤ 50} / Fintype.card (Block 32) := by
  obtain ⟨-, -, -, hcount, hfraction⟩ := draws_even
  exact ⟨hcount 56 (by decide) (by decide), hcount 57 (by decide) (by decide),
    (hfraction 50 (by decide) (by decide)).1⟩

end Game

end HouseDice
