import HouseDice.Bytes

/-!
# Numbers in base 256

A byte string is a numeral in base 256, written with its least digit first or
with its greatest first. `digits` and `value` are the two directions for the
first order; for strings of one length they are inverse to each other, which is
all that a fixed-width layout has to know about numbers. The second order is the
first one reversed.
-/

namespace HouseDice.Base256

/-- The lowest `n` base-256 digits of a number, least first. -/
def digits : Nat → Nat → Bytes
  | 0, _ => []
  | n + 1, v => UInt8.ofNat v :: digits n (v / 256)

/-- The number that a string of base-256 digits denotes, least first. -/
def value : Bytes → Nat
  | [] => 0
  | b :: rest => b.toNat + 256 * value rest

/-- What a digit counts at a place, and so how many numbers that many digits can
denote. -/
def weight : Nat → Nat
  | 0 => 1
  | n + 1 => 256 * weight n

@[simp]
theorem length_digits (n v : Nat) : (digits n v).length = n := by
  induction n generalizing v with
  | zero => rfl
  | succ n ih => rw [digits, List.length_cons, ih]

theorem value_lt (b : Bytes) : value b < weight b.length := by
  induction b with
  | nil => exact Nat.one_pos
  | cons x rest ih =>
    have hx : x.toNat < 256 := x.toNat_lt
    rw [value, List.length_cons, weight]
    omega

theorem value_digits (n v : Nat) : value (digits n v) = v % weight n := by
  induction n generalizing v with
  | zero => rw [digits, value, weight, Nat.mod_one]
  | succ n ih =>
    rw [digits, value, ih, UInt8.toNat_ofNat', weight, Nat.mod_mul]

theorem digits_value (b : Bytes) : digits b.length (value b) = b := by
  induction b with
  | nil => rfl
  | cons x rest ih =>
    have hx : x.toNat < 256 := x.toNat_lt
    have hlow : UInt8.ofNat (x.toNat + 256 * value rest) = x := by
      apply UInt8.toNat_inj.1
      rw [UInt8.toNat_ofNat']
      omega
    have hhigh : (x.toNat + 256 * value rest) / 256 = value rest := by omega
    rw [value, List.length_cons, digits, hlow, hhigh, ih]

theorem weight_eq_pow (n : Nat) : weight n = Nat.pow 2 (8 * n) := by
  induction n with
  | zero => rfl
  | succ n ih =>
    rw [weight, ih]
    show 256 * Nat.pow 2 (8 * n) = Nat.pow 2 (8 * n + 8)
    show 256 * Nat.pow 2 (8 * n) = Nat.pow 2 (8 * n) * 2 * 2 * 2 * 2 * 2 * 2 * 2
      * 2
    omega

theorem toNat_lt_weight {n : Nat} (v : BitVec (8 * n)) : v.toNat < weight n :=
  weight_eq_pow n ▸ v.isLt

theorem toNat_ofNat_eq_mod_weight (n x : Nat) :
    (BitVec.ofNat (8 * n) x).toNat = x % weight n := by
  rw [weight_eq_pow]
  exact BitVec.toNat_ofNat x (8 * n)

/-! ## Greatest digit first -/

/-- The lowest `n` base-256 digits of a number, greatest first. -/
def bigDigits (n v : Nat) : Bytes := (digits n v).reverse

/-- The number that a string of base-256 digits denotes, greatest first. -/
def bigValue (b : Bytes) : Nat := value b.reverse

@[simp]
theorem length_bigDigits (n v : Nat) : (bigDigits n v).length = n := by
  rw [bigDigits, List.length_reverse, length_digits]

theorem value_inj {a b : Bytes} (hlen : a.length = b.length)
    (h : value a = value b) : a = b := by
  rw [← digits_value a, ← digits_value b, hlen, h]

theorem bigValue_inj {a b : Bytes} (hlen : a.length = b.length)
    (h : bigValue a = bigValue b) :
    a = b := by
  apply List.reverse_inj.1
  apply value_inj _ h
  rw [List.length_reverse, List.length_reverse, hlen]

end HouseDice.Base256
