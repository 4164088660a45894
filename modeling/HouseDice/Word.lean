/-!
# Arithmetic of 64-bit words

Lamports, slots and counters are unsigned numbers of 64 bits. Their sums and
differences are never allowed to wrap: a checked operation has no value where
the true one does not fit, and a saturating one stops at the nearest end. Each
operation is pinned down by one equation over the natural numbers.
-/

namespace HouseDice.Word

def max : UInt64 := 0xffffffffffffffff

/-! ## Checked -/

/-- The sum, if it is a word. -/
def add? (a b : UInt64) : Option UInt64 :=
  if a.toNat + b.toNat < UInt64.size then some (a + b) else none

/-- The difference, if it is not negative. -/
def sub? (a b : UInt64) : Option UInt64 :=
  if b ≤ a then some (a - b) else none

/-- The word with this value, if there is one. -/
def ofNat? (n : Nat) : Option UInt64 :=
  if n < UInt64.size then some (UInt64.ofNat n) else none

theorem add?_eq_some_iff {a b c : UInt64} :
    add? a b = some c ↔ c.toNat = a.toNat + b.toNat := by
  have hc := c.toNat_lt_size
  unfold add?
  split
  next h =>
    rw [Option.some.injEq, ← UInt64.toNat_inj, UInt64.toNat_add,
      Nat.mod_eq_of_lt h, eq_comm]
  next h =>
    simp only [reduceCtorEq, false_iff]
    omega

theorem add?_eq_none_iff {a b : UInt64} :
    add? a b = none ↔ UInt64.size ≤ a.toNat + b.toNat := by
  unfold add?
  split
  next h =>
    simp only [reduceCtorEq, false_iff]
    omega
  next h =>
    simp only [true_iff]
    omega

theorem sub?_eq_some_iff {a b c : UInt64} :
    sub? a b = some c ↔ a.toNat = c.toNat + b.toNat := by
  unfold sub?
  split
  next h =>
    have hle := UInt64.le_iff_toNat_le.1 h
    rw [Option.some.injEq, ← UInt64.toNat_inj, UInt64.toNat_sub_of_le _ _ h]
    omega
  next h =>
    rw [UInt64.le_iff_toNat_le] at h
    simp only [reduceCtorEq, false_iff]
    omega

theorem sub?_eq_none_iff {a b : UInt64} :
    sub? a b = none ↔ a.toNat < b.toNat := by
  unfold sub?
  split
  next h =>
    rw [UInt64.le_iff_toNat_le] at h
    simp only [reduceCtorEq, false_iff]
    omega
  next h =>
    rw [UInt64.le_iff_toNat_le] at h
    simp only [true_iff]
    omega

theorem ofNat?_eq_some_iff {n : Nat} {a : UInt64} :
    ofNat? n = some a ↔ a.toNat = n := by
  have ha := a.toNat_lt_size
  unfold ofNat?
  split
  next h =>
    rw [Option.some.injEq, ← UInt64.toNat_inj, UInt64.toNat_ofNat',
      Nat.mod_eq_of_lt h, eq_comm]
  next h =>
    simp only [reduceCtorEq, false_iff]
    omega

theorem ofNat?_eq_none_iff {n : Nat} : ofNat? n = none ↔ UInt64.size ≤ n := by
  unfold ofNat?
  split
  next h =>
    simp only [reduceCtorEq, false_iff]
    omega
  next h =>
    simp only [true_iff]
    omega

theorem pos_iff {a : UInt64} : 0 < a ↔ 0 < a.toNat := by
  rw [UInt64.lt_iff_toNat_lt, UInt64.toNat_zero]

theorem ne_zero_of_toNat_pos {a : UInt64} (h : 0 < a.toNat) : a ≠ 0 :=
  UInt64.pos_iff_ne_zero.1 (pos_iff.2 h)

theorem exists_toNat_eq {n : Nat} (h : n < UInt64.size) :
    ∃ a : UInt64, a.toNat = n :=
  ⟨UInt64.ofNat n, by rw [UInt64.toNat_ofNat', Nat.mod_eq_of_lt h]⟩

/-! ## Saturating -/

/-- The sum, or the largest word where the sum is none. -/
def satAdd (a b : UInt64) : UInt64 := (add? a b).getD max

/-- The difference, or zero where it is negative. -/
def satSub (a b : UInt64) : UInt64 := (sub? a b).getD 0

theorem toNat_satAdd (a b : UInt64) :
    (satAdd a b).toNat = min (a.toNat + b.toNat) (UInt64.size - 1) := by
  unfold satAdd
  cases h : add? a b with
  | none =>
    rw [add?_eq_none_iff] at h
    rw [Option.getD_none, show max.toNat = UInt64.size - 1 from rfl]
    omega
  | some c =>
    have hc := c.toNat_lt_size
    rw [add?_eq_some_iff] at h
    rw [Option.getD_some]
    omega

theorem toNat_satSub (a b : UInt64) :
    (satSub a b).toNat = a.toNat - b.toNat := by
  unfold satSub
  cases h : sub? a b with
  | none =>
    rw [sub?_eq_none_iff] at h
    rw [Option.getD_none, UInt64.toNat_zero]
    omega
  | some c =>
    rw [sub?_eq_some_iff] at h
    rw [Option.getD_some]
    omega

end HouseDice.Word
