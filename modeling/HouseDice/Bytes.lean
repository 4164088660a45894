/-!
# Byte strings and blocks

Everything the program reads or stores is a byte string, and most of it comes in
blocks of one known length: keys, signatures, digests, fixed-width numbers. A
`Block n` carries its length in its type, so a reader that has cut one off
never has to check it again.
-/

namespace HouseDice

abbrev Bytes := List UInt8

/-- A byte string of length `n`. -/
structure Block (n : Nat) where
  bytes : Bytes
  length_eq : bytes.length = n
deriving DecidableEq

namespace Block

@[ext]
theorem ext {n : Nat} {a b : Block n} (h : a.bytes = b.bytes) : a = b := by
  cases a
  cases b
  cases h
  rfl

def replicate (n : Nat) (byte : UInt8) : Block n :=
  ⟨List.replicate n byte, List.length_replicate⟩

/-- The block with exactly these bytes, if there are `n` of them. -/
def ofBytes? (n : Nat) (bytes : Bytes) : Option (Block n) :=
  if h : bytes.length = n then some ⟨bytes, h⟩ else none

/-! ## Joining and splitting -/

def append {m n : Nat} (a : Block m) (b : Block n) : Block (m + n) :=
  ⟨a.bytes ++ b.bytes, by rw [List.length_append, a.length_eq, b.length_eq]⟩

def left {m n : Nat} (b : Block (m + n)) : Block m :=
  ⟨b.bytes.take m, by rw [List.length_take, b.length_eq]; omega⟩

def right {m n : Nat} (b : Block (m + n)) : Block n :=
  ⟨b.bytes.drop m, by rw [List.length_drop, b.length_eq]; omega⟩

@[simp]
theorem left_append {m n : Nat} (a : Block m) (b : Block n) :
    (a.append b).left = a := by
  apply Block.ext
  simp only [left, append]
  rw [List.take_left' a.length_eq]

@[simp]
theorem right_append {m n : Nat} (a : Block m) (b : Block n) :
    (a.append b).right = b := by
  apply Block.ext
  simp only [right, append]
  rw [List.drop_left' a.length_eq]

@[simp]
theorem append_left_right {m n : Nat} (b : Block (m + n)) :
    b.left.append b.right = b := by
  apply Block.ext
  simp only [left, right, append, List.take_append_drop]

end Block

/-! ## Cutting a block out of a byte string -/

/-- The `len` bytes from position `start` on, if the string reaches that far. -/
def slice? (data : Bytes) (start len : Nat) : Option (Block len) :=
  if h : start + len ≤ data.length then
    some ⟨(data.drop start).take len,
      by rw [List.length_take, List.length_drop]; omega⟩
  else none

theorem slice?_eq_some_iff {data : Bytes} {start len : Nat} {b : Block len} :
    slice? data start len = some b ↔
      start + len ≤ data.length ∧ (data.drop start).take len = b.bytes := by
  unfold slice?
  split
  next h => simp [h, Block.ext_iff]
  next h => simp [h]

theorem slice?_eq_none_iff {data : Bytes} {start len : Nat} :
    slice? data start len = none ↔ data.length < start + len := by
  unfold slice?
  split
  next h => simp; omega
  next h => simp; omega

/-- A block in front of a byte string is what a cut at its start gives back. -/
theorem slice?_zero_append {n : Nat} (b : Block n) (rest : Bytes) :
    slice? (b.bytes ++ rest) 0 n = some b := by
  rw [slice?_eq_some_iff]
  refine ⟨?_, ?_⟩
  · simp [b.length_eq]
  · rw [List.drop_zero, List.take_left' b.length_eq]

end HouseDice
