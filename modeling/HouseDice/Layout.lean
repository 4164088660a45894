import HouseDice.Base256
import HouseDice.Bytes

/-!
# Fixed-width layouts

A `Layout α` says how a value of `α` is written: it is a bijection between `α`
and the blocks of one length. Layouts are put together field by field, so a
record's layout is a product of its fields' layouts, and the two facts every
account and message needs hold for all of them at once: what was written reads
back, and every block of the right length is the writing of exactly one value.

Numbers are written little-endian, least byte first.
-/

namespace HouseDice

/-! ## Layouts -/

/-- A way to write every value of `α` in `size` bytes, with nothing left
unused. -/
structure Layout (α : Type) where
  size : Nat
  encode : α → Block size
  decode : Block size → α
  decode_encode : ∀ a, decode (encode a) = a
  encode_decode : ∀ b, encode (decode b) = b

namespace Layout

variable {α β : Type}

def block (n : Nat) : Layout (Block n) where
  size := n
  encode b := b
  decode b := b
  decode_encode _ := rfl
  encode_decode _ := rfl

/-- A number of `8 * n` bits, least byte first. -/
def littleEndian (n : Nat) : Layout (BitVec (8 * n)) where
  size := n
  encode v := ⟨Base256.digits n v.toNat, Base256.length_digits n v.toNat⟩
  decode b := BitVec.ofNat (8 * n) (Base256.value b.bytes)
  decode_encode v := by
    apply BitVec.eq_of_toNat_eq
    rw [Base256.toNat_ofNat_eq_mod_weight, Base256.value_digits, Nat.mod_mod,
      Nat.mod_eq_of_lt (Base256.toNat_lt_weight v)]
  encode_decode b := by
    apply Block.ext
    have hb : Base256.value b.bytes < Base256.weight n := by
      have h := Base256.value_lt b.bytes
      rwa [b.length_eq] at h
    show Base256.digits n (BitVec.ofNat (8 * n) (Base256.value b.bytes)).toNat
      = b.bytes
    rw [Base256.toNat_ofNat_eq_mod_weight, Nat.mod_eq_of_lt hb]
    have h := Base256.digits_value b.bytes
    rwa [b.length_eq] at h

def prod (a : Layout α) (b : Layout β) : Layout (α × β) where
  size := a.size + b.size
  encode x := (a.encode x.1).append (b.encode x.2)
  decode c := (a.decode c.left, b.decode c.right)
  decode_encode x := by
    simp only [Block.left_append, Block.right_append, a.decode_encode,
      b.decode_encode]
  encode_decode c := by
    simp only [a.encode_decode, b.encode_decode, Block.append_left_right]

/-- The same bytes, read as another type with as many values. -/
def via (a : Layout α) (there : α → β) (back : β → α)
    (there_back : ∀ y, there (back y) = y)
    (back_there : ∀ x, back (there x) = x) : Layout β where
  size := a.size
  encode y := a.encode (back y)
  decode c := there (a.decode c)
  decode_encode y := by rw [a.decode_encode, there_back]
  encode_decode c := by rw [back_there, a.encode_decode]

def u8 : Layout UInt8 :=
  (littleEndian 1).via UInt8.ofBitVec UInt8.toBitVec (fun _ => rfl)
    (fun _ => rfl)

def u16 : Layout UInt16 :=
  (littleEndian 2).via UInt16.ofBitVec UInt16.toBitVec (fun _ => rfl)
    (fun _ => rfl)

def u64 : Layout UInt64 :=
  (littleEndian 8).via UInt64.ofBitVec UInt64.toBitVec (fun _ => rfl)
    (fun _ => rfl)

def u128 : Layout (BitVec 128) := littleEndian 16

/-! ## Reading from the front of a byte string -/

def write (a : Layout α) (x : α) : Bytes := (a.encode x).bytes

/-- The value in front of a byte string; whatever follows it is not looked
at. -/
def read? (a : Layout α) (data : Bytes) : Option α :=
  (slice? data 0 a.size).map a.decode

@[simp]
theorem length_write (a : Layout α) (x : α) : (a.write x).length = a.size :=
  (a.encode x).length_eq

@[simp]
theorem read?_write_append (a : Layout α) (x : α) (rest : Bytes) :
    a.read? (a.write x ++ rest) = some x := by
  rw [read?, write, slice?_zero_append, Option.map_some, a.decode_encode]

/-- Reading finds exactly the value whose writing the string starts with. -/
theorem read?_eq_some_iff (a : Layout α) {data : Bytes} {x : α} :
    a.read? data = some x ↔ ∃ rest, data = a.write x ++ rest := by
  constructor
  · intro h
    obtain ⟨b, hb, rfl⟩ := Option.map_eq_some_iff.1 h
    refine ⟨data.drop a.size, ?_⟩
    rw [write, a.encode_decode]
    have hcut := (slice?_eq_some_iff.1 hb).2
    rw [List.drop_zero] at hcut
    rw [← hcut, List.take_append_drop]
  · intro h
    obtain ⟨rest, rfl⟩ := h
    exact a.read?_write_append x rest

theorem read?_eq_none_iff (a : Layout α) {data : Bytes} :
    a.read? data = none ↔ data.length < a.size := by
  rw [read?, Option.map_eq_none_iff, slice?_eq_none_iff, Nat.zero_add]

theorem write_inj (a : Layout α) {x y : α} : a.write x = a.write y ↔ x = y := by
  constructor
  · intro h
    have hx := a.decode_encode x
    rwa [show a.encode x = a.encode y from Block.ext h, a.decode_encode,
      eq_comm] at hx
  · rintro rfl
    rfl

end Layout

end HouseDice
