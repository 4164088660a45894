import HouseDice.CheckError
import HouseDice.Ensure
import HouseDice.Hash.Sha256
import HouseDice.Layout

/-!
# Tagged records

What the program stores in an account or writes into its log begins with a tag
of eight bytes that says what follows. A tag is the front of the digest of a
name, so records of different kinds never read as one another. Bytes behind a
record are not part of it and are left alone.
-/

namespace HouseDice

/-- The tag that belongs to a name: the first eight bytes of its digest. -/
def Sha256.tag (name : String) : Bytes :=
  (Sha256.digest (name.toList.map fun c => UInt8.ofNat c.toNat)).bytes.take 8

/-- How values of `α` are stored: a tag, then the value. -/
structure Record (α : Type) where
  tag : Block 8
  layout : Layout α

namespace Record

variable {α : Type}

def size (r : Record α) : Nat := 8 + r.layout.size

def encode (r : Record α) (x : α) : Bytes := r.tag.bytes ++ r.layout.write x

/-- The value behind a tag that nobody looks at. -/
def decodeUntagged (r : Record α) (data : Bytes) : Except CheckError α :=
  demand (r.layout.read? (data.drop 8)) .shortData

def decode (r : Record α) (data : Bytes) : Except CheckError α :=
  match slice? data 0 8 with
  | none => .error .noTag
  | some tag => if tag = r.tag then r.decodeUntagged data else .error .otherTag

/-- Writes a value over the front of some data and keeps the rest. -/
def overwrite (r : Record α) (data : Bytes) (x : α) : Bytes :=
  r.encode x ++ data.drop r.size

@[simp]
theorem length_encode (r : Record α) (x : α) :
    (r.encode x).length = r.size := by
  rw [encode, List.length_append, r.tag.length_eq, Layout.length_write, size]

/-- A stored value reads back, whatever follows it. -/
@[simp]
theorem decode_encode_append (r : Record α) (x : α) (rest : Bytes) :
    r.decode (r.encode x ++ rest) = .ok x := by
  rw [decode, encode, List.append_assoc, slice?_zero_append]
  simp only [if_true, decodeUntagged]
  rw [List.drop_left' r.tag.length_eq, Layout.read?_write_append]
  rfl

/-- Reading finds exactly the value whose stored form the data starts with. -/
theorem decode_eq_ok_iff (r : Record α) {data : Bytes} {x : α} :
    r.decode data = .ok x ↔ ∃ rest, data = r.encode x ++ rest := by
  constructor
  · intro h
    unfold decode at h
    split at h
    next => exact absurd h (by simp)
    next tag htag =>
      split at h
      next heq =>
        obtain ⟨rest, hrest⟩ :=
          r.layout.read?_eq_some_iff.1 (demand_eq_ok_iff.1 h)
        have hfront := (slice?_eq_some_iff.1 htag).2
        rw [List.drop_zero] at hfront
        refine ⟨rest, ?_⟩
        rw [encode, List.append_assoc, ← hrest, ← heq, ← hfront,
          List.take_append_drop]
      next => exact absurd h (by simp)
  · intro h
    obtain ⟨rest, rfl⟩ := h
    exact r.decode_encode_append x rest

end Record

end HouseDice
