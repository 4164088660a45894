import HouseDice.Proofs.Ledger.Stored

/-!
# What reads as an account

What an account holds need not have been written by this program: a closed
account has no data, a new one has zeros, and another program's has anything. So
it matters what reading makes of every string of bytes and not only of those
that writing produced. The answer is told by two things, how long the string is
and what its first eight bytes are. They decide whether there is a record and
what is wrong if there is none. If there is one, then it is the only record that
is written with exactly those bytes, for a layout leaves no bytes unused.

Everything here is about any kind of record. Pools and bets differ in their tags
and in their sizes, and as the tags differ no string reads as both.
-/

namespace HouseDice

variable {α : Type}

namespace Record

variable {r : Record α} {data : Bytes} {x : α} {e : CheckError}

/-! ## One kind of record -/

/-- The questions in their order: is there a tag, is it this one, and what
stands behind it? -/
theorem decode_eq (r : Record α) (data : Bytes) : r.decode data =
    if data.length < 8 then .error .noTag
    else if data.take 8 ≠ r.tag.bytes then .error .otherTag
    else r.decodeUntagged data := by
  unfold decode
  split
  next hnone =>
    have hshort : data.length < 8 := by
      have h := slice?_eq_none_iff.1 hnone
      omega
    rw [if_pos hshort]
  next tag htag =>
    obtain ⟨hinside, hfront⟩ := slice?_eq_some_iff.1 htag
    rw [List.drop_zero] at hfront
    have hlong : ¬ data.length < 8 := by omega
    rw [if_neg hlong, ite_not, hfront]
    simp only [Block.ext_iff]

theorem decodeUntagged_eq_error_iff :
    r.decodeUntagged data = .error e ↔ data.length - 8 < r.layout.size
      ∧ e = .shortData := by
  rw [decodeUntagged, demand_eq_error_iff, Layout.read?_eq_none_iff,
    List.length_drop, eq_comm (a := e)]

theorem decode_eq_error_iff : r.decode data = .error e ↔
    data.length < 8 ∧ e = .noTag
      ∨ (8 ≤ data.length ∧ data.take 8 ≠ r.tag.bytes) ∧ e = .otherTag
      ∨ (8 ≤ data.length ∧ data.take 8 = r.tag.bytes ∧ data.length < r.size)
        ∧ e = .shortData := by
  rw [decode_eq]
  split
  next hshort => simp [hshort, Nat.not_le.2 hshort, eq_comm]
  next hlong =>
    split
    next hother => simp [hlong, Nat.not_lt.1 hlong, hother, eq_comm]
    next hsame =>
      have hbody : data.length - 8 < r.layout.size ↔ data.length < r.size := by
        rw [size]
        omega
      rw [decodeUntagged_eq_error_iff, hbody]
      simp [hlong, Nat.not_lt.1 hlong, not_not.1 hsame]

/-- What was read is written with the bytes in front. -/
theorem encode_of_decode (h : r.decode data = .ok x) :
    r.encode x = data.take r.size := by
  obtain ⟨rest, rfl⟩ := r.decode_eq_ok_iff.1 h
  rw [List.take_left' (r.length_encode x)]

theorem exists_decode_iff :
    (∃ x, r.decode data = .ok x) ↔
    r.size ≤ data.length ∧ data.take 8 = r.tag.bytes := by
  constructor
  · intro h
    obtain ⟨x, hx⟩ := h
    obtain ⟨rest, rfl⟩ := r.decode_eq_ok_iff.1 hx
    rw [List.length_append, r.length_encode, r.take_tag_encode_append]
    exact ⟨Nat.le_add_right _ _, rfl⟩
  · intro h
    obtain ⟨hlong, htag⟩ := h
    cases hdecode : r.decode data with
    | ok x => exact ⟨x, rfl⟩
    | error e =>
      -- There are tag and size, and nothing else can be wrong.
      have hsize : r.size = 8 + r.layout.size := rfl
      rcases decode_eq_error_iff.1 hdecode with ⟨hshort, _⟩ | ⟨⟨_, hother⟩, _⟩
        | ⟨⟨_, _, hshort⟩, _⟩
      · omega
      · exact absurd htag hother
      · omega

/-- What becomes of reading is told by the length of the data and by its first
eight bytes, where this is the tag and this is the size. -/
structure ToldBy (r : Record α) (tag : Bytes) (size : Nat)
    (data : Bytes) : Prop where
  reads : (∃ x, r.decode data = .ok x) ↔ size ≤ data.length ∧ data.take 8 = tag
  writes : ∀ x, r.decode data = .ok x → r.encode x = data.take size
  noTag : r.decode data = .error .noTag ↔ data.length < 8
  otherTag : r.decode data = .error .otherTag ↔
    8 ≤ data.length ∧ data.take 8 ≠ tag
  shortData : r.decode data = .error .shortData ↔
    8 ≤ data.length ∧ data.take 8 = tag ∧ data.length < size
  fails : ∀ e, r.decode data = .error e →
    e = .noTag ∨ e = .otherTag ∨ e = .shortData

theorem toldBy (r : Record α) (data : Bytes) :
    r.ToldBy r.tag.bytes r.size data where
  reads := exists_decode_iff
  writes _ h := encode_of_decode h
  noTag := by simp [decode_eq_error_iff]
  otherTag := by simp [decode_eq_error_iff]
  shortData := by simp [decode_eq_error_iff]
  fails e h := by
    rcases decode_eq_error_iff.1 h with ⟨_, he⟩ | ⟨_, he⟩ | ⟨_, he⟩
    · exact .inl he
    · exact .inr (.inl he)
    · exact .inr (.inr he)

end Record

/-! ## Pools and bets -/

/-- Pools and bets read back from what they are written with, whatever follows.
What becomes of reading any other bytes is told by how many there are and by the
first eight of them, and no bytes read both as a pool and as a bet. -/
theorem Record.accounts_read_exactly :
    (∀ (p : Pool) (rest : Bytes),
      Pool.record.decode (Pool.record.encode p ++ rest) = .ok p)
      ∧ (∀ (b : Bet) (rest : Bytes),
        Bet.record.decode (Bet.record.encode b ++ rest) = .ok b)
      ∧ (∀ data, Pool.record.ToldBy (Sha256.tag "account:Pool") 132 data)
      ∧ (∀ data, Bet.record.ToldBy (Sha256.tag "account:Bet") 106 data)
      ∧ (∀ data, ¬ ((∃ p, Pool.record.decode data = .ok p)
        ∧ ∃ b, Bet.record.decode data = .ok b))
      ∧ [CheckError.noTag, .otherTag, .shortData].map CheckError.name
        = ["AccountDiscriminatorNotFound", "AccountDiscriminatorMismatch",
          "AccountDidNotDeserialize"] := by
  refine ⟨Pool.record.decode_encode_append, Bet.record.decode_encode_append,
    fun data => ?_, fun data => ?_, fun data h => ?_, rfl⟩
  · rw [← Pool.tag_record]
    exact Pool.record.toldBy data
  · rw [← Bet.tag_record]
    exact Bet.record.toldBy data
  · obtain ⟨⟨p, hp⟩, b, hb⟩ := h
    obtain ⟨rest, hpool⟩ := Pool.record.decode_eq_ok_iff.1 hp
    obtain ⟨rest', hbet⟩ := Bet.record.decode_eq_ok_iff.1 hb
    exact Record.encode_pool_ne_bet p b rest rest' (hpool.symm.trans hbet)

/-- A closed account holds no bet, and neither does one that is all zeros. -/
example : Bet.record.decode [] = .error .noTag
    ∧ Bet.record.decode (List.replicate 106 0) = .error .otherTag := ⟨rfl, rfl⟩

end HouseDice
