import HouseDice.Bet

/-!
# What a message says

A house signs 65 bytes, and they say what the bet is about and nothing else: who
plays, under which number, since when, on which roll and for what. Nothing in
them marks where one of the five parts ends and the next begins. None of that is
needed, because each part has one width for all its values, so it stands at the
same place in every message, and because a number of `n` bytes is written by
exactly one string of `n` bytes.

So a message can be read without knowing how it was written. `Wager.ofMessage`
does that, place by place, and undoes the writing from both sides. Two things
follow at once: two bets have one message exactly if they agree on their terms,
and no string of 65 bytes is without a meaning.
-/

namespace HouseDice

variable {b b' : Bet}

/-! ## Messages as they are written -/

theorem Bet.message_inj : b.message = b'.message ↔ b.wager = b'.wager :=
  Wager.layout.write_inj

theorem Bet.length_message (b : Bet) : b.message.length = 65 :=
  Wager.layout.length_write _

/-- The pool and the bump are no terms: every wager is the wager of a bet with
any of these. -/
theorem Bet.exists_wager_eq (w : Wager) (pool : Key) (bump : UInt8) :
    ∃ b : Bet, b.wager = w ∧ b.pool = pool ∧ b.bump = bump :=
  ⟨⟨w.player, pool, w.seed, w.slot, w.roll, w.amount, bump⟩, rfl, rfl, rfl⟩

/-! ## Messages as they are read -/

/-- The number that so many bytes from a place on spell out, least byte
first. -/
def numberAt (m : Bytes) (start len : Nat) : Nat :=
  Base256.value ((m.drop start).take len)

/-- The terms that a message spells out, each read at its own place. -/
def Wager.ofMessage (m : Block 65) : Wager where
  player := ⟨m.bytes.take 32, by rw [List.length_take, m.length_eq]; rfl⟩
  seed := BitVec.ofNat 128 (numberAt m.bytes 32 16)
  slot := UInt64.ofNat (numberAt m.bytes 48 8)
  roll := m.bytes.get ⟨56, by rw [m.length_eq]; decide⟩
  amount := UInt64.ofNat (numberAt m.bytes 57 8)

/-- One byte is its own number. -/
theorem numberAt_one {m : Bytes} {i : Nat} (h : i < m.length) :
    UInt8.ofNat (numberAt m i 1) = m.get ⟨i, h⟩ := by
  have hbyte : (m.drop i).take 1 = [m.get ⟨i, h⟩] := by
    rw [List.drop_eq_getElem_cons h]
    rfl
  rw [numberAt, hbyte, Base256.value, Base256.value, Nat.mul_zero, Nat.add_zero]
  exact UInt8.ofNat_toNat

/-- Reading place by place comes to the same as taking one field off after the
other. -/
theorem Wager.decode_eq_ofMessage (m : Block 65) :
    Wager.layout.decode m = Wager.ofMessage m := by
  have hlength := m.length_eq
  have hfields : Wager.layout.decode m
      = ⟨(Wager.ofMessage m).player, (Wager.ofMessage m).seed,
        UInt64.ofNat (Base256.value (((m.bytes.drop 32).drop 16).take 8)),
        UInt8.ofNat
          (Base256.value ((((m.bytes.drop 32).drop 16).drop 8).take 1)),
        UInt64.ofNat
          (Base256.value ((((m.bytes.drop 32).drop 16).drop 8).drop 1))⟩ := rfl
  have hslot : (m.bytes.drop 32).drop 16 = m.bytes.drop 48 := List.drop_drop
  have hroll : (m.bytes.drop 48).drop 8 = m.bytes.drop 56 := List.drop_drop
  -- The stake stands last, so it is what remains and needs no end.
  have hamount : (m.bytes.drop 56).drop 1 = (m.bytes.drop 57).take 8 := by
    have hrest : (m.bytes.drop 57).length ≤ 8 := by
      have hdrop : (m.bytes.drop 57).length = m.bytes.length - 57 :=
        List.length_drop
      omega
    rw [List.drop_drop, List.take_of_length_le hrest]
  have hbyte : UInt8.ofNat (Base256.value ((m.bytes.drop 56).take 1))
      = (Wager.ofMessage m).roll :=
    numberAt_one (by rw [hlength]; decide)
  rw [hfields, hslot, hroll, hamount, hbyte]
  rfl

/-- Reading undoes writing, and writing undoes reading. -/
theorem Bet.message_eq_iff {m : Block 65} :
    b.message = m.bytes ↔ Wager.ofMessage m = b.wager := by
  rw [← Wager.decode_eq_ofMessage]
  constructor
  · intro h
    have hblock : Wager.layout.encode b.wager = m := Block.ext h
    rw [← hblock, Wager.layout.decode_encode]
  · intro h
    have hblock : Wager.layout.encode b.wager = m := by
      rw [← h]
      exact Wager.layout.encode_decode m
    exact congrArg Block.bytes hblock

/-- Two bets have one message exactly if they agree on player, seed, slot, roll
and amount. Every message has 65 bytes, every 65 bytes are the message of a bet,
against any pool and with any bump, and a bet has that message exactly if its
terms are those that stand there. -/
theorem Bet.message_binds_terms :
    (∀ b b' : Bet, b.message = b'.message ↔
      b.player = b'.player ∧ b.seed = b'.seed
      ∧ b.slot = b'.slot ∧ b.roll = b'.roll ∧ b.amount = b'.amount)
      ∧ (∀ b : Bet, b.message.length = 65)
      ∧ (∀ (m : Block 65) (pool : Key) (bump : UInt8),
        ∃ b : Bet, b.message = m.bytes ∧ b.pool = pool ∧ b.bump = bump)
      ∧ ∀ (b : Bet) (m : Block 65),
        b.message = m.bytes ↔ Wager.ofMessage m = b.wager := by
  refine ⟨fun b b' => ?_, Bet.length_message, fun m pool bump => ?_,
    fun b m => b.message_eq_iff⟩
  · rw [Bet.message_inj, Bet.wager, Bet.wager, Wager.mk.injEq]
  · obtain ⟨b, hwager, hpool, hbump⟩ :=
      Bet.exists_wager_eq (Wager.ofMessage m) pool bump
    exact ⟨b, b.message_eq_iff.2 hwager.symm, hpool, hbump⟩

end HouseDice
