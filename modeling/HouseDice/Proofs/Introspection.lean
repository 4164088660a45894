import HouseDice.Proofs.Ed25519
import Mathlib.Data.Nat.Notation

/-!
# Reading the instruction in front, byte by byte

The data of the instruction in front is anybody's. `vouch` reads it through the
layout of its header; here it is read as a machine does, one byte and one number
at a time, with the offsets at their places counted by hand. Three things could
go wrong with that: a byte is asked for that is not there, a part is cut out
that the data does not have, or a sum leaves its word. Each has an outcome of
its own, and none of them is ever the outcome: the length is looked at before
the header is, every part before it is cut out, and the numbers are too small to
overflow.

So the machine's way and the layout's way refuse the same instructions for the
same reasons. What they accept is told in bytes by `Carries`, and of all
instructions they have only looked at the one in front.
-/

namespace HouseDice.Ed25519

/-! ## Bytes and words -/

/-- The number that two bytes denote, least byte first. -/
def word? (data : Bytes) (start : ℕ) : Option ℕ := do
  let low ← data[start]?
  let high ← data[start + 1]?
  return low.toNat + 256 * high.toNat

/-- The data of the instruction carries a check, all of it in the data
itself. -/
structure Carries (i : Instruction) (c : Check) : Prop where
  program : i.program = Key.ed25519
  accounts : i.accounts = []
  length : 16 ≤ i.data.length
  count : i.data[0]? = some 1
  signatureIndex : word? i.data 4 = some 65535
  keyIndex : word? i.data 8 = some 65535
  messageIndex : word? i.data 14 = some 65535
  parts : ∃ signatureOffset keyOffset messageOffset messageLength : ℕ,
    word? i.data 2 = some signatureOffset ∧ word? i.data 6 = some keyOffset
      ∧ word? i.data 10 = some messageOffset
      ∧ word? i.data 12 = some messageLength
      ∧ signatureOffset + 64 ≤ i.data.length ∧ keyOffset + 32 ≤ i.data.length
      ∧ messageOffset + messageLength ≤ i.data.length
      ∧ (i.data.drop keyOffset).take 32 = c.signer.bytes
      ∧ (i.data.drop messageOffset).take messageLength = c.message
      ∧ (i.data.drop signatureOffset).take 64 = c.signature.bytes

/-- The data begins with the fields of a header, each at its place. -/
structure Header.Begins (h : Header) (data : Bytes) : Prop where
  count : data[0]? = some h.count
  signatureOffset : word? data 2 = some h.signatureOffset.toNat
  signatureIndex : word? data 4 = some h.signatureIndex.toNat
  keyOffset : word? data 6 = some h.keyOffset.toNat
  keyIndex : word? data 8 = some h.keyIndex.toNat
  messageOffset : word? data 10 = some h.messageOffset.toNat
  messageLength : word? data 12 = some h.messageLength.toNat
  messageIndex : word? data 14 = some h.messageIndex.toNat

/-! The two bytes of a word. -/

def low (w : UInt16) : UInt8 := UInt8.ofNat w.toNat

def high (w : UInt16) : UInt8 := UInt8.ofNat (w.toNat / 256)

theorem low_add_high (w : UInt16) :
    (low w).toNat + 256 * (high w).toNat = w.toNat := by
  have hw : w.toNat < 65536 := w.toNat_lt_size
  rw [low, high, UInt8.toNat_ofNat', UInt8.toNat_ofNat']
  omega

theorem Header.write_eq (h : Header) : Header.layout.write h
    = [h.count, h.padding, low h.signatureOffset, high h.signatureOffset,
      low h.signatureIndex, high h.signatureIndex, low h.keyOffset,
      high h.keyOffset, low h.keyIndex, high h.keyIndex, low h.messageOffset,
      high h.messageOffset, low h.messageLength, high h.messageLength,
      low h.messageIndex, high h.messageIndex] := by
  have hbyte : ∀ b : UInt8, Layout.u8.write b = [b] :=
    fun b => congrArg (fun x => [x]) UInt8.ofNat_toNat
  show Layout.u8.write h.count ++ (Layout.u8.write h.padding ++ _) = _
  rw [hbyte, hbyte]
  rfl

theorem Header.begins_write (h : Header) (rest : Bytes) :
    h.Begins (Header.layout.write h ++ rest) := by
  have hword : ∀ w : UInt16, some ((low w).toNat + 256 * (high w).toNat)
      = some w.toNat :=
    fun w => congrArg some (low_add_high w)
  rw [Header.write_eq]
  exact ⟨rfl, hword _, hword _, hword _, hword _, hword _, hword _, hword _⟩

/-- Sixteen bytes are a header, whatever they are. -/
theorem Header.exists_begins {data : Bytes} (hlength : 16 ≤ data.length) :
    ∃ h, Header.layout.read? data = some h ∧ h.Begins data := by
  cases hread : Header.layout.read? data with
  | none =>
    have hshort : data.length < 16 := Header.layout.read?_eq_none_iff.1 hread
    omega
  | some h =>
    obtain ⟨rest, rfl⟩ := Header.layout.read?_eq_some_iff.1 hread
    exact ⟨h, rfl, h.begins_write rest⟩

theorem toNat_eq_own_iff {w : UInt16} : w.toNat = 65535 ↔ w = ownIndex := by
  rw [← UInt16.toNat_inj]
  exact Iff.rfl

theorem vouches_iff_carries {i : Instruction} {c : Check} :
    Vouches i c ↔ Carries i c := by
  constructor
  · intro hv
    obtain ⟨h, rest, hdata, hp⟩ := hv.header
    have hb : h.Begins i.data := hdata ▸ h.begins_write rest
    have hlength : 16 ≤ i.data.length := by
      have hsize : (Header.layout.write h).length = 16 :=
        Header.layout.length_write h
      rw [hdata, List.length_append, hsize]
      exact Nat.le_add_right _ _
    exact {
      program := hv.program
      accounts := hv.accounts
      length := hlength
      count := hb.count.trans (congrArg some hp.count)
      signatureIndex := hb.signatureIndex.trans
        (congrArg some (toNat_eq_own_iff.2 hp.signatureIndex))
      keyIndex := hb.keyIndex.trans
        (congrArg some (toNat_eq_own_iff.2 hp.keyIndex))
      messageIndex :=
        hb.messageIndex.trans
          (congrArg some (toNat_eq_own_iff.2 hp.messageIndex))
      parts := ⟨_, _, _, _, hb.signatureOffset, hb.keyOffset, hb.messageOffset,
        hb.messageLength, hp.signatureInside, hp.keyInside, hp.messageInside,
        hp.key, hp.message, hp.signature⟩ }
  · intro hc
    obtain ⟨h, hread, hb⟩ := Header.exists_begins hc.length
    obtain ⟨rest, hdata⟩ := Header.layout.read?_eq_some_iff.1 hread
    obtain ⟨signatureOffset, keyOffset, messageOffset, messageLength,
      hsignatureAt, hkeyAt, hmessageAt, hlengthAt, hsignatureIn, hkeyIn,
      hmessageIn, hkey, hmessage, hsignature⟩ := hc.parts
    -- A place holds one number, so the header's fields are the numbers that
    -- were found.
    cases hb.signatureOffset.symm.trans hsignatureAt
    cases hb.keyOffset.symm.trans hkeyAt
    cases hb.messageOffset.symm.trans hmessageAt
    cases hb.messageLength.symm.trans hlengthAt
    refine ⟨hc.program, hc.accounts, h, rest, hdata, ?_⟩
    exact {
      count := Option.some.inj (hb.count.symm.trans hc.count)
      signatureIndex := toNat_eq_own_iff.1
        (Option.some.inj (hb.signatureIndex.symm.trans hc.signatureIndex))
      keyIndex := toNat_eq_own_iff.1
        (Option.some.inj (hb.keyIndex.symm.trans hc.keyIndex))
      messageIndex := toNat_eq_own_iff.1
        (Option.some.inj (hb.messageIndex.symm.trans hc.messageIndex))
      signatureInside := hsignatureIn
      signature := hsignature
      keyInside := hkeyIn
      key := hkey
      messageInside := hmessageIn
      message := hmessage }

/-! ## The machine's way -/

/-- How a machine can end that reads an instruction and does not accept it. -/
inductive Fault where
  | refused (r : Refusal)
  /-- A byte or a part was asked for that is not there. -/
  | outOfRange
  /-- A sum has left its word. -/
  | overflow
deriving DecidableEq

def unreadable : Fault := .refused .unreadable

def byteAt (data : Bytes) (start : ℕ) : Except Fault UInt8 :=
  demand data[start]? .outOfRange

def wordAt (data : Bytes) (start : ℕ) : Except Fault ℕ := do
  let low ← byteAt data start
  let high ← byteAt data (start + 1)
  return low.toNat + 256 * high.toNat

/-- A sum in a word of 32 bits. -/
def sum (a b : ℕ) : Except Fault ℕ := do
  ensure (a + b < 4294967296) .overflow
  return a + b

/-- The bytes from one position up to another, both of which have to be
there. -/
def cut (data : Bytes) (start stop : ℕ) : Except Fault Bytes := do
  ensure (start ≤ stop ∧ stop ≤ data.length) .outOfRange
  return (data.take stop).drop start

def blockOf (n : ℕ) (bytes : Bytes) : Except Fault (Block n) :=
  demand (Block.ofBytes? n bytes) unreadable

/-- Where the parts lie, as the machine has read it. -/
structure Offsets where
  signature : ℕ
  key : ℕ
  message : ℕ
  messageLength : ℕ

/-- Reads the header. -/
def offsets (data : Bytes) : Except Fault Offsets := do
  ensure (16 ≤ data.length) unreadable
  let count ← byteAt data 0
  ensure (count = 1) unreadable
  let signatureIndex ← wordAt data 4
  ensure (signatureIndex = 65535) unreadable
  let keyIndex ← wordAt data 8
  ensure (keyIndex = 65535) unreadable
  let messageIndex ← wordAt data 14
  ensure (messageIndex = 65535) unreadable
  let signature ← wordAt data 2
  let key ← wordAt data 6
  let message ← wordAt data 10
  let messageLength ← wordAt data 12
  return { signature, key, message, messageLength }

/-- Cuts out the parts. -/
def parts (data : Bytes) (o : Offsets) : Except Fault Check := do
  let signatureEnd ← sum o.signature 64
  ensure (signatureEnd ≤ data.length) unreadable
  let keyEnd ← sum o.key 32
  ensure (keyEnd ≤ data.length) unreadable
  let messageEnd ← sum o.message o.messageLength
  ensure (messageEnd ≤ data.length) unreadable
  let signer ← cut data o.key keyEnd >>= blockOf 32
  let signature ← cut data o.signature signatureEnd >>= blockOf 64
  let message ← cut data o.message messageEnd
  return { signer, message, signature }

def inspect (i : Instruction) : Except Fault Check := do
  ensure (i.program = Key.ed25519) unreadable
  ensure (i.accounts = []) unreadable
  let o ← offsets i.data
  parts i.data o

/-- Compares the check that was found with the one that is expected. -/
def confirm (i : Instruction) (expected : Check) : Except Fault Unit := do
  let found ← inspect i
  ensure (found.signer = expected.signer) (.refused (.otherSigner found.signer))
  ensure (found.message = expected.message) (.refused .otherMessage)
  ensure (found.signature = expected.signature) (.refused .otherSignature)

/-! ### It never goes wrong -/

theorem wordAt_of_word? {data : Bytes} {start n : ℕ}
    (h : word? data start = some n) :
    wordAt data start = .ok n := by
  simp only [word?, bind, Option.bind_eq_some_iff, pure, Option.some.injEq] at h
  obtain ⟨low, hlow, high, hhigh, rfl⟩ := h
  rw [wordAt, byteAt, byteAt, hlow, hhigh]
  rfl

theorem cut_eq_ok {data : Bytes} {start len : ℕ}
    (h : start + len ≤ data.length) :
    cut data start (start + len) = .ok ((data.drop start).take len) := by
  have hbounds : start ≤ start + len ∧ start + len ≤ data.length :=
    ⟨Nat.le_add_right _ _, h⟩
  rw [cut, ensure, if_pos hbounds, ok_bind, List.drop_take,
    Nat.add_sub_cancel_left]
  rfl

/-- A part that lies inside the data is cut out as a block. -/
theorem cut_block {data : Bytes} {start len : ℕ} {b : Block len}
    (h : slice? data start len = some b) :
    (cut data start (start + len) >>= blockOf len) = .ok b := by
  obtain ⟨hinside, hbytes⟩ := slice?_eq_some_iff.1 h
  rw [cut_eq_ok hinside, ok_bind, hbytes, blockOf, Block.ofBytes?,
    dif_pos b.length_eq]
  rfl

/-- The machine reads what the layout says, because the header is there. -/
theorem offsets_eq (data : Bytes) : offsets data = demand (do
      let h ← Header.layout.read? data
      if h.count = 1 ∧ h.signatureIndex = ownIndex ∧ h.keyIndex = ownIndex
          ∧ h.messageIndex = ownIndex then
        some ⟨h.signatureOffset.toNat, h.keyOffset.toNat, h.messageOffset.toNat,
          h.messageLength.toNat⟩
      else none) unreadable := by
  by_cases hlength : 16 ≤ data.length
  · obtain ⟨h, hread, hb⟩ := Header.exists_begins hlength
    have hcount : byteAt data 0 = .ok h.count := by
      rw [byteAt, hb.count, demand_some]
    rw [offsets, ensure_of hlength]
    simp only [hread, hcount, wordAt_of_word? hb.signatureOffset,
      wordAt_of_word? hb.signatureIndex, wordAt_of_word? hb.keyOffset,
      wordAt_of_word? hb.keyIndex, wordAt_of_word? hb.messageOffset,
      wordAt_of_word? hb.messageLength, wordAt_of_word? hb.messageIndex,
      toNat_eq_own_iff, ok_bind, ensure_ensure, demand_bind, demand_ite,
      demand_some]
    rfl
  · have hread : Header.layout.read? data = none :=
      Header.layout.read?_eq_none_iff.2 (Nat.lt_of_not_le hlength)
    rw [offsets, ensure_of_not hlength, hread]
    rfl

/-- No part is cut out that is not there, and no end of a part leaves its
word. -/
theorem parts_eq {data : Bytes} {o : Offsets} (hsignature : o.signature < 65536)
    (hkey : o.key < 65536) (hmessage : o.message < 65536)
    (hlength : o.messageLength < 65536) :
    parts data o = demand (do
      let signature ← slice? data o.signature 64
      let signer ← slice? data o.key 32
      let message ← slice? data o.message o.messageLength
      return ⟨signer, message.bytes, signature⟩) unreadable := by
  have hsum : ∀ {a b : ℕ}, a < 65536 → b < 65536 → sum a b = .ok (a + b) := by
    intro a b ha hb
    have hfits : a + b < 4294967296 := by omega
    rw [sum, ensure_of hfits, ok_bind]
    rfl
  have houtside : ∀ {start len : ℕ}, ¬ start + len ≤ data.length →
      slice? data start len = none :=
        fun h => slice?_eq_none_iff.2 (Nat.lt_of_not_le h)
  have hinside : ∀ {start len : ℕ}, start + len ≤ data.length →
      ∃ b, slice? data start len = some b := fun h => ⟨_, dif_pos h⟩
  rw [parts, hsum hsignature (by decide), ok_bind, hsum hkey (by decide),
    hsum hmessage hlength]
  simp only [ok_bind]
  by_cases hs : o.signature + 64 ≤ data.length
  · obtain ⟨signature, hsliceS⟩ := hinside hs
    by_cases hk : o.key + 32 ≤ data.length
    · obtain ⟨signer, hsliceK⟩ := hinside hk
      by_cases hm : o.message + o.messageLength ≤ data.length
      · obtain ⟨message, hsliceM⟩ := hinside hm
        simp only [ensure_of hs, ensure_of hk, ensure_of hm, ok_bind,
          cut_block hsliceS, cut_block hsliceK, cut_eq_ok hm,
          (slice?_eq_some_iff.1 hsliceM).2, hsliceS, hsliceK, hsliceM]
        rfl
      · rw [ensure_of hs, ensure_of hk, ensure_of_not hm, hsliceS, hsliceK,
          houtside hm]
        rfl
    · rw [ensure_of hs, ensure_of_not hk, hsliceS, houtside hk]
      rfl
  · rw [ensure_of_not hs, houtside hs]
    rfl

/-- So the machine finds the check that the layout finds, or refuses the
instruction as unreadable. -/
theorem inspect_eq (i : Instruction) :
    inspect i = demand (Check.ofInstruction? i) unreadable := by
  rw [inspect, ensure_ensure, offsets_eq, Check.ofInstruction?, demand_ite]
  refine congrArg (ensure _ unreadable >>= ·) (funext fun _ => ?_)
  cases Header.layout.read? i.data with
  | none => rfl
  | some h =>
    simp only [Option.bind_eq_bind, Option.bind_some, demand_ite, demand_some,
      bind_assoc, ok_bind]
    refine congrArg (ensure _ unreadable >>= ·) (funext fun _ => ?_)
    exact parts_eq h.signatureOffset.toNat_lt_size h.keyOffset.toNat_lt_size
      h.messageOffset.toNat_lt_size h.messageLength.toNat_lt_size

theorem confirm_eq (i : Instruction) (c : Check) :
    confirm i c = (vouch i c).mapError Fault.refused := by
  simp only [confirm, inspect_eq, vouch, mapError_bind, mapError_demand,
    mapError_ensure, unreadable]

/-! ### What it asks for -/

/-- A machine that keeps a list of the instructions that it has asked for. -/
abbrev Asking (α : Type) := EStateM Fault (List ℕ) α

def reading {α : Type} : Except Fault α → Asking α
  | .ok a => pure a
  | .error f => throw f

def ask (load : ℕ → Option Instruction) (index : ℕ) : Asking Instruction := do
  modify (· ++ [index])
  reading (demand (load index) unreadable)

/-- The machine's way through all of it. -/
def introspect (current : UInt16) (load : ℕ → Option Instruction)
    (expected : Check) : Asking Unit := do
  let index ← reading (demand (precedingIndex? current) unreadable)
  let i ← ask load index
  reading (confirm i expected)

theorem run_reading {α : Type} (x : Except Fault α) (asked : List ℕ) :
    (reading x).run asked = match x with
      | .ok a => .ok a asked
      | .error f => .error f asked := by
  cases x <;> rfl

theorem run_ask (load : ℕ → Option Instruction) (index : ℕ) (asked : List ℕ) :
    (ask load index).run asked = match load index with
      | some i => .ok i (asked ++ [index])
      | none => .error unreadable (asked ++ [index]) := by
  show (reading (demand (load index) unreadable)).run (asked ++ [index]) = _
  rw [run_reading]
  cases load index <;> rfl

/-- The machine does what the layout's way does, and asks for nothing but the
instruction in front. -/
theorem run_introspect (current : UInt16) (load : ℕ → Option Instruction)
    (c : Check) :
    (introspect current load c).run []
      = match vouchPreceding current load c with
      | .ok () => .ok () (precedingIndex? current).toList
      | .error r => .error (.refused r) (precedingIndex? current).toList := by
  cases hindex : precedingIndex? current with
  | none =>
    rw [introspect, vouchPreceding, hindex]
    rfl
  | some index =>
    rw [introspect, vouchPreceding, hindex, demand_some, demand_some, ok_bind,
      EStateM.run_bind, run_reading]
    simp only [EStateM.run_bind, run_ask, List.nil_append]
    cases load index with
    | none => rfl
    | some i =>
      simp only [run_reading, confirm_eq, demand_some, ok_bind]
      cases vouch i c <;> rfl

/-! ## What is accepted -/

/-- The instruction in front vouches for a check if and only if there is one in
front, it is an instruction of the signature program without accounts, and its
data carries the check, in bytes. Everything else has one error. And a machine
that does all this byte by byte comes to the same answer and the same reasons:
it never asks for a byte or a part that is not there, no sum leaves its word,
and it has asked for the instruction in front and for no other. -/
theorem preceding_exact (current : UInt16) (load : ℕ → Option Instruction)
    (c : Check) :
    (vouchPreceding current load c = .ok ()
      ↔ 1 ≤ current.toNat ∧ ∃ i, load (current.toNat - 1) = some i
        ∧ Carries i c)
    ∧ (vouchPreceding current load c = .ok ()
      ∨ (vouchPreceding current load c).mapError Refusal.error
        = .error .signatureNotVerified)
    ∧ (introspect current load c).run []
      = match vouchPreceding current load c with
      | .ok () => .ok () (if current = 0 then [] else [current.toNat - 1])
      | .error r =>
        .error (.refused r)
          (if current = 0 then [] else [current.toNat - 1]) := by
  refine ⟨?_, ?_, ?_⟩
  · simp only [vouchPreceding_eq_ok_iff, vouches_iff_carries]
  · cases hvouch : vouchPreceding current load c with
    | ok u => exact .inl rfl
    | error r => exact .inr rfl
  · have hasked : (precedingIndex? current).toList
        = if current = 0 then [] else [current.toNat - 1] := by
      rw [precedingIndex?]
      split
      next => rfl
      next => rfl
    rw [run_introspect, hasked]

end HouseDice.Ed25519
