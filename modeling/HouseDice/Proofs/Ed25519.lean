import HouseDice.Ed25519

/-!
# What it takes to vouch

An instruction vouches for a check if it asks the chain to check one signature,
takes no accounts, points into nothing but its own data, and holds there exactly
the key, the message and the signature that are expected. Nothing else about it
matters: not where in the data the three parts lie, whether they overlap, or
what stands between them.
-/

namespace HouseDice.Ed25519

/-- The data holds the three parts of a check where its header says. -/
structure Header.Points (h : Header) (data : Bytes) (c : Check) : Prop where
  count : h.count = 1
  signatureIndex : h.signatureIndex = ownIndex
  keyIndex : h.keyIndex = ownIndex
  messageIndex : h.messageIndex = ownIndex
  signatureInside : h.signatureOffset.toNat + 64 ≤ data.length
  signature : (data.drop h.signatureOffset.toNat).take 64 = c.signature.bytes
  keyInside : h.keyOffset.toNat + 32 ≤ data.length
  key : (data.drop h.keyOffset.toNat).take 32 = c.signer.bytes
  messageInside : h.messageOffset.toNat + h.messageLength.toNat ≤ data.length
  message : (data.drop h.messageOffset.toNat).take h.messageLength.toNat
    = c.message

/-- The instruction has the chain check exactly this. -/
structure Vouches (i : Instruction) (c : Check) : Prop where
  program : i.program = Key.ed25519
  accounts : i.accounts = []
  header : ∃ h rest, i.data = Header.layout.write h ++ rest ∧ h.Points i.data c

theorem ofInstruction?_eq_some_iff {i : Instruction} {c : Check} :
    Check.ofInstruction? i = some c ↔ Vouches i c := by
  unfold Check.ofInstruction?
  constructor
  · intro hfound
    split at hfound
    next hplain =>
      simp only [Option.bind_eq_bind, Option.bind_eq_some_iff] at hfound
      obtain ⟨h, hread, hfound⟩ := hfound
      obtain ⟨rest, hdata⟩ := Header.layout.read?_eq_some_iff.1 hread
      split at hfound
      next hone =>
        simp only [Option.bind_eq_some_iff, slice?_eq_some_iff, Option.pure_def,
          Option.some.injEq] at hfound
        obtain ⟨signature, hsignature, signer, hsigner, message, hmessage,
          rfl⟩ := hfound
        exact ⟨hplain.1, hplain.2, h, rest, hdata, hone.1, hone.2.1, hone.2.2.1,
          hone.2.2.2, hsignature.1, hsignature.2, hsigner.1, hsigner.2,
          hmessage.1, hmessage.2⟩
      next => cases hfound
    next => cases hfound
  · intro hv
    obtain ⟨h, rest, hdata, hp⟩ := hv.header
    have hread : Header.layout.read? i.data = some h :=
      Header.layout.read?_eq_some_iff.2 ⟨rest, hdata⟩
    have hlength : c.message.length = h.messageLength.toNat := by
      have hinside := hp.messageInside
      rw [← hp.message, List.length_take, List.length_drop]
      omega
    have hsignature : slice? i.data h.signatureOffset.toNat 64
        = some c.signature :=
      slice?_eq_some_iff.2 ⟨hp.signatureInside, hp.signature⟩
    have hsigner : slice? i.data h.keyOffset.toNat 32 = some c.signer :=
      slice?_eq_some_iff.2 ⟨hp.keyInside, hp.key⟩
    have hmessage : slice? i.data h.messageOffset.toNat h.messageLength.toNat
        = some ⟨c.message, hlength⟩ :=
          slice?_eq_some_iff.2 ⟨hp.messageInside, hp.message⟩
    rw [if_pos ⟨hv.program, hv.accounts⟩, hread]
    simp only [Option.bind_eq_bind, Option.bind_some]
    rw [if_pos ⟨hp.count, hp.signatureIndex, hp.keyIndex, hp.messageIndex⟩,
      hsignature, hsigner, hmessage]
    rfl

theorem vouch_eq_ok_iff {i : Instruction} {c : Check} {u : Unit} :
    vouch i c = .ok u ↔ Vouches i c := by
  rw [← ofInstruction?_eq_some_iff]
  simp only [vouch, bind_eq_ok_iff, demand_eq_ok_iff, ensure_eq_ok_iff,
    exists_const]
  constructor
  · intro h
    obtain ⟨found, hfound, hsigner, hmessage, hsignature⟩ := h
    rw [hfound]
    obtain ⟨signer, message, signature⟩ := found
    cases hsigner
    cases hmessage
    cases hsignature
    rfl
  · intro h
    exact ⟨c, h, rfl, rfl, rfl⟩

/-- What is packed into an instruction is what it vouches for, as long as a
header can tell how long the message is. -/
theorem Check.vouches_instruction (c : Check)
    (h : c.message.length < UInt16.size) :
    Vouches c.instruction c := by
  have hlength : (UInt16.ofNat c.message.length).toNat = c.message.length :=
    UInt16.toNat_ofNat_of_lt h
  have hheader : (Header.layout.write (Header.packed c.message.length)).length
      = 16 :=
    Header.layout.length_write _
  have hdata : c.instruction.data
      = Header.layout.write (Header.packed c.message.length)
        ++ (c.signature.bytes ++ (c.signer.bytes ++ c.message)) := by
    simp only [instruction, data, List.append_assoc]
  have hsize : c.instruction.data.length = 112 + c.message.length := by
    simp only [hdata, List.length_append, hheader, c.signature.length_eq,
      c.signer.length_eq]
    omega
  have hsignature : c.instruction.data.drop 16
      = c.signature.bytes ++ (c.signer.bytes ++ c.message) := by
    rw [hdata, List.drop_left' hheader]
  have hkey : c.instruction.data.drop 80 = c.signer.bytes ++ c.message := by
    have h := congrArg (List.drop 64) hsignature
    rwa [List.drop_drop, List.drop_left' c.signature.length_eq] at h
  have hmessage : c.instruction.data.drop 112 = c.message := by
    have h := congrArg (List.drop 32) hkey
    rwa [List.drop_drop, List.drop_left' c.signer.length_eq] at h
  refine ⟨rfl, rfl, Header.packed c.message.length, _, hdata, ?_⟩
  exact {
    count := rfl
    signatureIndex := rfl
    keyIndex := rfl
    messageIndex := rfl
    signatureInside := by
      show 16 + 64 ≤ _
      omega
    signature := by
      show (c.instruction.data.drop 16).take 64 = _
      rw [hsignature, List.take_left' c.signature.length_eq]
    keyInside := by
      show 80 + 32 ≤ _
      omega
    key := by
      show (c.instruction.data.drop 80).take 32 = _
      rw [hkey, List.take_left' c.signer.length_eq]
    messageInside := by
      show 112 + (UInt16.ofNat c.message.length).toNat ≤ _
      omega
    message := by
      show (c.instruction.data.drop 112).take
        (UInt16.ofNat c.message.length).toNat = _
      rw [hmessage, hlength, List.take_length] }

/-- An instruction vouches for one check at most. -/
theorem vouch_unique {i : Instruction} {c c' : Check} {u u' : Unit}
    (h : vouch i c = .ok u) (h' : vouch i c' = .ok u') : c = c' := by
  rw [vouch_eq_ok_iff, ← ofInstruction?_eq_some_iff] at h h'
  exact Option.some.inj (h.symm.trans h')

/-- The instruction in front vouches, and there is one. -/
theorem vouchPreceding_eq_ok_iff {current : UInt16}
    {load : Nat → Option Instruction} {c : Check} {u : Unit} :
    vouchPreceding current load c = .ok u ↔
      1 ≤ current.toNat ∧ ∃ i, load (current.toNat - 1) = some i
        ∧ Vouches i c := by
  simp only [vouchPreceding, bind_eq_ok_iff, demand_eq_ok_iff, vouch_eq_ok_iff,
    precedingIndex?]
  by_cases hzero : current = 0
  · simp [hzero]
  · have hpos : 1 ≤ current.toNat := by
      rcases Nat.eq_zero_or_pos current.toNat with h | h
      · exact absurd (UInt16.toNat_inj.1 h) hzero
      · exact h
    simp [hzero, hpos]

end HouseDice.Ed25519
