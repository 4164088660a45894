import HouseDice.Ensure
import HouseDice.Game.Error
import HouseDice.Key
import HouseDice.Layout

/-!
# Verified signatures

The program does not check signatures itself. The chain has a program that does,
and a transaction in which it was asked to check a wrong signature never runs.
So it is enough to look at the instruction in front and to read back what was
checked: one signature, all of whose parts lie inside that very instruction.
Anything that points elsewhere may have been checked on bytes that nobody here
sees, and counts for nothing.

The instruction starts with a `Header` that says where the parts lie.
-/

namespace HouseDice

/-- An instruction of a transaction, as other instructions see it. -/
structure Instruction where
  program : Key
  accounts : List Key
  data : Bytes
deriving DecidableEq

namespace Ed25519

/-! ## What was checked -/

/-- Where the parts of a checked signature lie: offsets into the data of the
instruction with the index beside them. -/
structure Header where
  count : UInt8
  padding : UInt8
  signatureOffset : UInt16
  signatureIndex : UInt16
  keyOffset : UInt16
  keyIndex : UInt16
  messageOffset : UInt16
  messageLength : UInt16
  messageIndex : UInt16
deriving DecidableEq

def Header.layout : Layout Header :=
  (Layout.u8.prod <| Layout.u8.prod <| Layout.u16.prod <| Layout.u16.prod <|
    Layout.u16.prod <| Layout.u16.prod <| Layout.u16.prod <|
    Layout.u16.prod Layout.u16).via
    (fun (count, padding, signatureOffset, signatureIndex, keyOffset, keyIndex,
        messageOffset, messageLength, messageIndex) =>
      ⟨count, padding, signatureOffset, signatureIndex, keyOffset, keyIndex,
        messageOffset, messageLength, messageIndex⟩)
    (fun h => (h.count, h.padding, h.signatureOffset, h.signatureIndex,
      h.keyOffset, h.keyIndex, h.messageOffset, h.messageLength,
      h.messageIndex))
    (fun _ => rfl) (fun _ => rfl)

/-- The index that stands for the instruction itself. -/
def ownIndex : UInt16 := 0xffff

/-- A signature that the chain has checked. -/
structure Check where
  signer : Key
  message : Bytes
  signature : Signature
deriving DecidableEq

/-- What an instruction had checked, if it had exactly one signature checked and
on nothing but its own data. -/
def Check.ofInstruction? (i : Instruction) : Option Check :=
  if i.program = Key.ed25519 ∧ i.accounts = [] then do
    let h ← Header.layout.read? i.data
    if h.count = 1 ∧ h.signatureIndex = ownIndex ∧ h.keyIndex = ownIndex
        ∧ h.messageIndex = ownIndex then
      let signature ← slice? i.data h.signatureOffset.toNat 64
      let signer ← slice? i.data h.keyOffset.toNat 32
      let message ← slice? i.data h.messageOffset.toNat h.messageLength.toNat
      return ⟨signer, message.bytes, signature⟩
    else none
  else none

/-- The header of an instruction whose parts follow it without a gap: signature,
key, message. -/
def Header.packed (messageLength : Nat) : Header where
  count := 1
  padding := 0
  signatureOffset := 16
  signatureIndex := ownIndex
  keyOffset := 80
  keyIndex := ownIndex
  messageOffset := 112
  messageLength := UInt16.ofNat messageLength
  messageIndex := ownIndex

/-- The data of an instruction with this header and the parts of a check behind
it. -/
def Check.data (c : Check) (header : Header) : Bytes :=
  Header.layout.write header ++ c.signature.bytes ++ c.signer.bytes ++ c.message

def Check.instruction (c : Check) : Instruction where
  program := Key.ed25519
  accounts := []
  data := c.data (Header.packed c.message.length)

/-! ## Binding a check to a bet -/

/-- Why the instruction in front does not vouch for a bet. -/
inductive Refusal where
  /-- Nothing readable was checked. -/
  | unreadable
  | otherSigner (signer : Key)
  | otherMessage
  /-- The signature is not the one that came with the call. -/
  | otherSignature
deriving DecidableEq

/-- To the caller all refusals are one. -/
def Refusal.error : Refusal → GameError
  | _ => .signatureNotVerified

/-- The line that tells refusals apart in the log. -/
def Refusal.log : Refusal → List String
  | unreadable => []
  | otherSigner signer =>
    ["ed25519 signer " ++ signer.text ++ " is not the house"]
  | otherMessage => ["ed25519 message does not match the bet"]
  | otherSignature => ["ed25519 signature does not match the argument"]

/-- An instruction vouches for a check if that is exactly what it had
checked. -/
def vouch (i : Instruction) (expected : Check) : Except Refusal Unit := do
  let found ← demand (Check.ofInstruction? i) .unreadable
  ensure (found.signer = expected.signer) (.otherSigner found.signer)
  ensure (found.message = expected.message) .otherMessage
  ensure (found.signature = expected.signature) .otherSignature

def precedingIndex? (current : UInt16) : Option Nat :=
  if current = 0 then none else some (current.toNat - 1)

/-- The instruction in front of the current one has to vouch for a check. -/
def vouchPreceding (current : UInt16) (load : Nat → Option Instruction)
    (expected : Check) : Except Refusal Unit := do
  let index ← demand (precedingIndex? current) .unreadable
  let i ← demand (load index) .unreadable
  vouch i expected

end Ed25519

end HouseDice
