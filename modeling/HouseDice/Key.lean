import HouseDice.Format.Base58

/-!
# Keys

A key names an account: a person, a program, or one of the accounts that the
game keeps. Keys are compared by their bytes and ordered as numbers with the
greatest byte first, which for strings of one length is the order of the bytes.
-/

namespace HouseDice

/-- The name of an account. -/
abbrev Key := Block 32

abbrev Signature := Block 64

namespace Key

/-- The number whose digits are the key's bytes, greatest first. -/
def number (k : Key) : Nat := Base256.bigValue k.bytes

theorem number_inj {j k : Key} : j.number = k.number ↔ j = k := by
  constructor
  · intro h
    exact Block.ext
      (Base256.bigValue_inj (j.length_eq.trans k.length_eq.symm) h)
  · rintro rfl
    rfl

/-- The key as people read it. -/
def text (k : Key) : String := Base58.encode k.bytes

/-! ## Keys that everyone knows -/

/-- The system program, which owns every account that no other program owns. -/
def system : Key := Block.replicate 32 0

/-- The owner of the programs that are part of the chain itself. -/
def nativeLoader : Key :=
  ⟨[0x05, 0x87, 0x84, 0xbf, 0x14, 0x8b, 0xa4, 0x28, 0x2f, 0xb0, 0x12, 0x57,
    0x48, 0x88, 0xa9, 0xf1, 0x53, 0xa0, 0x7d, 0xad, 0xf7, 0x65, 0xc0, 0x45,
    0x5c, 0x9a, 0x97, 0x03, 0x80, 0x00, 0x00, 0x00],
   rfl⟩

/-- This program. -/
def game : Key :=
  ⟨[0xca, 0x9a, 0xcb, 0xf1, 0xbf, 0x06, 0x90, 0xc7, 0xe3, 0x74, 0xb2, 0x32,
    0x7a, 0xfe, 0x4f, 0xca, 0xc1, 0xcb, 0x9c, 0x4b, 0x04, 0x62, 0x5d, 0x8e,
    0xdc, 0xf4, 0x84, 0xeb, 0x47, 0x9d, 0xe1, 0x3b],
   rfl⟩

/-- The program that checks ed25519 signatures. -/
def ed25519 : Key :=
  ⟨[0x03, 0x7d, 0x46, 0xd6, 0x7c, 0x93, 0xfb, 0xbe, 0x12, 0xf9, 0x42, 0x8f,
    0x83, 0x8d, 0x40, 0xff, 0x05, 0x70, 0x74, 0x49, 0x27, 0xf4, 0x8a, 0x64,
    0xfc, 0xca, 0x70, 0x44, 0x80, 0x00, 0x00, 0x00],
   rfl⟩

/-- The account through which a program sees the instructions of its
transaction. -/
def instructions : Key :=
  ⟨[0x06, 0xa7, 0xd5, 0x17, 0x18, 0x7b, 0xd1, 0x66, 0x35, 0xda, 0xd4, 0x04,
    0x55, 0xfd, 0xc2, 0xc0, 0xc1, 0x24, 0xc6, 0x8f, 0x21, 0x56, 0x75, 0xa5,
    0xdb, 0xba, 0xcb, 0x5f, 0x08, 0x00, 0x00, 0x00],
   rfl⟩

/-- The five keys as people read them. -/
example : [system, nativeLoader, game, ed25519, instructions].map text =
    ["11111111111111111111111111111111",
      "NativeLoader1111111111111111111111111111111",
      "EdtFxZgVGTbVkHbChGm2bP2F74ntnqUfqA9jTUihBdjx",
      "Ed25519SigVerify111111111111111111111111111",
      "Sysvar1nstructions1111111111111111111111111"] := by
  decide +kernel

end Key

end HouseDice
