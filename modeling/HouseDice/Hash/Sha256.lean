import HouseDice.Base256

/-!
# SHA-256

The digest of a byte string. The message is padded to whole blocks of 64 bytes,
and each block is mixed into eight 32-bit words in 64 rounds. A round takes the
oldest of the last sixteen words of the message schedule and puts a new one
behind the youngest, so the schedule is never longer than a block.

Addition of words wraps at 2^32.
-/

namespace HouseDice.Sha256

/-- The eight words that the message is mixed into. -/
structure State where
  a : UInt32
  b : UInt32
  c : UInt32
  d : UInt32
  e : UInt32
  f : UInt32
  g : UInt32
  h : UInt32

def initial : State where
  a := 0x6a09e667
  b := 0xbb67ae85
  c := 0x3c6ef372
  d := 0xa54ff53a
  e := 0x510e527f
  f := 0x9b05688c
  g := 0x1f83d9ab
  h := 0x5be0cd19

/-- One constant for each of the 64 rounds. -/
def roundConstants : List UInt32 :=
  [0x428a2f98, 0x71374491, 0xb5c0fbcf, 0xe9b5dba5, 0x3956c25b, 0x59f111f1,
   0x923f82a4, 0xab1c5ed5, 0xd807aa98, 0x12835b01, 0x243185be, 0x550c7dc3,
   0x72be5d74, 0x80deb1fe, 0x9bdc06a7, 0xc19bf174, 0xe49b69c1, 0xefbe4786,
   0x0fc19dc6, 0x240ca1cc, 0x2de92c6f, 0x4a7484aa, 0x5cb0a9dc, 0x76f988da,
   0x983e5152, 0xa831c66d, 0xb00327c8, 0xbf597fc7, 0xc6e00bf3, 0xd5a79147,
   0x06ca6351, 0x14292967, 0x27b70a85, 0x2e1b2138, 0x4d2c6dfc, 0x53380d13,
   0x650a7354, 0x766a0abb, 0x81c2c92e, 0x92722c85, 0xa2bfe8a1, 0xa81a664b,
   0xc24b8b70, 0xc76c51a3, 0xd192e819, 0xd6990624, 0xf40e3585, 0x106aa070,
   0x19a4c116, 0x1e376c08, 0x2748774c, 0x34b0bcb5, 0x391c0cb3, 0x4ed8aa4a,
   0x5b9cca4f, 0x682e6ff3, 0x748f82ee, 0x78a5636f, 0x84c87814, 0x8cc70208,
   0x90befffa, 0xa4506ceb, 0xbef9a3f7, 0xc67178f2]

/-! ## Words -/

def rotate (x n : UInt32) : UInt32 := (x >>> n) ||| (x <<< (32 - n))

/-- How an old word of the schedule enters a new one from fifteen places
back. -/
def spreadEarly (x : UInt32) : UInt32 :=
  rotate x 7 ^^^ rotate x 18 ^^^ (x >>> 3)

/-- How an old word of the schedule enters a new one from two places back. -/
def spreadLate (x : UInt32) : UInt32 :=
  rotate x 17 ^^^ rotate x 19 ^^^ (x >>> 10)

/-- The bits of `y` where `x` has a one and of `z` where it has a zero. -/
def choose (x y z : UInt32) : UInt32 := (x &&& y) ^^^ (~~~x &&& z)

/-- The bits that at least two of three words share. -/
def majority (x y z : UInt32) : UInt32 := (x &&& y) ^^^ (x &&& z) ^^^ (y &&& z)

/-! ## Rounds and blocks -/

/-- One round, with its constant and its word of the schedule. -/
def round (s : State) (constant word : UInt32) : State :=
  let turnedE := rotate s.e 6 ^^^ rotate s.e 11 ^^^ rotate s.e 25
  let turnedA := rotate s.a 2 ^^^ rotate s.a 13 ^^^ rotate s.a 22
  let t := s.h + turnedE + choose s.e s.f s.g + constant + word
  { a := t + turnedA + majority s.a s.b s.c
    b := s.a
    c := s.b
    d := s.c
    e := s.d + t
    f := s.e
    g := s.f
    h := s.g }

/-- The word that follows the last sixteen words of the schedule. -/
def nextWord (window : List UInt32) : UInt32 :=
  spreadLate (window.getD 14 0) + window.getD 9 0
    + spreadEarly (window.getD 1 0)
    + window.getD 0 0

/-- One round for each constant, each with the oldest word of the window. -/
def rounds : List UInt32 → List UInt32 → State → State
  | [], _, s => s
  | constant :: rest, window, s =>
    rounds rest (window.drop 1 ++ [nextWord window])
      (round s constant (window.getD 0 0))

def words (block : Bytes) : List UInt32 :=
  (List.range 16).map fun i =>
    UInt32.ofNat (Base256.bigValue ((block.drop (4 * i)).take 4))

/-- Mixes one block into the state. -/
def compress (s : State) (block : Bytes) : State :=
  let t := rounds roundConstants (words block) s
  { a := s.a + t.a
    b := s.b + t.b
    c := s.c + t.c
    d := s.d + t.d
    e := s.e + t.e
    f := s.f + t.f
    g := s.g + t.g
    h := s.h + t.h }

/-- The message, a one bit, zeros to the end of a block, and the length in
bits. -/
def pad (message : Bytes) : Bytes :=
  message ++ [0x80] ++ List.replicate ((119 - message.length % 64) % 64) 0
    ++ Base256.bigDigits 8 (8 * message.length)

def blocks (padded : Bytes) : List Bytes :=
  (List.range (padded.length / 64)).map fun i => (padded.drop (64 * i)).take 64

def State.bytes (s : State) : Bytes :=
  [s.a, s.b, s.c, s.d, s.e, s.f, s.g, s.h].flatMap fun w =>
    Base256.bigDigits 4 w.toNat

def digest (message : Bytes) : Block 32 where
  bytes := ((blocks (pad message)).foldl compress initial).bytes
  length_eq := by simp [State.bytes]

/-- The digest of nothing at all. -/
example : (digest []).bytes =
    [0xe3, 0xb0, 0xc4, 0x42, 0x98, 0xfc, 0x1c, 0x14, 0x9a, 0xfb, 0xf4, 0xc8,
     0x99, 0x6f, 0xb9, 0x24, 0x27, 0xae, 0x41, 0xe4, 0x64, 0x9b, 0x93, 0x4c,
     0xa4, 0x95, 0x99, 0x1b, 0x78, 0x52, 0xb8, 0x55] := by
  decide +kernel

end HouseDice.Sha256
