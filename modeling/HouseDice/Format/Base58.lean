import HouseDice.Base256

/-!
# Base 58

The text form of a key: its number in base 58, greatest digit first, over an
alphabet without the four characters that are easily confused. A leading zero
byte has no digit of its own and is written as the first character of the
alphabet.
-/

namespace HouseDice.Base58

/-- The digits 0 to 57. -/
def alphabet : List Char :=
  ['1', '2', '3', '4', '5', '6', '7', '8', '9',
   'A', 'B', 'C', 'D', 'E', 'F', 'G', 'H', 'J', 'K', 'L', 'M', 'N', 'P', 'Q',
   'R', 'S', 'T', 'U', 'V', 'W', 'X', 'Y', 'Z',
   'a', 'b', 'c', 'd', 'e', 'f', 'g', 'h', 'i', 'j', 'k', 'm', 'n', 'o', 'p',
   'q', 'r', 's', 't', 'u', 'v', 'w', 'x', 'y', 'z']

/-- The digits of a number with at most `n` digits, in front of `tail`; zero has
none. -/
def digits : Nat → Nat → List Char → List Char
  | 0, _, tail => tail
  | n + 1, v, tail =>
    if v = 0 then tail
    else digits n (v / 58) (alphabet.getD (v % 58) '1' :: tail)

/-- The text of a byte string. Two digits hold more than a byte, so twice the
length suffices. -/
def encode (bytes : Bytes) : String :=
  String.ofList <|
    List.replicate (bytes.takeWhile (· == 0)).length '1'
      ++ digits (2 * bytes.length) (Base256.bigValue bytes) []

end HouseDice.Base58
