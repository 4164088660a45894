import HouseDice.Address
import HouseDice.Record

/-!
# Requests

The data of an instruction says which of the four calls is meant, by a tag in
front, and with which arguments. Bytes behind the arguments are not looked at.

Left out are the requests that the framework adds to a program under the tag
`40f4bc78a7e9690a`, by which a description of the program's interface is kept
on the ledger: they are no calls of the game, and their code is the
framework's. Here that tag is one more tag that is not known.
-/

namespace HouseDice

/-- What a transaction asks the program to do. -/
inductive Request where
  /-- A house opens its pool with this much of its own. -/
  | initializePool (amount : UInt64)
  /-- A player stakes an amount on a roll. -/
  | placeBet (seed : Seed) (amount : UInt64) (roll : UInt8)
  /-- A house settles a bet with its signature. -/
  | resolveBet (signature : Signature)
  /-- A player takes back the stake of a bet that was never settled. -/
  | refundBet
deriving DecidableEq

namespace Request

/-- The four calls, without their arguments. -/
inductive Kind where
  | initializePool
  | placeBet
  | resolveBet
  | refundBet
deriving DecidableEq, Repr

def kind : Request → Kind
  | initializePool _ => .initializePool
  | placeBet .. => .placeBet
  | resolveBet _ => .resolveBet
  | refundBet => .refundBet

namespace Kind

def all : List Kind := [initializePool, placeBet, resolveBet, refundBet]

def title : Kind → String
  | initializePool => "InitializePool"
  | placeBet => "PlaceBet"
  | resolveBet => "ResolveBet"
  | refundBet => "RefundBet"

def label : Kind → String
  | initializePool => "global:initialize_pool"
  | placeBet => "global:place_bet"
  | resolveBet => "global:resolve_bet"
  | refundBet => "global:refund_bet"

def tag : Kind → Bytes
  | initializePool => [0x5f, 0xb4, 0x0a, 0xac, 0x54, 0xae, 0xe8, 0x28]
  | placeBet => [0xde, 0x3e, 0x43, 0xdc, 0x3f, 0xa6, 0x7e, 0x21]
  | resolveBet => [0x89, 0x84, 0x21, 0x61, 0x30, 0xd0, 0x1e, 0x9f]
  | refundBet => [0xd1, 0xb6, 0xe2, 0x60, 0x37, 0x79, 0x53, 0xb7]

theorem tag_eq (k : Kind) : k.tag = Sha256.tag k.label := by
  cases k <;> simp only [tag, label] <;> decide +kernel

def ofData? (data : Bytes) : Option Kind :=
  all.find? fun k => k.tag == data.take 8

def placeBetLayout : Layout (Seed × UInt64 × UInt8) :=
  Layout.u128.prod (Layout.u64.prod Layout.u8)

def read? : Kind → Bytes → Option Request
  | initializePool, rest => (Layout.u64.read? rest).map .initializePool
  | placeBet, rest =>
    (placeBetLayout.read? rest).map fun (seed, amount, roll) =>
      .placeBet seed amount roll
  | resolveBet, rest => ((Layout.block 64).read? rest).map .resolveBet
  | refundBet, _ => some .refundBet

end Kind

def arguments : Request → Bytes
  | initializePool amount => Layout.u64.write amount
  | placeBet seed amount roll => Kind.placeBetLayout.write (seed, amount, roll)
  | resolveBet signature => signature.bytes
  | refundBet => []

def encode (r : Request) : Bytes := r.kind.tag ++ r.arguments

/-- The tag in front of the record of an event, which is no call. -/
def eventRecordTag : Bytes := [0xe4, 0x45, 0xa5, 0x2e, 0x51, 0xcb, 0x9a, 0x1d]

def decode (data : Bytes) : Except CheckError Request :=
  match Kind.ofData? data with
  | some k => demand (k.read? (data.drop 8)) .shortArguments
  | none =>
    if data.take 8 = eventRecordTag then .error .eventRecord
    else .error .unknownInstruction

/-- A request reads back from its own data, whatever follows. -/
theorem decode_encode_append (r : Request) (rest : Bytes) :
    decode (r.encode ++ rest) = .ok r := by
  have htag : ∀ k : Kind, k.tag.length = 8 := by
    intro k
    cases k <;> rfl
  have hkind : Kind.ofData? (r.encode ++ rest) = some r.kind := by
    rw [Kind.ofData?, encode, List.append_assoc, List.take_left' (htag _)]
    cases r <;> rfl
  have hrest : (r.encode ++ rest).drop 8 = r.arguments ++ rest := by
    rw [encode, List.append_assoc, List.drop_left' (htag _)]
  rw [decode, hkind]
  simp only [hrest]
  rw [demand_eq_ok_iff]
  cases r with
  | initializePool amount =>
    simp only [kind, Kind.read?, arguments, Layout.read?_write_append,
      Option.map_some]
  | placeBet seed amount roll =>
    simp only [kind, Kind.read?, arguments, Layout.read?_write_append,
      Option.map_some]
  | resolveBet signature =>
    have h := (Layout.block 64).read?_write_append signature rest
    simp only [kind, Kind.read?, arguments]
    rw [show signature.bytes = (Layout.block 64).write signature from rfl, h,
      Option.map_some]
  | refundBet => rfl

theorem decode_encode (r : Request) : decode r.encode = .ok r := by
  have h := decode_encode_append r []
  rwa [List.append_nil] at h

end Request

end HouseDice
