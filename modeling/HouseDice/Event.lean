import HouseDice.Address
import HouseDice.Record

/-!
# Events

Every call that succeeds writes exactly one event into the log of its
transaction, so whoever reads the logs of the calls that succeeded can follow
every pool and every bet without reading an account.
-/

namespace HouseDice

/-- What a successful call tells the log. -/
inductive Event where
  | poolInitialized (pool house vault : Key) (amount : UInt64)
  | betPlaced (bet player pool : Key) (seed : Seed) (amount : UInt64)
      (roll : UInt8) (slot : UInt64)
  | betResolved (bet player : Key) (roll outcome : UInt8) (won : Bool)
      (payout : UInt64)
  | betRefunded (bet player : Key) (amount slot : UInt64)
deriving DecidableEq

namespace Event

def name : Event → String
  | poolInitialized .. => "PoolInitialized"
  | betPlaced .. => "BetPlaced"
  | betResolved .. => "BetResolved"
  | betRefunded .. => "BetRefunded"

def tag : Event → Bytes
  | poolInitialized .. => [0x64, 0x76, 0xad, 0x57, 0x0c, 0xc6, 0xfe, 0xe5]
  | betPlaced .. => [0x58, 0x58, 0x91, 0xe2, 0x7e, 0xce, 0x20, 0x00]
  | betResolved .. => [0x85, 0x59, 0x59, 0x7d, 0x04, 0xdb, 0x52, 0x89]
  | betRefunded .. => [0x20, 0xea, 0xad, 0x66, 0x6a, 0x04, 0x02, 0xcb]

theorem tag_eq (e : Event) : e.tag = Sha256.tag ("event:" ++ e.name) := by
  cases e <;> simp only [tag, name] <;> decide +kernel

def fields : Event → Bytes
  | poolInitialized pool house vault amount =>
    pool.bytes ++ house.bytes ++ vault.bytes ++ Layout.u64.write amount
  | betPlaced bet player pool seed amount roll slot =>
    bet.bytes ++ player.bytes ++ pool.bytes ++ Layout.u128.write seed
      ++ Layout.u64.write amount
      ++ [roll] ++ Layout.u64.write slot
  | betResolved bet player roll outcome won payout =>
    bet.bytes ++ player.bytes ++ [roll, outcome, if won then 1 else 0]
      ++ Layout.u64.write payout
  | betRefunded bet player amount slot =>
    bet.bytes ++ player.bytes ++ Layout.u64.write amount
      ++ Layout.u64.write slot

def encode (e : Event) : Bytes := e.tag ++ e.fields

end Event

end HouseDice
