import HouseDice.Address
import HouseDice.Game.Error
import HouseDice.Record

/-!
# Bets

A bet is placed by a player against one pool and stays in an account of its own
until it is settled or refunded. The house settles it by signing its terms, the
`Wager`: who plays, under which number, since when, and for what. A new account
is all zeros, so an account whose player is the zero key holds no open bet.
-/

namespace HouseDice

/-! ## Terms -/

/-- What the house signs. -/
structure Wager where
  player : Key
  seed : Seed
  slot : UInt64
  roll : UInt8
  amount : UInt64
deriving DecidableEq

def Wager.layout : Layout Wager :=
  ((Layout.block 32).prod <| Layout.u128.prod <| Layout.u64.prod <|
    Layout.u8.prod Layout.u64).via
    (fun (player, seed, slot, roll, amount) =>
      ⟨player, seed, slot, roll, amount⟩)
    (fun w => (w.player, w.seed, w.slot, w.roll, w.amount))
    (fun _ => rfl) (fun _ => rfl)

/-! ## Bets -/

/-- A bet, as its account stores it. -/
structure Bet where
  player : Key
  pool : Key
  seed : Seed
  slot : UInt64
  roll : UInt8
  amount : UInt64
  bump : UInt8
deriving DecidableEq

namespace Bet

def layout : Layout Bet :=
  ((Layout.block 32).prod <| (Layout.block 32).prod <| Layout.u128.prod <|
    Layout.u64.prod <| Layout.u8.prod <| Layout.u64.prod Layout.u8).via
    (fun (player, pool, seed, slot, roll, amount, bump) =>
      ⟨player, pool, seed, slot, roll, amount, bump⟩)
    (fun b => (b.player, b.pool, b.seed, b.slot, b.roll, b.amount, b.bump))
    (fun _ => rfl) (fun _ => rfl)

def record : Record Bet where
  tag := ⟨[0x93, 0x17, 0x23, 0x3b, 0x0f, 0x4b, 0x9b, 0x20], rfl⟩
  layout := layout

theorem tag_record : record.tag.bytes = Sha256.tag "account:Bet" := by
  decide +kernel

/-- The terms of a bet. The pool is left out: the player's seed already tells
bets apart. -/
def wager (b : Bet) : Wager := ⟨b.player, b.seed, b.slot, b.roll, b.amount⟩

def message (b : Bet) : Bytes := Wager.layout.write b.wager

/-- Whether somebody has placed this bet. -/
def isOpen (b : Bet) : Bool := b.player != Key.system

/-- A new bet goes where none is open. -/
def fresh (b : Bet) : Except GameError Unit :=
  ensure (b.isOpen = false) .duplicateSeed

end Bet

end HouseDice
