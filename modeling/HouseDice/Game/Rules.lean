import HouseDice.Ensure
import HouseDice.Game.Error
import HouseDice.Hash.Sha256
import HouseDice.Key
import HouseDice.Layout
import HouseDice.Word

/-!
# The rules of the game

A player stakes an amount on a roll from 1 to 99 and wins if the outcome, a
number from 1 to 100, is not above the roll. The fair price of a winning stake
is `100 / roll` times the stake; the house keeps 1.5 percent of it, and what is
not a whole lamport. Nobody chooses the outcome: it is read off the digest of a
signature that the house could not have known before it saw the bet.

All functions here are about numbers only. They know nothing of pools, accounts
or transactions.
-/

namespace HouseDice.Game

/-! ## Constants -/

/-- What the house keeps, in basis points. -/
def houseEdgeBps : Nat := 150

def bpsDenominator : Nat := 10000

/-- A roll counts hundredths. -/
def rollScale : Nat := 100

def minRoll : UInt8 := 1

def maxRoll : UInt8 := 99

def rollRange : Nat := 100

/-- How many slots a bet stays open before its player may take the stake back.
A build for test networks has 150 slots instead, so that a test need not wait;
that build is left out. -/
def refundTimeoutSlots : UInt64 := 1000

/-! ## Stakes and payouts -/

/-- A bet has a stake and a roll that can be won and lost. -/
def validate (amount : UInt64) (roll : UInt8) : Except GameError Unit := do
  ensure (0 < amount) .invalidStake
  ensure (minRoll ≤ roll ∧ roll ≤ maxRoll) .invalidThreshold

/-- What a bet pays for an outcome, stake included: nothing above the roll, and
otherwise the stake at the price of its roll less the house's share, in whole
lamports. -/
def payout (amount : UInt64) (roll outcome : UInt8) : Except GameError UInt64 :=
  if roll < outcome then .ok 0
  else do
    ensure (minRoll ≤ roll) .invalidThreshold
    let price :=
      amount.toNat * (bpsDenominator - houseEdgeBps) / roll.toNat / rollScale
    demand (Word.ofNat? price) .mathOverflow

/-- The most that a bet can pay: what it pays for its own roll. -/
def maxPayout (amount : UInt64) (roll : UInt8) : Except GameError UInt64 :=
  payout amount roll roll

/-! ## What the house can afford -/

/-- The lamports of a vault that may leave it: those above its rent floor. -/
def available (vaultLamports rentFloor : UInt64) : UInt64 :=
  Word.satSub vaultLamports rentFloor

/-- The most that a new bet can cost, which has to be available when it is
placed. -/
def exposure (availableLamports amount : UInt64) (roll : UInt8) :
    Except GameError UInt64 := do
  let most ← maxPayout amount roll
  ensure (most ≤ availableLamports) .insufficientLiquidity
  return most

/-- What is owed has to be available when a bet is settled. -/
def cover (availableLamports owed : UInt64) : Except GameError Unit :=
  ensure (owed ≤ availableLamports) .poolUnderfunded

/-- A bet is open for refund once its time is over. -/
def refundable (placedSlot currentSlot : UInt64) : Except GameError Unit :=
  ensure (Word.satAdd placedSlot refundTimeoutSlots ≤ currentSlot)
    .timeoutNotReached

/-! ## Outcomes -/

/-- The outcome that a digest stands for: its two halves, read as numbers, are
added up modulo `2^128`, and the sum is brought into the range from 1 to 100. -/
def outcomeOf (digest : Block 32) : UInt8 :=
  let halves : Block (16 + 16) := digest
  let sum := Layout.u128.decode halves.left + Layout.u128.decode halves.right
  UInt8.ofNat (sum.toNat % rollRange) + 1

def outcome (signature : Signature) : UInt8 :=
  outcomeOf (Sha256.digest signature.bytes)

/-- How a bet ended. -/
structure Settlement where
  outcome : UInt8
  payout : UInt64
deriving DecidableEq, Repr

/-- A bet is won if it pays something. -/
def Settlement.won (s : Settlement) : Bool := decide (0 < s.payout)

def settle (amount : UInt64) (roll : UInt8) (signature : Signature) :
    Except GameError Settlement := do
  let drawn := outcome signature
  let paid ← payout amount roll drawn
  return ⟨drawn, paid⟩

end HouseDice.Game
