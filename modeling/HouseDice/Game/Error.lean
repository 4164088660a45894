/-!
# Why the rules refuse a call

The reasons for which the rules of the game turn a call down. Each has a number,
counted from 6000 in the order below, a name and a sentence for the caller.
-/

namespace HouseDice

/-- Why the rules of the game refuse a call. -/
inductive GameError where
  | invalidThreshold
  | invalidStake
  | invalidFunding
  | duplicateSeed
  | insufficientLiquidity
  | signatureNotVerified
  | poolUnderfunded
  | timeoutNotReached
  | invalidPlayer
  | mathOverflow
deriving DecidableEq, Repr

namespace GameError

def all : List GameError :=
  [invalidThreshold, invalidStake, invalidFunding, duplicateSeed,
   insufficientLiquidity, signatureNotVerified, poolUnderfunded,
   timeoutNotReached, invalidPlayer, mathOverflow]

def code : GameError → Nat
  | invalidThreshold => 6000
  | invalidStake => 6001
  | invalidFunding => 6002
  | duplicateSeed => 6003
  | insufficientLiquidity => 6004
  | signatureNotVerified => 6005
  | poolUnderfunded => 6006
  | timeoutNotReached => 6007
  | invalidPlayer => 6008
  | mathOverflow => 6009

def name : GameError → String
  | invalidThreshold => "InvalidThreshold"
  | invalidStake => "InvalidStake"
  | invalidFunding => "InvalidFunding"
  | duplicateSeed => "DuplicateSeed"
  | insufficientLiquidity => "InsufficientLiquidity"
  | signatureNotVerified => "SignatureNotVerified"
  | poolUnderfunded => "PoolUnderfunded"
  | timeoutNotReached => "TimeoutNotReached"
  | invalidPlayer => "InvalidPlayer"
  | mathOverflow => "MathOverflow"

def message : GameError → String
  | invalidThreshold => "Roll must be between 1 and 99"
  | invalidStake => "Stake must be greater than zero"
  | invalidFunding => "Initial pool funding must be greater than zero"
  | duplicateSeed => "A bet with this seed is already open"
  | insufficientLiquidity => "Pool cannot cover the maximum payout"
  | signatureNotVerified =>
    "Missing or invalid ed25519 verify instruction for this bet"
  | poolUnderfunded => "Pool balance cannot cover this settlement"
  | timeoutNotReached => "Time not reached yet"
  | invalidPlayer => "Player of bet did not match"
  | mathOverflow => "Math overflow"

def ofName? (s : String) : Option GameError := all.find? fun e => e.name == s

end GameError

end HouseDice
