import HouseDice.CheckError
import HouseDice.Ed25519
import HouseDice.Event
import HouseDice.Game.Error
import HouseDice.Ledger.View

/-!
# How a call fails

A call fails because the transaction does not fit, because the rules of the game
say no, because nobody vouches for a signature, or because the system program
refuses. Where one of the accounts is to blame, the failure names the part that
account plays in the call.

One failure comes late. An account is closed only after the call has told the
log what it did, so if the receiver cannot take the account's lamports, the
lines and the event stay in the log although nothing of what they tell has
happened.
-/

namespace HouseDice

/-- The part that an account plays in a call. -/
inductive Role where
  | house
  | player
  | pool
  | vault
  | bet
  | instructions
  | systemProgram
deriving DecidableEq, Repr

def Role.name : Role → String
  | house => "house"
  | player => "player"
  | pool => "pool"
  | vault => "vault"
  | bet => "bet"
  | instructions => "instructions"
  | systemProgram => "system_program"

/-- Why a call failed. -/
inductive Failure where
  | check (cause : CheckError) (account : Option Role)
  | game (cause : GameError) (account : Option Role)
  | unverified (cause : Ed25519.Refusal)
  | system (cause : SystemError)
  /-- The receiver of a closed account would hold more lamports than a word can
  count. -/
  | overfull (event : Event) (lines : List String)
deriving DecidableEq

namespace Failure

/-- The lines that a failure leaves in the log. -/
def log : Failure → List String
  | unverified cause => cause.log
  | overfull _ lines => lines
  | check .. | game .. | system _ => []

/-- The events that a failure leaves in the log. -/
def events : Failure → List Event
  | overfull event _ => [event]
  | check .. | game .. | unverified _ | system _ => []

end Failure

/-! ## Passing causes on -/

variable {α : Type}

/-- Blames an account for what is wrong with it. -/
def blame (role : Role) : Except CheckError α → Except Failure α :=
  Except.mapError (Failure.check · (some role))

/-- The rules of the game blame nobody. -/
def ruled : Except GameError α → Except Failure α :=
  Except.mapError (Failure.game · none)

/-- The system program blames nobody. -/
def granted : Except SystemError α → Except Failure α :=
  Except.mapError Failure.system

end HouseDice
