/-!
# What can be wrong with a transaction

The reasons for which a transaction is turned down before the rules of the game
are asked: it calls nothing that exists, or one of its accounts is not what the
call needs. The numbers leave room for the kinds of check between them.
-/

namespace HouseDice

/-- Why a transaction, or one of its accounts, does not fit the call. -/
inductive CheckError where
  /-- The data begins like no instruction. -/
  | unknownInstruction
  /-- The data ends before the arguments do. -/
  | shortArguments
  /-- The data begins like the record of an event. -/
  | eventRecord
  | notWritable
  /-- The account does not name the accounts that stand beside it. -/
  | notLinked
  | belowRentMinimum
  | notDerived
  /-- The account would be closed into itself. -/
  | closesIntoItself
  | wrongAddress
  | wrongSpace
  /-- The data is too short to say what it holds. -/
  | noTag
  /-- The data says that it holds something else. -/
  | otherTag
  | shortData
  | missingAccount
  | foreignOwner
  /-- The account is not the program that is needed. -/
  | otherProgram
  | notSigner
  | notInitialized
  /-- The transaction is for another program. -/
  | misdirected
  /-- The account that pays for a new account is the new account. -/
  | paysForItself
deriving DecidableEq, Repr

namespace CheckError

def code : CheckError → Nat
  | unknownInstruction => 101
  | shortArguments => 102
  | eventRecord => 1500
  | notWritable => 2000
  | notLinked => 2001
  | belowRentMinimum => 2005
  | notDerived => 2006
  | closesIntoItself => 2011
  | wrongAddress => 2012
  | wrongSpace => 2019
  | noTag => 3001
  | otherTag => 3002
  | shortData => 3003
  | missingAccount => 3005
  | foreignOwner => 3007
  | otherProgram => 3008
  | notSigner => 3010
  | notInitialized => 3012
  | misdirected => 4100
  | paysForItself => 4101

def name : CheckError → String
  | unknownInstruction => "InstructionFallbackNotFound"
  | shortArguments => "InstructionDidNotDeserialize"
  | eventRecord => "EventInstructionStub"
  | notWritable => "ConstraintMut"
  | notLinked => "ConstraintHasOne"
  | belowRentMinimum => "ConstraintRentExempt"
  | notDerived => "ConstraintSeeds"
  | closesIntoItself => "ConstraintClose"
  | wrongAddress => "ConstraintAddress"
  | wrongSpace => "ConstraintSpace"
  | noTag => "AccountDiscriminatorNotFound"
  | otherTag => "AccountDiscriminatorMismatch"
  | shortData => "AccountDidNotDeserialize"
  | missingAccount => "AccountNotEnoughKeys"
  | foreignOwner => "AccountOwnedByWrongProgram"
  | otherProgram => "InvalidProgramId"
  | notSigner => "AccountNotSigner"
  | notInitialized => "AccountNotInitialized"
  | misdirected => "DeclaredProgramIdMismatch"
  | paysForItself => "TryingToInitPayerAsProgramAccount"

def message : CheckError → String
  | unknownInstruction => "Fallback functions are not supported"
  | shortArguments => "The program could not deserialize the given instruction"
  | eventRecord => "The program was compiled without `event-cpi` feature"
  | notWritable => "A mut constraint was violated"
  | notLinked => "A has one constraint was violated"
  | belowRentMinimum => "A rent exemption constraint was violated"
  | notDerived => "A seeds constraint was violated"
  | closesIntoItself => "A close constraint was violated"
  | wrongAddress => "An address constraint was violated"
  | wrongSpace => "A space constraint was violated"
  | noTag => "No discriminator was found on the account"
  | otherTag => "Account discriminator did not match what was expected"
  | shortData => "Failed to deserialize the account"
  | missingAccount => "Not enough account keys given to the instruction"
  | foreignOwner =>
    "The given account is owned by a different program than expected"
  | otherProgram => "Program ID was not as expected"
  | notSigner => "The given account did not sign"
  | notInitialized =>
    "The program expected this account to be already initialized"
  | misdirected =>
    "The declared program id does not match the actual program id"
  | paysForItself =>
    "You cannot/should not initialize the payer account as a program account"

end CheckError

end HouseDice
