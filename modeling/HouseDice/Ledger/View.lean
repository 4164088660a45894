import HouseDice.Ensure
import HouseDice.Ledger.Basic
import HouseDice.Word

/-!
# The accounts inside a transaction

While a transaction runs it sees the accounts through a `View`, a function from
keys, and changes the view step by step. Accounts without lamports may stand in
a view for a while; only what is left at the end goes back to the store.

Lamports of people and space for new accounts are not the program's to give. It
asks the system program, which does what the transaction has the rights for:
whoever pays has to sign, and every account that changes has to be writable.
-/

namespace HouseDice

/-- The accounts as a running transaction sees them. -/
abbrev View := Key → Account

def View.put (v : View) (k : Key) (a : Account) : View :=
  fun j => if j = k then a else v j

/-- What a transaction may do with which accounts. -/
structure Rights where
  signs : Key → Bool
  writes : Key → Bool

/-- The same rights, and one more signature. -/
def Rights.withSigner (r : Rights) (k : Key) : Rights :=
  { r with signs := fun j => j == k || r.signs j }

/-- Why the system program refuses a call. -/
inductive SystemError where
  /-- The transaction does not have the right. -/
  | privilegeEscalation
  /-- The new account is in use. -/
  | accountAlreadyInUse
  /-- The account belongs to another program. -/
  | modifiedProgramId
  /-- Accounts with data do not pay. -/
  | invalidArgument
  /-- The payer has too little. -/
  | resultWithNegativeLamports
  /-- The payer belongs to another program. -/
  | externalAccountLamportSpend
  /-- The receiver would have too much. -/
  | arithmeticOverflow
deriving DecidableEq, Repr

def SystemError.name : SystemError → String
  | privilegeEscalation => "PrivilegeEscalation"
  | accountAlreadyInUse => "AccountAlreadyInUse"
  | modifiedProgramId => "ModifiedProgramId"
  | invalidArgument => "InvalidArgument"
  | resultWithNegativeLamports => "ResultWithNegativeLamports"
  | externalAccountLamportSpend => "ExternalAccountLamportSpend"
  | arithmeticOverflow => "ArithmeticOverflow"

namespace SystemProgram

/-- Moves lamports from one account to another, or back to the same one. -/
def transfer (r : Rights) (v : View) (source target : Key) (amount : UInt64) :
    Except SystemError View := do
  ensure (r.signs source ∧ r.writes source ∧ r.writes target)
    .privilegeEscalation
  let payer := v source
  ensure (payer.data = []) .invalidArgument
  let left ← demand (Word.sub? payer.lamports amount)
    .resultWithNegativeLamports
  ensure (payer.owner = Key.system ∨ amount = 0) .externalAccountLamportSpend
  let v := v.put source { payer with lamports := left }
  let receiver := v target
  let sum ← demand (Word.add? receiver.lamports amount) .arithmeticOverflow
  return v.put target { receiver with lamports := sum }

/-- Gives an unused account this many zero bytes of data. -/
def allocate (r : Rights) (v : View) (target : Key) (space : Nat) :
    Except SystemError View := do
  ensure (r.signs target ∧ r.writes target) .privilegeEscalation
  let a := v target
  ensure (a.data = [] ∧ a.owner = Key.system) .accountAlreadyInUse
  return v.put target { a with data := List.replicate space 0 }

/-- Hands an account over to another program. -/
def assign (r : Rights) (v : View) (target owner : Key) :
    Except SystemError View := do
  ensure (r.signs target ∧ r.writes target) .privilegeEscalation
  let a := v target
  if a.owner = owner then
    return v
  else
    ensure (a.owner = Key.system) .modifiedProgramId
    return v.put target { a with owner }

/-- Makes a new account under a key that holds no lamports. -/
def createAccount (r : Rights) (v : View) (payer target : Key)
    (lamports : UInt64) (space : Nat) (owner : Key) :
    Except SystemError View := do
  ensure (r.signs payer ∧ r.writes payer ∧ r.signs target ∧ r.writes target)
    .privilegeEscalation
  ensure ((v target).lamports = 0) .accountAlreadyInUse
  let v ← allocate r v target space
  let v ← assign r v target owner
  transfer r v payer target lamports

end SystemProgram

end HouseDice
