import HouseDice.Call.Failure
import HouseDice.Record
import HouseDice.Request

/-!
# Calls

A call is an instruction of a transaction that is addressed to the program. It
names accounts, one for each part that the request needs, and says which of them
sign and which may be changed. A key that stands in the list twice is one
account with the rights of both places.

The instructions in front of it in the same transaction can be looked at, and so
can the call itself, but nothing behind it.
-/

namespace HouseDice

/-- A place in the list of accounts: a key and the rights that go with it. -/
structure Access where
  key : Key
  signer : Bool
  writable : Bool
deriving DecidableEq

/-- An instruction addressed to the program, with what it can see of its
transaction. -/
structure Call where
  program : Key
  accounts : List Access
  data : Bytes
  /-- The instructions in front of this one. -/
  before : List Instruction
  /-- The place of this instruction in the transaction, counted from zero. -/
  index : UInt16

namespace Call

/-! ## Rights and neighbours -/

/-- What the transaction may do with which accounts. -/
def rights (c : Call) : Rights where
  signs k := c.accounts.any fun a => a.key == k && a.signer
  writes k := c.accounts.any fun a => a.key == k && a.writable

def instruction (c : Call) : Instruction :=
  ⟨c.program, c.accounts.map (·.key), c.data⟩

def instruction? (c : Call) (i : Nat) : Option Instruction :=
  (c.before ++ [c.instruction])[i]?

/-! ## The list that a request asks for -/

structure Place where
  role : Role
  signer : Bool
  writable : Bool

def places : Request.Kind → List Place
  | .initializePool =>
    [⟨.pool, false, true⟩, ⟨.vault, false, true⟩, ⟨.house, true, true⟩,
     ⟨.systemProgram, false, false⟩]
  | .placeBet =>
    [⟨.player, true, true⟩, ⟨.house, false, false⟩, ⟨.pool, false, true⟩,
     ⟨.vault, false, true⟩, ⟨.bet, false, true⟩, ⟨.systemProgram, false, false⟩]
  | .resolveBet =>
    [⟨.house, true, true⟩, ⟨.player, false, true⟩, ⟨.pool, false, true⟩,
     ⟨.vault, false, true⟩, ⟨.bet, false, true⟩, ⟨.instructions, false, false⟩,
     ⟨.systemProgram, false, false⟩]
  | .refundBet =>
    [⟨.player, true, true⟩, ⟨.house, false, false⟩, ⟨.pool, false, true⟩,
     ⟨.vault, false, true⟩, ⟨.bet, false, true⟩, ⟨.systemProgram, false, false⟩]

def accountsFor (kind : Request.Kind) (key : Role → Key) : List Access :=
  (places kind).map fun p => ⟨key p.role, p.signer, p.writable⟩

/-! ## Taking accounts from the list -/

def take (c : Call) (i : Nat) (role : Role) : Except Failure Key :=
  demand (c.accounts[i]?.map (·.key)) (.check .missingAccount (some role))

/-- The account at a place of the list that is still to be made; nobody is to
blame if it is missing. -/
def takeNew (c : Call) (i : Nat) : Except Failure Key :=
  demand (c.accounts[i]?.map (·.key)) (.check .missingAccount none)

def takeSigner (c : Call) (i : Nat) (role : Role) : Except Failure Key := do
  let key ← c.take i role
  ensure (c.rights.signs key) (.check .notSigner (some role))
  return key

def takeSystemProgram (c : Call) (i : Nat) : Except Failure Unit := do
  let key ← c.take i .systemProgram
  ensure (key = Key.system) (.check .otherProgram (some .systemProgram))

def mayWrite (c : Call) (key : Key) (role : Role) : Except Failure Unit :=
  ensure (c.rights.writes key) (.check .notWritable (some role))

end Call

/-! ## Accounts of the program -/

namespace View

variable {α : Type}

/-- The record in an account of the program. -/
def load (v : View) (record : Record α) (key : Key) (role : Role) :
    Except Failure α := do
  let a := v key
  ensure (¬ (a.owner = Key.system ∧ a.lamports = 0))
    (.check .notInitialized (some role))
  ensure (a.owner = Key.game) (.check .foreignOwner (some role))
  blame role (record.decode a.data)

/-- The view with a record written over the front of an account's data. -/
def save (v : View) (record : Record α) (key : Key) (x : α) : View :=
  v.put key { v key with data := record.overwrite (v key).data x }

/-- The view without an account, whose lamports have gone to another, if that
one can take them. -/
def close (v : View) (key target : Key) : Option View :=
  (Word.add? (v target).lamports (v key).lamports).map fun sum =>
    (v.put target { v target with lamports := sum }).put key .blank

end View

/-! ## Outcomes -/

/-- What a call that succeeds leaves behind. -/
structure Effects where
  view : View
  event : Event
  log : List String

/-- The same effects, and one account closed into another as the very last
step. -/
def Effects.close (e : Effects) (key target : Key) :
    Except Failure Effects := do
  let view ← demand (e.view.close key target) (.overfull e.event e.log)
  return { e with view }

end HouseDice
