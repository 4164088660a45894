import HouseDice.Address
import HouseDice.Call.Basic

/-!
# Opening accounts

A new account of the game stands at its derived address, for which the program
itself can sign. Anybody may have sent lamports there before; then the payer
only adds what is missing to the rent minimum.
-/

namespace HouseDice.Call

/-- The bump of the address for a purpose, which has to be the given key. -/
def derived (purpose : Purpose) (key : Key) (role : Role) :
    Except Failure UInt8 := do
  let (address, bump) ← demand (Address.find? purpose)
    (.check .notDerived (some role))
  ensure (key = address) (.check .notDerived (some role))
  return bump

/-- The view with a new account at a derived address, paid up to its rent
minimum. -/
def openAccount (c : Call) (v : View) (payer target : Key) (space : Nat)
    (owner : Key) : Except Failure View := do
  let rights := c.rights.withSigner target
  let rent := Ledger.rentMinimum space
  if (v target).lamports = 0 then
    granted (SystemProgram.createAccount rights v payer target rent space owner)
  else do
    ensure (payer ≠ target) (.check .paysForItself none)
    let missing := Word.satSub rent (v target).lamports
    let v ←
      if 0 < missing then
        granted (SystemProgram.transfer c.rights v payer target missing)
      else .ok v
    let v ← granted (SystemProgram.allocate rights v target space)
    granted (SystemProgram.assign rights v target owner)

/-- An account holds the rent minimum for its data. -/
def holdsRent (v : View) (key : Key) (role : Role) : Except Failure Unit :=
  ensure (Ledger.rentMinimum (v key).data.length ≤ (v key).lamports)
    (.check .belowRentMinimum (some role))

end HouseDice.Call
