import HouseDice.Call.Opening
import HouseDice.Pool

/-!
# Opening a pool

The house pays for two new accounts, the pool and the vault, and moves the first
funds into the vault. A pool is opened once: its account is never closed, and an
account that is in use is not opened again.
-/

namespace HouseDice.Call

/-- Opens a house's pool and funds its vault. -/
def initializePool (c : Call) (slot : UInt64) (v : View) (amount : UInt64) :
    Except Failure Effects := do
  let pool ← c.takeNew 0
  let vault ← c.takeNew 1
  let house ← c.takeSigner 2 .house
  c.takeSystemProgram 3
  let bump ← derived (.pool house) pool .pool
  let v ← c.openAccount v house pool Pool.record.size Key.game
  c.mayWrite pool .pool
  holdsRent v pool .pool
  let vaultBump ← derived (.vault house) vault .vault
  let v ← c.openAccount v house vault 0 Key.system
  c.mayWrite vault .vault
  holdsRent v vault .vault
  c.mayWrite house .house
  let state ← ruled (Pool.create house bump vault vaultBump slot amount)
  let v ← granted (SystemProgram.transfer c.rights v house vault amount)
  return {
    view := v.save Pool.record pool state
    event := .poolInitialized pool house vault amount
    log := [] }

end HouseDice.Call
