import HouseDice.Address
import HouseDice.Call.Basic
import HouseDice.Pool

/-!
# A table and the bets on it

A table is a house with its pool and its vault. The accounts that a call gives
for them are only believed once each stands at the address derived for it and
the pool names the other two. The same goes for an open bet: it stands at its
own address and names its player and its pool.
-/

namespace HouseDice.Call

/-- The accounts of a house, with the state of its pool. -/
structure Table where
  house : Key
  pool : Key
  vault : Key
  state : Pool

/-- The accounts of a table belong together and may be changed. -/
def Table.check (t : Table) (c : Call) : Except Failure Unit := do
  ensure (Address.create? (.pool t.house) t.state.bump = some t.pool)
    (.check .notDerived (some .pool))
  c.mayWrite t.pool .pool
  ensure (t.state.house = t.house) (.check .notLinked (some .pool))
  ensure (t.state.vault = t.vault) (.check .notLinked (some .pool))
  ensure (Address.create? (.vault t.house) t.state.vaultBump = some t.vault)
    (.check .notDerived (some .vault))
  c.mayWrite t.vault .vault

/-- An open bet at a table, with the account that holds it and the one it is
paid to. -/
structure OpenBet where
  key : Key
  player : Key
  state : Bet

/-- An open bet belongs to its table and to its player, and may be changed. -/
def OpenBet.check (b : OpenBet) (t : Table) (c : Call) :
    Except Failure Unit := do
  ensure (Address.create? (.bet t.vault b.state.seed) b.state.bump = some b.key)
    (.check .notDerived (some .bet))
  c.mayWrite b.key .bet
  ensure (b.state.player = b.player) (.game .invalidPlayer (some .bet))
  ensure (b.state.pool = t.pool) (.check .notLinked (some .bet))
  ensure (b.key ≠ b.player) (.check .closesIntoItself (some .bet))

/-- Lamports leave a vault, for which the program signs itself. -/
def Table.pay (t : Table) (c : Call) (v : View) (target : Key)
    (amount : UInt64) : Except Failure View :=
  granted (SystemProgram.transfer
    (c.rights.withSigner t.vault) v t.vault target amount)

/-- The rent floor of a vault, which has no data. -/
def rentFloor : UInt64 := Ledger.rentMinimum 0

end HouseDice.Call
