import HouseDice.Call.Opening
import HouseDice.Call.Table

/-!
# Placing a bet

A bet takes an account of its own, at an address that comes from the vault and
the player's seed. If the address already belongs to somebody, the account is
read instead, so that a seed in use is turned down by the rules of the game. The
pool has to be able to pay the highest win from what it had before the stake.
-/

namespace HouseDice.Call

/-- The account of a new bet, opened if its address is free, with the bet that
stands there if it is not. -/
def betAccount (c : Call) (v : View) (player bet : Key) :
    Except Failure (View × Option Bet) :=
  if (v bet).owner = Key.system then do
    let v ← c.openAccount v player bet Bet.record.size Key.game
    return (v, none)
  else do
    let found ← v.load Bet.record bet .bet
    return (v, some found)

/-- The account of a new bet has the size and the rent of a bet and may be
changed. -/
def checkBetAccount (c : Call) (v : View) (bet : Key) :
    Except Failure Unit := do
  ensure ((v bet).data.length = Bet.record.size)
    (.check .wrongSpace (some .bet))
  holdsRent v bet .bet
  c.mayWrite bet .bet

/-- A bet is placed where none is open. -/
def unoccupied : Option Bet → Except GameError Unit
  | none => .ok ()
  | some found => found.fresh

/-- Stakes an amount on a roll. -/
def placeBet (c : Call) (slot : UInt64) (v : View) (seed : Seed)
    (amount : UInt64) (roll : UInt8) : Except Failure Effects := do
  let player ← c.takeSigner 0 .player
  let house ← c.take 1 .house
  let pool ← c.take 2 .pool
  let state ← v.load Pool.record pool .pool
  let vault ← c.take 3 .vault
  let bet ← c.takeNew 4
  c.takeSystemProgram 5
  let bump ← derived (.bet vault seed) bet .bet
  let (v, found) ← c.betAccount v player bet
  c.checkBetAccount v bet
  c.mayWrite player .player
  Table.check ⟨house, pool, vault, state⟩ c
  ruled (unoccupied found)
  let ((), state) ← ruled
    (state.after (Pool.accept (v vault).lamports rentFloor amount roll))
  let v ← granted (SystemProgram.transfer c.rights v player vault amount)
  let v := v.save Pool.record pool state
  return {
    view := v.save Bet.record bet ⟨player, pool, seed, slot, roll, amount, bump⟩
    event := .betPlaced bet player pool seed amount roll slot
    log := [] }

end HouseDice.Call
