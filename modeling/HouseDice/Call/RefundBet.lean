import HouseDice.Call.Table

/-!
# Taking a stake back

If the house never signs, the player takes the stake back once the time is over.
The stake stayed locked while the bet was open, so the vault still holds it.
-/

namespace HouseDice.Call

/-- Gives a stake back to its player. -/
def refundBet (c : Call) (slot : UInt64) (v : View) :
    Except Failure Effects := do
  let player ← c.takeSigner 0 .player
  let house ← c.take 1 .house
  let pool ← c.take 2 .pool
  let state ← v.load Pool.record pool .pool
  let vault ← c.take 3 .vault
  let bet ← c.take 4 .bet
  let terms ← v.load Bet.record bet .bet
  c.takeSystemProgram 5
  c.mayWrite player .player
  let table : Table := ⟨house, pool, vault, state⟩
  table.check c
  OpenBet.check ⟨bet, player, terms⟩ table c
  let (amount, state) ← ruled (state.after (Pool.refund terms slot))
  let v ← table.pay c v player amount
  let effects : Effects := {
    view := v.save Pool.record pool state
    event := .betRefunded bet terms.player amount slot
    log := [] }
  effects.close bet player

end HouseDice.Call
