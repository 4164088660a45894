import HouseDice.Call.Table

/-!
# Settling a bet

The house settles a bet with its signature over the bet's terms, which has to
have been checked by the instruction right in front. The signature decides the
outcome; a win is paid from the vault, and in any case the bet is closed and its
lamports go to the player.
-/

namespace HouseDice.Call

/-- The line that a settled bet leaves in the log. -/
def resolvedLine (roll : UInt8) (s : Game.Settlement) : String :=
  "Bet resolved: roll " ++ toString roll.toNat ++ " outcome "
    ++ toString s.outcome.toNat
    ++ " payout " ++ toString s.payout.toNat

/-- Settles a bet with the house's signature. -/
def resolveBet (c : Call) (v : View) (signature : Signature) :
    Except Failure Effects := do
  let house ← c.takeSigner 0 .house
  let player ← c.take 1 .player
  let pool ← c.take 2 .pool
  let state ← v.load Pool.record pool .pool
  let vault ← c.take 3 .vault
  let bet ← c.take 4 .bet
  let terms ← v.load Bet.record bet .bet
  let instructions ← c.take 5 .instructions
  c.takeSystemProgram 6
  c.mayWrite house .house
  c.mayWrite player .player
  let table : Table := ⟨house, pool, vault, state⟩
  table.check c
  OpenBet.check ⟨bet, player, terms⟩ table c
  ensure (instructions = Key.instructions)
    (.check .wrongAddress (some .instructions))
  (Ed25519.vouchPreceding c.index c.instruction?
    ⟨state.house, terms.message, signature⟩).mapError Failure.unverified
  let (settlement, state) ←
    ruled (state.after
      (Pool.settle (v vault).lamports rentFloor terms signature))
  let v ← if settlement.won then table.pay c v player settlement.payout
    else .ok v
  let effects : Effects := {
    view := v.save Pool.record pool state
    event := .betResolved bet terms.player
      terms.roll settlement.outcome settlement.won settlement.payout
    log := [resolvedLine terms.roll settlement] }
  effects.close bet player

end HouseDice.Call
