import HouseDice.Address
import HouseDice.Base256
import HouseDice.Bet
import HouseDice.Bytes
import HouseDice.Call.Basic
import HouseDice.Call.Failure
import HouseDice.Call.InitializePool
import HouseDice.Call.Opening
import HouseDice.Call.PlaceBet
import HouseDice.Call.RefundBet
import HouseDice.Call.ResolveBet
import HouseDice.Call.Table
import HouseDice.CheckError
import HouseDice.Curve
import HouseDice.Ed25519
import HouseDice.Ensure
import HouseDice.Event
import HouseDice.Format.Base58
import HouseDice.Game.Error
import HouseDice.Game.Rules
import HouseDice.Hash.Sha256
import HouseDice.Key
import HouseDice.Layout
import HouseDice.Ledger.Basic
import HouseDice.Ledger.Run
import HouseDice.Ledger.Store
import HouseDice.Ledger.View
import HouseDice.Pool
import HouseDice.Proofs.Accounting
import HouseDice.Proofs.Alternation
import HouseDice.Proofs.Apart
import HouseDice.Proofs.Aside
import HouseDice.Proofs.BetStep
import HouseDice.Proofs.Binding
import HouseDice.Proofs.Bookkeeping
import HouseDice.Proofs.Call.Accounts
import HouseDice.Proofs.Call.Closing
import HouseDice.Proofs.Call.InitializePool
import HouseDice.Proofs.Call.Opening
import HouseDice.Proofs.Call.PlaceBet
import HouseDice.Proofs.Call.RefundBet
import HouseDice.Proofs.Call.ResolveBet
import HouseDice.Proofs.Call.Seated
import HouseDice.Proofs.Counters
import HouseDice.Proofs.Decoding
import HouseDice.Proofs.Donations
import HouseDice.Proofs.Draws
import HouseDice.Proofs.Ed25519
import HouseDice.Proofs.Edge
import HouseDice.Proofs.Founding
import HouseDice.Proofs.Game.Rules
import HouseDice.Proofs.Introspection
import HouseDice.Proofs.Invisible
import HouseDice.Proofs.Ledger.Stored
import HouseDice.Proofs.Ledger.Sum
import HouseDice.Proofs.Ledger.Writes
import HouseDice.Proofs.Liquidity
import HouseDice.Proofs.Log
import HouseDice.Proofs.Message
import HouseDice.Proofs.Movement
import HouseDice.Proofs.Order
import HouseDice.Proofs.Outflow
import HouseDice.Proofs.Permanence
import HouseDice.Proofs.Placement
import HouseDice.Proofs.Price
import HouseDice.Proofs.Pristine
import HouseDice.Proofs.Reachable
import HouseDice.Proofs.Refunds
import HouseDice.Proofs.Rejections
import HouseDice.Proofs.Rent
import HouseDice.Proofs.Replay
import HouseDice.Proofs.Run
import HouseDice.Proofs.Settlements
import HouseDice.Proofs.Solvency
import HouseDice.Proofs.Sound
import HouseDice.Proofs.Substitution
import HouseDice.Proofs.SystemProgram
import HouseDice.Proofs.Transfers
import HouseDice.Proofs.Winners
import HouseDice.Record
import HouseDice.Request
import HouseDice.Word
