import DeoptBackend.Orderbook.Snapshot
import DeoptBackend.Engine.SelfTrade
import DeoptBackend.Orders.Replay
import DeoptBackend.Mm.Disconnect
import DeoptBackend.Perps.Book
import DeoptBackend.Perps.Agreement
import DeoptBackend.Perps.Veto
import DeoptBackend.Perps.Leverage
import DeoptBackend.Perps.RiskCaps
import DeoptBackend.Perps.Funding
import DeoptBackend.Perps.ImpactMid
import DeoptBackend.Options.MatcherAgreement
import DeoptBackend.Options.Deadlines
import DeoptBackend.Options.ReduceOnly
import DeoptBackend.Options.Twap
import DeoptBackend.Options.RfqRuns
import DeoptBackend.HybridV2.Convergence
import DeoptBackend.HybridV2.Recovery
import DeoptBackend.HybridV2.Locks
import DeoptBackend.HybridV2.Execution.Signing
import DeoptBackend.HybridV2.Execution.Nonces
import DeoptBackend.HybridV2.Execution.GasPolicy
import DeoptBackend.HybridV2.Execution.IndexerCorrelation
