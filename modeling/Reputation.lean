import Reputation.Archive.Service
import Reputation.Config.Text
import Reputation.Engine.Batch
import Reputation.Form.Result
import Reputation.Hash.Blake3
import Reputation.Json.Reader
import Reputation.Proofs.Engine.Chains
import Reputation.Proofs.Engine.Isolation
import Reputation.Proofs.Engine.Standing
import Reputation.Proofs.Recency.Queue
import Reputation.Proofs.Recency.Window
import Reputation.Proofs.Record.Shape
import Reputation.Proofs.Tier.Vesting
import Reputation.Proofs.Engine.Batch
import Reputation.Proofs.Engine.Registry
import Reputation.Proofs.Engine.Raters
import Reputation.Proofs.Score.Dominance
import Reputation.Proofs.Recency.Dominance
import Reputation.Proofs.Record.Dominance
import Reputation.Proofs.Engine.Dominance
import Reputation.Proofs.Engine.Coherence
import Reputation.Proofs.Engine.Vesting
import Reputation.Proofs.Archive.Exchange
import Reputation.Proofs.Event.Tampering
import Reputation.Proofs.Recency.Live
import Reputation.Proofs.Engine.Accounts
import Reputation.Proofs.Engine.Revocations
import Reputation.Proofs.Engine.Turns
import Reputation.Proofs.Engine.Metrics
import Reputation.Proofs.Words.Checked
import Reputation.Proofs.Words.Numeric
import Reputation.Proofs.Words.Raters
import Reputation.Proofs.Words.Score
import Reputation.Proofs.Words.Record
import Reputation.Proofs.Engine.Bookkeeping
import Reputation.Proofs.Record.Seals
import Reputation.Proofs.Engine.Seals
import Reputation.Proofs.Engine.Loyalty
import Reputation.Proofs.Engine.Answers
import Reputation.Proofs.Numeric.Total
import Reputation.Proofs.Numeric.Logarithm
import Reputation.Proofs.Raters.Semilattice
import Reputation.Proofs.Raters.Estimate
import Reputation.Proofs.Tier.Completion
import Reputation.Proofs.Score.Drawdown
import Reputation.Proofs.Numeric.Precision
import Reputation.Proofs.Numeric.Rounding
import Reputation.Proofs.Score.Averages
import Reputation.Proofs.Score.Confidence
import Reputation.Proofs.Score.Risk
import Reputation.Proofs.Numeric.Mean
import Reputation.Proofs.Numeric.Exactness
import Reputation.Proofs.Raters.Slot
