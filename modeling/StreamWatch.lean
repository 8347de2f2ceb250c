import StreamWatch.Breaker.Settings
import StreamWatch.Client
import StreamWatch.Comparison
import StreamWatch.Demo
import StreamWatch.Evaluation.Ruleset
import StreamWatch.Field.Observe
import StreamWatch.Geo
import StreamWatch.Lifecycle
import StreamWatch.Log.Call
import StreamWatch.Main
import StreamWatch.Monitor.Dispatch
import StreamWatch.Monitor.Sweep
import StreamWatch.Network.Block
import StreamWatch.Resolution
import StreamWatch.Simulation.Run
import StreamWatch.Unchecked
import StreamWatch.Validation.Context
import StreamWatch.Validation.Lifecycle
import StreamWatch.Proofs.Lifecycle.PausedTime
import StreamWatch.Proofs.Watch.Dispatch
import StreamWatch.Proofs.Watch.Registration
import StreamWatch.Proofs.Simulation.Refinement
import StreamWatch.Proofs.Monitor.Aftermath
import StreamWatch.Proofs.Watch.Records
import StreamWatch.Proofs.Watch.Reports
import StreamWatch.Proofs.Evaluation.Agreement
import StreamWatch.Proofs.Watch.Retention
import StreamWatch.Proofs.Watch.Resumption
import StreamWatch.Proofs.Watch.Turnover
import StreamWatch.Proofs.Watch.Chains
import StreamWatch.Proofs.Monitor.Sweepable
import StreamWatch.Proofs.Watch.Sweeping
import StreamWatch.Proofs.Breaker.Account
import StreamWatch.Proofs.Watch.BreakerAccount
import StreamWatch.Proofs.Watch.HoldingBack
import StreamWatch.Proofs.Evaluation.Inquiry
import StreamWatch.Proofs.Watch.Snapshot
import StreamWatch.Proofs.Simulation.Faultless
import StreamWatch.Proofs.Simulation.Order
import StreamWatch.Proofs.Simulation.Stopping
import StreamWatch.Proofs.Evaluation.Isolation
import StreamWatch.Proofs.Watch.QueueOrder
import StreamWatch.Proofs.Watch.Failure
import StreamWatch.Proofs.Watch.Restriction
import StreamWatch.Proofs.Watch.Isolation
import StreamWatch.Proofs.Simulation.OneLoop
import StreamWatch.Proofs.Evaluation.Meaning
import StreamWatch.Proofs.Lifecycle.PauseGrowth
import StreamWatch.Proofs.Validation.Projection
import StreamWatch.Proofs.Monitor.Pruning
import StreamWatch.Proofs.Lifecycle.Heartbeat
import StreamWatch.Proofs.Watch.Guarded
import StreamWatch.Proofs.Watch.LastReport
import StreamWatch.Proofs.Watch.StaleSweep
import StreamWatch.Proofs.Lifecycle.Position
import StreamWatch.Proofs.Lifecycle.PauseRounding
import StreamWatch.Proofs.Evaluation.Instants
import StreamWatch.Proofs.Breaker.Rounds
import StreamWatch.Proofs.Comparison
import StreamWatch.Proofs.Field.Operators
import StreamWatch.Proofs.Validation.Expected
import StreamWatch.Proofs.Field.SingleList
import StreamWatch.Proofs.Time.Duration
import StreamWatch.Proofs.Field.Rearrangement
import StreamWatch.Proofs.Evaluation.Trace
import StreamWatch.Proofs.Network.Address
import StreamWatch.Proofs.Network.Block
import StreamWatch.Proofs.Lifecycle.SecondStop
import StreamWatch.Proofs.Lifecycle.Resuming
import StreamWatch.Proofs.Client
import StreamWatch.Proofs.Resolution.Ladder
import StreamWatch.Proofs.Number.Nearest
import StreamWatch.Proofs.Resolution.Naming
import StreamWatch.Proofs.Time.WholeDays
