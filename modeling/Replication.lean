import Replication.WaitForQuiescence
import Replication.PollingLoop
import Replication.Gate2
import Replication.Gate1
import Replication.Gate3
import Replication.DLQRoundTrip
import Replication.FailedIteration
import Replication.ReconnectDiscipline
import Replication.ReplayFidelity
import Replication.RetryAllPending
import Replication.IncrementalDrain
import Replication.EventIdentity
import Replication.DualMode
import Replication.Backpressure
import Replication.SelfHealing
import Replication.SinkRecovery
import Replication.EffectivelyOnce
import Replication.CrashTransparency
import Replication.Accounting
import Replication.DedupWindow
import Replication.PublishedEvents
import Replication.BreakerDeadlines
import Replication.BreakerTrials
import Replication.CoordinatorStop
import Replication.ConsumerStop
import Replication.AckedMessages
import Replication.PoisonIsolation
import Replication.DocumentHistory
import Replication.BreakerBackoff
import Replication.StatusAgreement
import Replication.Quiescence
import Replication.TransientTrouble
import Replication.BoundedMemory
import Replication.CommitLedger
import Replication.ReplaySummary
import Replication.SoloReplay
import Replication.Telemetry
import Replication.Gate5
import Replication.CompletionReport
import Replication.Provenance
import Replication.BreakerDowntime
import Replication.Custody
import Replication.TelemetryPolling
import Replication.ParseInt
import Replication.SearchService
import Replication.DataBrowser
import Replication.Gate4
import Replication.SourceWriters
import Replication.Verification
