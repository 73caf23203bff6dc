import RedditKafka.Stream.CheckpointSafety
import RedditKafka.Stream.LoopResilience
import RedditKafka.Stream.ForwardCheckpoints
import RedditKafka.Stream.LockLoss
import RedditKafka.Stream.LeaseTiming
import RedditKafka.Registry.LeaseSafety
import RedditKafka.Registry.StableIdentity
import RedditKafka.Registry.SafeCleanup
import RedditKafka.Registry.OneWinner
import RedditKafka.Manager.StatusHistory
import RedditKafka.Manager.StopRequests
import RedditKafka.Manager.FailedStart
import RedditKafka.Manager.Handover
import RedditKafka.Manager.LeaseLifetime
import RedditKafka.Flusher.WriteBehind
import RedditKafka.Migrations.ExactlyOnce
import RedditKafka.Registry.StoresAgree
import RedditKafka.Registry.Refinement
import RedditKafka.Manager.WorkerShutdown
import RedditKafka.Manager.RunStatus
import RedditKafka.Manager.StartedTask
import RedditKafka.Manager.StopAll
import RedditKafka.Manager.LocalTasks
import RedditKafka.Manager.RegistryLinks
import RedditKafka.Manager.LiveWorkers
import RedditKafka.Flusher.StreamIndexes
import RedditKafka.Manager.CrashRecovery
import RedditKafka.Stream.BreakerRuns
import RedditKafka.Flusher.StoredTimes
import RedditKafka.Stream.ErrorLog
import RedditKafka.Migrations.Retry
import RedditKafka.Migrations.FileOrder
import RedditKafka.Stream.LockLossRaised
import RedditKafka.Stream.PublishedRecords
import RedditKafka.App.LifespanSafety
