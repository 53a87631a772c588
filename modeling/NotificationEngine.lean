import NotificationEngine.Transition
import NotificationEngine.SortedSet
import NotificationEngine.NoteRuns
import NotificationEngine.SingleCarrier
import NotificationEngine.NotificationCreate
import NotificationEngine.DeliveredOnce
import NotificationEngine.RunConditions
import NotificationEngine.SentFinal
import NotificationEngine.Custody
import NotificationEngine.LiveRows
import NotificationEngine.NothingLost
import NotificationEngine.ExactlyOneCarrier
import NotificationEngine.QueuedRows
import NotificationEngine.Recoverable
import NotificationEngine.HeadExpiry
import NotificationEngine.PublishRetry
import NotificationEngine.RetryDeadlines
import NotificationEngine.NewEvent
import NotificationEngine.PoisonMessages
import NotificationEngine.RetryChain
import NotificationEngine.ChainVerdict
import NotificationEngine.EnqueuedRows
import NotificationEngine.Ingestion
import NotificationEngine.AtLeastOnce
import NotificationEngine.PriorityQueue
import NotificationEngine.FifoOrder
import NotificationEngine.DispatchDecision
import NotificationEngine.CreateAnswer
import NotificationEngine.DuplicateLayers
import NotificationEngine.AcceptedPayloads
import NotificationEngine.UniqueRows
import NotificationEngine.EnqueuedOnce
import NotificationEngine.Idempotency
import NotificationEngine.Snapshots
import NotificationEngine.RowCoherence
import NotificationEngine.RetryBudget
import NotificationEngine.Exhaustion
import NotificationEngine.Erasure
import NotificationEngine.Isolation
import NotificationEngine.CappedWindows
import NotificationEngine.CreateRequest
import NotificationEngine.CreatedResponse
import NotificationEngine.DetailResponse
import NotificationEngine.FirstFailure
import NotificationEngine.IndependentChannels
import NotificationEngine.Listing
import NotificationEngine.RetryWindows
import NotificationEngine.SentTimes
import NotificationEngine.BoundedWork
import NotificationEngine.DeadLetterFacts
import NotificationEngine.Drain
import NotificationEngine.Lifecycle
import NotificationEngine.Shutdown
import NotificationEngine.Backoff
import NotificationEngine.ClaimWindow
import NotificationEngine.MockProviders
import NotificationEngine.MockedRuns
import NotificationEngine.UrgentFirst
import NotificationEngine.Amqp
import NotificationEngine.Declarations
import NotificationEngine.RenamedMembers
import NotificationEngine.WireRefinement
import NotificationEngine.Provenance
import NotificationEngine.CarriedOut
import NotificationEngine.Intake
import NotificationEngine.Ledger
import NotificationEngine.Mending
import NotificationEngine.RetryOrder
