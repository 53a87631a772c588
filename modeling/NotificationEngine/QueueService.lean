import Mathlib.Data.List.Lex
import Mathlib.Data.Char
import Mathlib.Algebra.Group.Int.Defs
import NotificationEngine.Notification
import NotificationEngine.SortedSet

namespace NotificationEngine

/-- The one fact about the installed aio_pika that `get_rabbitmq_channel` depends on: whether
`is_closed` can be called. -/
structure AioPika where
  isClosedIsMethod : Bool

/-- aio_pika 9.5.4, as `requirements.txt` pins it: `is_closed` is a property. -/
def aioPika954 : AioPika := ⟨false⟩

/-- The expression `handle.is_closed()`; `none` is the `TypeError` of calling a `bool`. -/
def AioPika.isClosedCall (lib : AioPika) (closed : Bool) : Option Bool :=
  if lib.isClosedIsMethod then some closed else none

/-- A cached connection or channel object. -/
structure Handle where
  closed : Bool
  deriving DecidableEq

/-- The RabbitMQ half of a `QueueService`, with the number of connections it has opened at the
broker and nobody closed. -/
structure QueueService where
  rmqConnection : Option Handle
  rmqChannel : Option Handle
  openConnections : Nat
  deriving DecidableEq

def QueueService.fresh : QueueService := ⟨none, none, 0⟩

/-- The awaited calls of `publish_retry`, in order. -/
inductive PublishPc
  | connect | openChannel | declareQueue | publish
  deriving DecidableEq, Repr

/-- The `except` branch of `get_rabbitmq_channel`. -/
def QueueService.drop (q : QueueService) : QueueService :=
  { q with rmqConnection := none, rmqChannel := none }

/-- `get_rabbitmq_channel` up to its first await, and so `publish_retry` too; no program counter
means that `publish_retry` has returned `False`. -/
def QueueService.getRabbitmqChannel (lib : AioPika) (q : QueueService) :
    QueueService × Option PublishPc :=
  match q.rmqConnection with
  | none => (q, some .connect)
  | some connection =>
    match lib.isClosedCall connection.closed with
    | none => (q.drop, none)
    | some true => (q, some .connect)
    | some false =>
      match q.rmqChannel with
      | none => (q, some .openChannel)
      | some channel =>
        match lib.isClosedCall channel.closed with
        | none => (q.drop, none)
        | some true => (q, some .openChannel)
        | some false => (q, some .declareQueue)

/-- One awaited call of `publish_retry` that the broker accepts; after `publish` it returns
`True`. -/
def PublishPc.step (q : QueueService) : PublishPc → QueueService × Option PublishPc
  | connect =>
    ({ q with rmqConnection := some ⟨false⟩, openConnections := q.openConnections + 1 },
      some .openChannel)
  | openChannel => ({ q with rmqChannel := some ⟨false⟩ }, some .declareQueue)
  | declareQueue => (q, some .publish)
  | publish => (q, none)

/-- The service after a raised call: only a failure inside `get_rabbitmq_channel` drops the
cached objects. -/
def PublishPc.raised (q : QueueService) : PublishPc → QueueService
  | connect => q.drop
  | openChannel => q.drop
  | declareQueue => q
  | publish => q

/-- A message of `notification.retry`: its body, and the broker's clock and the delay that make
up its expiration. -/
structure RetryMessage where
  notificationId : Nat
  publishedAt : Int
  delay : Nat
  deriving DecidableEq, Repr

/-- The instant in milliseconds at which the message's expiration has elapsed. -/
def RetryMessage.deadline (m : RetryMessage) : Int := m.publishedAt + 1000 * m.delay

/-- The score `enqueue` computes. -/
def queueScore (priority : NotificationPriority) (timestampMs : Int) : Int :=
  priority.value * 10 ^ 12 + timestampMs

/-- The bytes of the member string `str(notification_id)`, which settle equal scores. -/
def memberKey (notificationId : Nat) : List Char := Nat.toDigits 10 notificationId

end NotificationEngine
