import NotificationEngine.Dispatch

namespace NotificationEngine

/-- The awaits of `_on_retry_event`. -/
inductive EventPc
  | select
  | enqueue (score : Int)
  | ack

/-- The awaits of `retry_notification`; `returned` carries the error text, empty on success. -/
inductive RetryPc
  | select
  | commitPending (n : Notification)
  | refreshPending
  | enqueue (score : Int)
  | returned (error : String)

/-- The awaits of `create_notification` between the commit of a row and the end of its enqueue. -/
inductive SavingPc
  | refresh
  | enqueue (score : Int)

/-- An operation in progress on one row. -/
inductive Task
  | dispatch (pc : DispatchPc)
  | event (pc : EventPc)
  | retry (pc : RetryPc)
  | saving (pc : SavingPc)

/-- What one awaited call of a task leaves behind: the row, the RabbitMQ half of the queue
service, the next await, and what it put elsewhere. -/
structure Outcome where
  db : Option Notification
  service : QueueService
  next : Option Task
  enqueued : Option Int := none
  published : Option RetryMessage := none
  redelivered : Bool := false
  deadLetter : Option DeadLetter := none
  delivered : Bool := false
  exhausted : Bool := false

def Notification.markPending (n : Notification) : Notification :=
  { n with status := .pending, retryCount := n.retryCount + 1, errorCode := none, nextRetryTime := none }

/-- The commit of `update_status`, from the instance as loaded to the one with its attributes
set. -/
def commit (db : Option Notification) (loaded new : Notification) : Option Notification :=
  db.map (loaded.flush new)

/-- `dispatch` from one await to the next when the awaited call succeeds. -/
def DispatchPc.act (cfg : Config) (env : Env) (id : Nat) (q : QueueService)
    (db : Option Notification) : DispatchPc → Outcome
  | select => match db with
    | none => { db, service := q, next := none }
    | some n =>
      if env.hasProvider then { db, service := q, next := some (.dispatch (commitQueued n)) }
      else { db, service := q, next := some (.dispatch (commitFailed n .unknown false)) }
  | commitQueued n =>
    { db := commit db n n.markQueued, service := q, next := some (.dispatch refreshQueued) }
  | refreshQueued => { db, service := q, next := db.map fun n => .dispatch (health n) }
  | health n =>
    if env.healthy then { db, service := q, next := some (.dispatch (send n)) }
    else { db, service := q, next := (scheduleRetry cfg env n .providerDown).map .dispatch }
  | send n =>
    { db, service := q, next := (afterSend cfg env n).map .dispatch, delivered := env.result.success }
  | commitSent n externalId now =>
    { db := commit db n (n.markSent cfg externalId now), service := q,
      next := some (.dispatch refreshSent) }
  | refreshSent => { db, service := q, next := none }
  | commitFailed n code exhausted =>
    { db := commit db n (n.markFailed code), service := q,
      next := some (.dispatch (refreshFailed code exhausted)), exhausted := exhausted }
  | refreshFailed code exhausted =>
    { db, service := q,
      next := if exhausted then db.map fun n => .dispatch (sendToDlq n code) else none }
  | commitRetrying n code count delay =>
    { db := commit db n (n.markRetrying code count), service := q,
      next := some (.dispatch (refreshRetrying delay)) }
  | refreshRetrying delay => match db with
    | none => { db, service := q, next := none }
    | some _ =>
      { db, service := (q.getRabbitmqChannel cfg.aioPika).1,
        next := (q.getRabbitmqChannel cfg.aioPika).2.map fun pc => .dispatch (publishing delay pc) }
  | publishing delay pc =>
    { db, service := (pc.step q).1, next := (pc.step q).2.map fun pc => .dispatch (publishing delay pc),
      published := if pc = .publish then some ⟨id, env.now, delay⟩ else none }
  | sendToDlq n code =>
    { db, service := q, next := none, deadLetter := some (n.deadLetter id code env.now) }

/-- `_on_retry_event` from one await to the next. -/
def EventPc.act (env : Env) (q : QueueService) (db : Option Notification) : EventPc → Outcome
  | select => match db with
    | none => { db, service := q, next := some (.event ack) }
    | some n => { db, service := q, next := some (.event (enqueue (queueScore n.priority env.now))) }
  | enqueue score => { db, service := q, next := some (.event ack), enqueued := some score }
  | ack => { db, service := q, next := none }

/-- `retry_notification` from one await to the next. -/
def RetryPc.act (env : Env) (q : QueueService) (db : Option Notification) : RetryPc → Outcome
  | select => match db with
    | none => { db, service := q, next := some (.retry (returned "Notification not found")) }
    | some n =>
      if n.status = .sent then
        { db, service := q,
          next := some (.retry (returned "Cannot retry a notification with status sent")) }
      else if n.status = .queued then
        { db, service := q, next := some (.retry (returned "Notification is already queued")) }
      else { db, service := q, next := some (.retry (commitPending n)) }
  | commitPending n =>
    { db := commit db n n.markPending, service := q, next := some (.retry refreshPending) }
  | refreshPending =>
    { db, service := q,
      next := db.map fun n => .retry (enqueue (queueScore n.priority env.now)) }
  | enqueue score => { db, service := q, next := some (.retry (returned "")), enqueued := some score }
  | returned _ => { db, service := q, next := none }

def SavingPc.act (env : Env) (q : QueueService) (db : Option Notification) : SavingPc → Outcome
  | refresh =>
    { db, service := q, next := db.map fun n => .saving (enqueue (queueScore n.priority env.now)) }
  | enqueue score => { db, service := q, next := none, enqueued := some score }

def Task.act (cfg : Config) (env : Env) (id : Nat) (q : QueueService) (db : Option Notification) :
    Task → Outcome
  | dispatch pc => pc.act cfg env id q db
  | event pc => pc.act env q db
  | retry pc => pc.act env q db
  | saving pc => pc.act env q db

/-- How an awaited call ends. A call that raises, or whose process stops, may have taken effect
before its answer was lost. -/
inductive Fault
  | none
  | raised (effect : Bool)
  | stopped (effect : Bool)
  deriving DecidableEq, Repr

/-- Whether the call took effect. -/
def Fault.effect : Fault → Bool
  | none => true
  | raised effect => effect
  | stopped effect => effect

/-- Where the exception of an awaited call lands. `enqueue` catches it and returns `False`, which
its callers ignore; every other exception ends the operation. -/
def Task.afterRaise : Task → Option Task
  | event (.enqueue _) => some (.event .ack)
  | retry (.enqueue _) => some (.retry (.returned ""))
  | _ => none

def Task.serviceAfterRaise (q : QueueService) : Task → QueueService
  | dispatch (.publishing _ pc) => pc.raised q
  | _ => q

/-- The effect of a task's call whose answer never arrives; `send` reports nothing then. -/
def Task.unanswered (cfg : Config) (env : Env) (id : Nat) (q : QueueService)
    (db : Option Notification) (effect : Bool) (t : Task) : Outcome :=
  if effect then { t.act cfg env id q db with service := q, delivered := false }
  else { db, service := q, next := none }

/-- The broker redelivers a message whose handler stopped before its ack took effect. -/
def Task.unacked (effect : Bool) : Task → Bool
  | event .ack => !effect
  | event _ => true
  | _ => false

def Task.run (cfg : Config) (env : Env) (id : Nat) (q : QueueService) (db : Option Notification)
    (fault : Fault) (t : Task) : Outcome :=
  match fault with
  | .none => t.act cfg env id q db
  | .raised effect =>
    { t.unanswered cfg env id q db effect with
      next := t.afterRaise, service := t.serviceAfterRaise q }
  | .stopped effect =>
    { t.unanswered cfg env id q db effect with next := none, redelivered := t.unacked effect }

end NotificationEngine
