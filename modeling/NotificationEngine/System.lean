import NotificationEngine.Task
import NotificationEngine.NotificationCreate
import NotificationEngine.Transition

namespace NotificationEngine

/-- PostgreSQL, Redis, RabbitMQ and the `QueueService` of the process. The last four fields are
histories: the ids `send` returned success for, the ids of all retry messages published, the
ids `_schedule_retry` marked FAILED as exhausted, and the ids `create_notification` and the
other callers put into the sorted set. -/
structure World where
  rows : Nat → Option Notification
  nextId : Nat
  idemKeys : List String
  queue : SortedSet Nat
  retryQueue : List RetryMessage
  retryResult : List Nat
  deadLetters : List DeadLetter
  service : QueueService
  deliveries : List Nat
  published : List Nat
  exhausted : List Nat
  enqueued : List Nat

def World.initial : World where
  rows := fun _ => none
  nextId := 1
  idemKeys := []
  queue := .empty
  retryQueue := []
  retryResult := []
  deadLetters := []
  service := .fresh
  deliveries := []
  published := []
  exhausted := []
  enqueued := []

/-- The awaits of `create_notification`; `created` of `CreateOp` is its local list. -/
inductive CreatePc
  | setnx
  | expire
  | insert (channel : NotificationChannel) (rest : List NotificationChannel)
  | rollback (rest : List NotificationChannel)
  | saving (id : Nat) (pc : SavingPc) (rest : List NotificationChannel)
  | returned (isDuplicate : Bool)
  | raised

structure CreateOp where
  payload : NotificationCreate
  created : List Nat
  pc : CreatePc

/-- A coroutine of the service, by what it is doing. -/
inductive Op
  | create (c : CreateOp)
  | task (id : Nat) (t : Task)
  | done

structure Sys where
  world : World
  ops : List Op

def Sys.initial : Sys := ⟨.initial, []⟩

/-- Write the outcome of a call on row `id` back. -/
def World.apply (w : World) (id : Nat) (o : Outcome) : World :=
  { w with
    rows := fun i => if i = id then o.db else w.rows i
    service := o.service
    queue := match o.enqueued with
      | none => w.queue
      | some score => w.queue.addNX id score
    enqueued := if o.enqueued.isSome then w.enqueued ++ [id] else w.enqueued
    retryQueue := w.retryQueue ++ o.published.toList
    published := if o.published.isSome then w.published ++ [id] else w.published
    retryResult := if o.redelivered then w.retryResult ++ [id] else w.retryResult
    deadLetters := w.deadLetters ++ o.deadLetter.toList
    deliveries := if o.delivered then w.deliveries ++ [id] else w.deliveries
    exhausted := if o.exhausted then w.exhausted ++ [id] else w.exhausted }

/-- Some row already has the idempotency key. -/
def World.hasKey (w : World) (key : String) : Bool :=
  (List.range w.nextId).any fun i =>
    match w.rows i with
    | none => false
    | some n => n.idempotencyKey == key

/-- How the commit of a new row ends. A failed insert uses up its sequence value too. -/
inductive InsertResult
  | inserted | uniqueViolation | tooLong
  deriving DecidableEq, Repr

def World.insertResult (w : World) (n : Notification) : InsertResult :=
  if 255 < n.idempotencyKey.length ∨ 255 < n.recipient.length then .tooLong
  else if w.hasKey n.idempotencyKey then .uniqueViolation
  else .inserted

def World.insert (w : World) (n : Notification) : World :=
  { w with rows := fun i => if i = w.nextId then some n else w.rows i, nextId := w.nextId + 1 }

def World.skipId (w : World) : World := { w with nextId := w.nextId + 1 }

/-- The loop head of `create_notification`. -/
def CreateOp.nextChannel (c : CreateOp) : List NotificationChannel → CreateOp
  | [] => { c with pc := .returned false }
  | channel :: rest => { c with pc := .insert channel rest }

/-- The row a channel's insert commits. -/
def CreateOp.newRow (c : CreateOp) (env : Env) (channel : NotificationChannel) : Notification :=
  c.payload.row channel env.now

/-- The end of a `saving` call: `saved` joins `created` once its enqueue is over, whatever
`enqueue` returned. -/
def CreateOp.saved (c : CreateOp) (id : Nat) (rest : List NotificationChannel) : Option Task → CreateOp
  | some (.saving pc) => { c with pc := .saving id pc rest }
  | _ => { c with created := c.created ++ [id] }.nextChannel rest

/-- `create_notification` from one await to the next when the awaited call succeeds. -/
def CreateOp.act (cfg : Config) (env : Env) (w : World) (c : CreateOp) : World × CreateOp :=
  match c.pc with
  | .setnx =>
    if c.payload.redisKey ∈ w.idemKeys then (w, { c with pc := .returned true })
    else ({ w with idemKeys := c.payload.redisKey :: w.idemKeys }, { c with pc := .expire })
  | .expire => (w, c.nextChannel (eventChannelMap c.payload.eventType))
  | .insert channel rest =>
    match w.insertResult (c.newRow env channel) with
    | .inserted => (w.insert (c.newRow env channel), { c with pc := .saving w.nextId .refresh rest })
    | .uniqueViolation => (w.skipId, { c with pc := .rollback rest })
    | .tooLong => (w.skipId, { c with pc := .raised })
  | .rollback rest => (w, c.nextChannel rest)
  | .saving id pc rest =>
    let o := (Task.saving pc).act cfg env id w.service (w.rows id)
    match pc, o.next with
    | .refresh, none => (w.apply id o, { c with pc := .raised })
    | _, next => (w.apply id o, c.saved id rest next)
  | .returned _ => (w, c)
  | .raised => (w, c)

/-- Where the exception of an awaited call lands: only `enqueue` catches it. -/
def CreateOp.afterRaise (c : CreateOp) : CreateOp :=
  match c.pc with
  | .saving id (.enqueue _) rest => c.saved id rest none
  | _ => { c with pc := .raised }

def CreateOp.run (cfg : Config) (env : Env) (w : World) (fault : Fault) (c : CreateOp) :
    World × Op :=
  match fault with
  | .none => ((c.act cfg env w).1, .create (c.act cfg env w).2)
  | .raised effect => (if effect then (c.act cfg env w).1 else w, .create c.afterRaise)
  | .stopped effect => (if effect then (c.act cfg env w).1 else w, .done)

/-- What is left of an operation on row `id` after a call. -/
def Op.ofNext (id : Nat) : Option Task → Op
  | none => .done
  | some t => .task id t

def Op.run (cfg : Config) (env : Env) (w : World) (fault : Fault) : Op → World × Op
  | create c => c.run cfg env w fault
  | task id t =>
    let o := t.run cfg env id w.service (w.rows id) fault
    (w.apply id o, .ofNext id o.next)
  | done => (w, .done)

/-- Who moves next, and how the call it awaits ends. -/
inductive Label
  | createNotification (payload : NotificationCreate)
  | retryNotification (id : Nat)
  | dequeue (fault : Fault)
  | expire (now : Int)
  | deliver
  | forget (key : String)
  | restart
  | run (i : Nat) (fault : Fault) (env : Env)

/-- One step: a request arrives, a worker pops an id, the TTL of the head of
`notification.retry` elapses, the broker hands over the head of `notification.retry.result`, an
idempotency key vanishes from Redis, a new process starts, or one coroutine's awaited call ends. -/
def Sys.step (cfg : Config) (s : Sys) : Label → Option Sys
  | .createNotification payload =>
    some { s with ops := s.ops ++ [.create ⟨payload, [], .setnx⟩] }
  | .retryNotification id => some { s with ops := s.ops ++ [.task id (.retry .select)] }
  | .dequeue fault =>
    match s.world.queue.popMin memberKey with
    | none => some s
    | some (id, queue) =>
      if fault = .none then
        some ⟨{ s.world with queue := queue }, s.ops ++ [.task id (.dispatch .select)]⟩
      else some (if fault.effect then { s with world := { s.world with queue := queue } } else s)
  | .expire now =>
    match s.world.retryQueue with
    | [] => none
    | m :: rest =>
      if m.deadline ≤ now then
        some { s with world := { s.world with
          retryQueue := rest, retryResult := s.world.retryResult ++ [m.notificationId] } }
      else none
  | .deliver =>
    match s.world.retryResult with
    | [] => none
    | id :: rest =>
      some ⟨{ s.world with retryResult := rest }, s.ops ++ [.task id (.event .select)]⟩
  | .forget key =>
    some { s with world := { s.world with idemKeys := s.world.idemKeys.filter (· ≠ key) } }
  | .restart => some { s with world := { s.world with service := .fresh } }
  | .run i fault env =>
    s.ops[i]?.map fun op => ⟨(op.run cfg env s.world fault).1, s.ops.set i (op.run cfg env s.world fault).2⟩

/-- The states reached by runs of the service whose every label meets `ok`. -/
abbrev Sys.Reach (cfg : Config) (ok : Sys → Label → Prop) : Sys → Sys → Prop :=
  Transition.Reach (fun s l s' => s.step cfg l = some s') ok

/-- The next calls of one operation. -/
def calls (i count : Nat) (env : Env) : List Label := List.replicate count (.run i .none env)

end NotificationEngine
