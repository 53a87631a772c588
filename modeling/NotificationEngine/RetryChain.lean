import Mathlib.Computability.StateTransition
import NotificationEngine.TaskMoves

namespace NotificationEngine

open Holders StateTransition

/-- What the providers do with one dispatch. -/
inductive Answer
  | noProvider
  | unhealthy
  | success (externalId : Option String)
  | failure (code : Option NotificationErrorCode)

def Answer.hasProvider : Answer → Bool
  | noProvider => false
  | _ => true

def Answer.healthy : Answer → Bool
  | unhealthy => false
  | _ => true

/-- What `send` returns, if it is called. -/
def Answer.result : Answer → ProviderResult
  | success externalId => ⟨true, externalId, none⟩
  | failure code => ⟨false, none, code.map NotificationErrorCode.value⟩
  | _ => ⟨false, none, none⟩

/-- The error code of a retryable failure. -/
def Answer.retryCode : Answer → Option NotificationErrorCode
  | unhealthy => some .providerDown
  | failure code =>
    if code.getD .unknown ∈ retryableErrorCodes then some (code.getD .unknown) else none
  | _ => none

def Answer.isSuccess : Answer → Bool
  | success _ => true
  | _ => false

/-- What a chain of dispatches meets: the answer to each, the queue service as each finds it when
it calls `publish_retry`, and the clock and the random draw at each awaited call. -/
structure Outside where
  answer : Nat → Answer
  service : Nat → QueueService
  now : Nat → Int
  draw : Nat → Nat

/-- A notification on its own: its row, where its id waits, the operation on it, its history, and
the dispatches and awaited calls so far. -/
structure Chain where
  row : Option Notification
  queued : Bool
  waiting : Nat
  ready : Nat
  task : Option Task
  deliveries : Nat
  published : Nat
  exhausted : Nat
  deadLetters : List DeadLetter
  dispatches : Nat
  calls : Nat

def Outside.env (out : Outside) (c : Chain) : Env where
  hasProvider := (out.answer (c.dispatches - 1)).hasProvider
  healthy := (out.answer (c.dispatches - 1)).healthy
  result := (out.answer (c.dispatches - 1)).result
  now := out.now c.calls
  draw := out.draw c.calls

def Chain.after (c : Chain) (o : Outcome) : Chain where
  row := o.db
  queued := c.queued || o.enqueued.isSome
  waiting := c.waiting + o.published.toList.length
  ready := c.ready + o.redelivered.toNat
  task := o.next
  deliveries := c.deliveries + o.delivered.toNat
  published := c.published + o.published.toList.length
  exhausted := c.exhausted + o.exhausted.toNat
  deadLetters := c.deadLetters ++ o.deadLetter.toList
  dispatches := c.dispatches
  calls := c.calls + 1

/-- One step: the operation's awaited call, or else a worker pops the id, the broker hands its
message over, or the message expires. -/
def Chain.advance (cfg : Config) (out : Outside) (j : Nat) (c : Chain) : Option Chain :=
  match c.task with
  | some t => some (c.after (t.act cfg (out.env c) j (out.service (c.dispatches - 1)) c.row))
  | none =>
    if c.queued then
      some { c with queued := false, task := some (.dispatch .select),
                    dispatches := c.dispatches + 1 }
    else match c.ready, c.waiting with
      | r + 1, _ => some { c with ready := r, task := some (.event .select) }
      | 0, w + 1 => some { c with waiting := w, ready := 1 }
      | 0, 0 => none

/-- A new row whose id has been put into the sorted set. -/
def Chain.new (n : Notification) : Chain where
  row := some n
  queued := true
  waiting := 0
  ready := 0
  task := none
  deliveries := 0
  published := 0
  exhausted := 0
  deadLetters := []
  dispatches := 0
  calls := 0

/-- The first dispatch, among the first `max_retries + 1`, whose outcome is not a retryable
failure. -/
def Outside.decisive (out : Outside) (maxRetries : Nat) : Option Nat :=
  (List.range (maxRetries + 1)).find? fun k => (out.answer k).retryCode.isNone

def Outside.finalStatus (out : Outside) (maxRetries : Nat) : NotificationStatus :=
  match out.decisive maxRetries with
  | none => .failed
  | some k => if (out.answer k).isSuccess then .sent else .failed

/-- The dead letter names the row as it was left. -/
def DeadLetter.Names (m : DeadLetter) (j : Nat) (n : Notification) : Prop :=
  m.notificationId = j ∧ m.idempotencyKey = n.idempotencyKey ∧
    n.errorCode.map NotificationErrorCode.label = some m.errorCode ∧ m.retryCount = n.retryCount

/-- The verdict a chain should end with. -/
structure Chain.RightVerdict (c : Chain) (out : Outside) (maxRetries j : Nat) : Prop where
  dispatches : c.dispatches ≤ maxRetries + 1
  row : ∃ n, c.row = some n ∧ n.status = out.finalStatus maxRetries ∧ n.retryCount = c.published ∧
    match out.decisive maxRetries with
    | some _ => c.deadLetters = []
    | none => ∃ m, c.deadLetters = [m] ∧ m.Names j n

/-- Every retry the chain asks for finds no connection cached, unless `is_closed` can be
called. -/
def Outside.Connects (cfg : Config) (out : Outside) (maxRetries : Nat) : Prop :=
  ∀ k < maxRetries, (∀ i ≤ k, (out.answer i).retryCode.isSome) →
    (out.service k).rmqConnection = none ∨ cfg.aioPika.isClosedIsMethod = true

def Chain.note (c : Chain) : Note where
  row := c.row
  queued := c.queued
  waiting := c.waiting
  ready := c.ready
  tasks := put c.task 0
  deliveries := c.deliveries
  published := c.published
  exhausted := c.exhausted
  deadLetters := c.deadLetters

/-- The chain is a life of the notification in the service. -/
theorem Chain.advance_step {cfg : Config} {out : Outside} {j : Nat} {c c' : Chain}
    (h : c.advance cfg out j = some c') : ∃ e, Note.Step cfg j c.note e c'.note := by
  obtain ⟨row, queued, waiting, ready, task, deliveries, published, exhausted, letters, dispatches,
    calls⟩ := c
  cases task with
  | some t => cases h; exact ⟨_, .ran t .none _ _ rfl⟩
  | none =>
    cases queued with
    | true => cases h; exact ⟨_, .dequeued false rfl⟩
    | false =>
      cases ready with
      | succ r => cases h; exact ⟨_, .delivered rfl⟩
      | zero =>
        cases waiting with
        | succ w => cases h; exact ⟨_, .expired rfl⟩
        | zero => cases h

end NotificationEngine
