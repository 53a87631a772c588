import NotificationEngine.Declarations
import NotificationEngine.RenamedMembers
import NotificationEngine.TaskEffects
import NotificationEngine.NoteSteps

namespace NotificationEngine

open Amqp

/-- The service on Redis, where members are strings, and on RabbitMQ, where queues have to be declared and
bound; the lists that stand for these in its world stay empty. The clients are microservices, and handlers that
start. -/
structure Wired where
  world : World
  ops : List Op
  members : SortedSet String
  broker : Broker MessageBody
  clients : List (List (Request MessageBody))

def Wired.initial : Wired := ⟨.initial, [], .empty, .empty, []⟩

/-- `int(text)` of the decimal digits of a number; of what else `int` takes, nothing is ever sent. -/
def readInt (text : String) : Option Nat :=
  if text.toList ≠ [] && text.toList.all Char.isDigit then some (Nat.ofDigitChars 10 text.toList 0) else none

/-- The id of a retry message's body. -/
def MessageBody.id : MessageBody → Option Nat
  | text s => readInt s
  | deadLetter _ => none

/-- What the awaited call of a task asks of the broker. -/
def Task.requests (env : Env) (id : Nat) : Task → List (Request MessageBody)
  | dispatch (.publishing _ .declareQueue) => [declareRetryQueue]
  | dispatch (.publishing delay .publish) => [publishRetry id (env.now + 1000 * delay)]
  | dispatch (.sendToDlq n code) => dlqRequests (n.deadLetter id code env.now)
  | _ => []

def Op.requests (env : Env) (fault : Fault) : Op → List (Request MessageBody)
  | task id t => if fault.effect then t.requests env id else []
  | _ => []

/-- The id and the score that the awaited call adds to the sorted set. -/
def Op.zadd (fault : Fault) : Op → Option (Nat × Int)
  | task id t => if fault.effect then t.enqueues.map (Prod.mk id) else none
  | create c => match c.pc with
    | .saving id pc _ => if fault.effect then (Task.saving pc).enqueues.map (Prod.mk id) else none
    | _ => none
  | done => none

/-- The id of a message that the broker takes back. -/
def Op.unacked (fault : Fault) : Op → Option Nat
  | task id t => match fault with
    | .stopped effect => if t.unacked effect then some id else none
    | _ => none
  | _ => none

/-- The world without its sorted set and its RabbitMQ queues. -/
def World.unqueued (w : World) : World :=
  { w with queue := .empty, retryQueue := [], retryResult := [], deadLetters := [] }

inductive WiredLabel
  | moves (l : Label)
  | startHandler
  | startPublisher (events : List (String × String))
  | request (i : Nat)
  | disconnect (i : Nat)

/-- A client does not give up. -/
def WiredLabel.stays (i : Nat) : WiredLabel → Bool
  | disconnect j => j ≠ i
  | _ => true

/-- The broker takes back a message that nobody acked. -/
def returned (b : Broker MessageBody) : Option Nat → Broker MessageBody
  | none => b
  | some id => b.put [retryResultQueue] (retryLetter id none)

/-- One coroutine's awaited call ends; a call that the broker refuses does not end well. -/
def Wired.call (cfg : Config) (w : Wired) (op : Op) (fault : Fault) (env : Env) (ops : Op → List Op) :
    Option Wired :=
  (w.broker.runAll (op.requests env fault)).map fun broker =>
    { w with
      world := (op.run cfg env w.world fault).1.unqueued
      ops := ops (op.run cfg env w.world fault).2
      members := match op.zadd fault with
        | none => w.members
        | some (id, score) => w.members.addNX (toString id) score
      broker := returned broker (op.unacked fault) }

/-- A body that is no number is nacked by `_on_retry_event`, and a member that is none is lost by `dequeue`. -/
def Wired.step (cfg : Config) (w : Wired) : WiredLabel → Option Wired
  | .moves (.dequeue fault) => match w.members.popMin String.toList with
    | none => some w
    | some (member, members) =>
      if fault = .none then
        some { w with members, ops := w.ops ++ ((readInt member).map fun id => .task id (.dispatch .select)).toList }
      else some (if fault.effect then { w with members } else w)
  | .moves (.expire now) => (w.broker.expire retryQueue now).map fun broker => { w with broker }
  | .moves .deliver => (w.broker.take retryResultQueue).map fun (l, broker) =>
    { w with broker, ops := w.ops ++ (l.content.id.map fun id => .task id (.event .select)).toList }
  | .moves (.run i fault env) => w.ops[i]?.bind fun op => w.call cfg op fault env (w.ops.set i)
  | .moves l => ((⟨w.world, w.ops⟩ : Sys).step cfg l).map fun s => { w with world := s.world, ops := s.ops }
  | .startHandler => some { w with clients := w.clients ++ [startRequests] }
  | .startPublisher events => some { w with clients := w.clients ++ [publisherRequests events] }
  | .request i => match w.clients[i]? with
    | some (r :: rest) =>
      some (match w.broker.run r with
        | none => { w with clients := w.clients.set i [] }
        | some broker => { w with broker, clients := w.clients.set i rest })
    | _ => none
  | .disconnect i => some { w with clients := w.clients.set i [] }

abbrev Wired.Reach (cfg : Config) (ok : Wired → WiredLabel → Prop) : Wired → Wired → Prop :=
  Transition.Reach (fun w l w' => w.step cfg l = some w') ok

/-- The service on the wire stands for a state of the service. -/
structure Wired.Represents (w : Wired) (s : Sys) : Prop where
  world : w.world = s.world.unqueued
  ops : w.ops = s.ops
  members : SortedSet.Renames toString s.world.queue w.members
  retries : w.broker.ready retryQueue =
    s.world.retryQueue.map fun m => retryLetter m.notificationId (some m.deadline)
  results : w.broker.ready retryResultQueue = s.world.retryResult.map fun id => retryLetter id none
  letters : w.broker.ready dlqQueue = s.world.deadLetters.map deadLetterMessage

/-- A call of `publish` comes after its declaration. -/
def Op.publishing : Op → Bool
  | task _ (.dispatch (.publishing _ .publish)) => true
  | _ => false

/-- Nothing at the broker was declared otherwise, or ever will be. -/
structure Wired.Planned (w : Wired) : Prop where
  within : w.broker.topology.Within declarations
  sound : w.broker.topology.Sound
  clients : ∀ rs ∈ w.clients, declarations.Serves w.broker.topology rs
  events : ∀ rs ∈ w.clients, ∀ exchange l, .publish exchange l ∈ rs → exchange = exchangeName
  declared : (∃ op ∈ w.ops, op.publishing = true) ∨ w.broker.ready retryQueue ≠ [] →
    (w.broker.topology.queues retryQueue).isSome = true

section Frame

variable {cfg : Config} {env : Env} {w : World} {fault : Fault}

theorem readInt_toString (id : Nat) : readInt (toString id) = some id := by
  have digits : (toString id).toList = Nat.toDigits 10 id := Nat.toList_repr
  have nonempty : Nat.toDigits 10 id ≠ [] := Nat.toDigits_ne_nil
  have all : (Nat.toDigits 10 id).all Char.isDigit = true :=
    List.all_eq_true.mpr fun _ mem => Nat.isDigit_of_mem_toDigits (by decide) (by decide) mem
  rw [readInt, digits]
  simp [nonempty, all, Nat.ofDigitChars_ten_toDigits]

theorem toString_inj (a b : Nat) (h : toString a = toString b) : a = b := by
  have back := congrArg readInt h
  rw [readInt_toString, readInt_toString] at back
  exact Option.some.inj back

variable (cfg env w) in
theorem CreateOp.act_unqueued (c : CreateOp) :
    (c.act cfg env w.unqueued).2 = (c.act cfg env w).2 ∧
      (c.act cfg env w.unqueued).1.unqueued = (c.act cfg env w).1.unqueued := by
  obtain ⟨payload, created, pc⟩ := c
  cases pc with
  | setnx =>
    by_cases there : payload.redisKey ∈ w.idemKeys
    · have there' : payload.redisKey ∈ w.unqueued.idemKeys := there
      rw [CreateOp.act, CreateOp.act]
      dsimp only
      rw [if_pos there, if_pos there']
      exact ⟨rfl, rfl⟩
    · have there' : payload.redisKey ∉ w.unqueued.idemKeys := there
      rw [CreateOp.act, CreateOp.act]
      dsimp only
      rw [if_neg there, if_neg there']
      exact ⟨rfl, rfl⟩
  | insert channel rest =>
    have same : w.unqueued.insertResult (CreateOp.newRow ⟨payload, created, .insert channel rest⟩ env channel) =
        w.insertResult (CreateOp.newRow ⟨payload, created, .insert channel rest⟩ env channel) := rfl
    rw [CreateOp.act, CreateOp.act]
    dsimp only
    rw [same]
    cases w.insertResult (CreateOp.newRow ⟨payload, created, .insert channel rest⟩ env channel) <;> exact ⟨rfl, rfl⟩
  | saving id pc rest =>
    have same : (Task.saving pc).act cfg env id w.unqueued.service (w.unqueued.rows id) =
        (Task.saving pc).act cfg env id w.service (w.rows id) := rfl
    cases pc with
    | refresh =>
      rw [CreateOp.act, CreateOp.act]
      dsimp only
      rw [same]
      cases ((Task.saving .refresh).act cfg env id w.service (w.rows id)).next <;> exact ⟨rfl, rfl⟩
    | enqueue score => exact ⟨rfl, rfl⟩
  | _ => exact ⟨rfl, rfl⟩

variable (cfg env w fault) in
/-- What an operation does depends on its queues in nothing. -/
theorem Op.run_unqueued (op : Op) :
    (op.run cfg env w.unqueued fault).2 = (op.run cfg env w fault).2 ∧
      (op.run cfg env w.unqueued fault).1.unqueued = (op.run cfg env w fault).1.unqueued := by
  cases op with
  | task id t => exact ⟨rfl, rfl⟩
  | done => exact ⟨rfl, rfl⟩
  | create c =>
    obtain ⟨op, world⟩ := c.act_unqueued cfg env w
    cases fault with
    | none => exact ⟨congrArg Op.create op, world⟩
    | raised effect =>
      cases effect with
      | false => exact ⟨rfl, rfl⟩
      | true => exact ⟨rfl, world⟩
    | stopped effect =>
      cases effect with
      | false => exact ⟨rfl, rfl⟩
      | true => exact ⟨rfl, world⟩

/-- The retry message and the dead letter that an awaited call sends. -/
def Op.retries (env : Env) (fault : Fault) : Op → Option RetryMessage
  | task id t => if fault.effect then t.publishes env id else none
  | _ => none

def Op.buries (env : Env) (fault : Fault) : Op → Option DeadLetter
  | task id t => if fault.effect then t.buries env id else none
  | _ => none

theorem Task.run_zadd (id : Nat) (q : QueueService) (db : Option Notification) (t : Task) :
    (t.run cfg env id q db fault).enqueued.map (Prod.mk id) = (Op.task id t).zadd fault := by
  rw [Task.run_part Outcome.enqueued fun _ _ _ _ _ => rfl, (t.act_effects cfg env id q db).enqueued, Op.zadd]
  cases fault.effect <;> rfl

theorem Task.run_retries (id : Nat) (q : QueueService) (db : Option Notification) (t : Task) :
    (t.run cfg env id q db fault).published = (Op.task id t).retries env fault := by
  rw [Task.run_part Outcome.published fun _ _ _ _ _ => rfl, (t.act_effects cfg env id q db).published]
  rfl

theorem Task.run_unacked (id : Nat) (q : QueueService) (db : Option Notification) (t : Task) :
    (if (t.run cfg env id q db fault).redelivered then some id else none) = (Op.task id t).unacked fault := by
  cases fault with
  | none => exact if_neg (Bool.not_eq_true _ ▸ (t.act_effects cfg env id q db).redelivered)
  | raised effect =>
    cases effect with
    | false => rfl
    | true => exact if_neg (Bool.not_eq_true _ ▸ (t.act_effects cfg env id q db).redelivered)
  | stopped effect => rfl

/-- The queues after one awaited call of an operation. -/
structure World.Sends (w w' : World) (zadd : Option (Nat × Int)) (retry : Option RetryMessage)
    (unacked : Option Nat) (letter : Option DeadLetter) : Prop where
  queue : w'.queue = match zadd with
    | none => w.queue
    | some (id, score) => w.queue.addNX id score
  retryQueue : w'.retryQueue = w.retryQueue ++ retry.toList
  retryResult : w'.retryResult = w.retryResult ++ unacked.toList
  deadLetters : w'.deadLetters = w.deadLetters ++ letter.toList

theorem World.sends_nothing (w : World) : w.Sends w none none none none :=
  ⟨rfl, by simp, by simp, by simp⟩

theorem World.apply_sends (w : World) (id : Nat) (o : Outcome) :
    w.Sends (w.apply id o) (o.enqueued.map (Prod.mk id)) o.published (if o.redelivered then some id else none)
      o.deadLetter := by
  refine ⟨?_, rfl, ?_, rfl⟩
  · rw [World.apply]
    cases o.enqueued <;> rfl
  · rw [World.apply]
    cases o.redelivered <;> simp

variable (cfg env w) in
theorem CreateOp.act_sends (c : CreateOp) :
    w.Sends (c.act cfg env w).1 ((Op.create c).zadd .none) none none none := by
  obtain ⟨payload, created, pc⟩ := c
  cases pc with
  | setnx =>
    rw [CreateOp.act]
    dsimp only
    split
    next => exact w.sends_nothing
    next => exact ⟨rfl, by simp, by simp, by simp⟩
  | insert channel rest =>
    rw [CreateOp.act]
    dsimp only
    split <;> exact ⟨rfl, by simp [World.insert, World.skipId], by simp [World.insert, World.skipId],
      by simp [World.insert, World.skipId]⟩
  | saving id pc rest =>
    have sends := w.apply_sends id ((Task.saving pc).act cfg env id w.service (w.rows id))
    have effects := (Task.saving pc).act_effects cfg env id w.service (w.rows id)
    rw [effects.enqueued, effects.published, effects.redelivered, effects.deadLetter] at sends
    cases pc with
    | refresh =>
      rw [CreateOp.act]
      dsimp only
      split <;> exact sends
    | enqueue score => exact sends
  | _ => exact w.sends_nothing

variable (cfg env w fault) in
theorem Op.run_sends (op : Op) : w.Sends (op.run cfg env w fault).1 (op.zadd fault) (op.retries env fault)
    (op.unacked fault) (op.buries env fault) := by
  cases op with
  | task id t =>
    have sends := w.apply_sends id (t.run cfg env id w.service (w.rows id) fault)
    rw [Task.run_zadd, Task.run_retries, Task.run_unacked,
      (t.run_effects cfg env id w.service (w.rows id) fault).2.1] at sends
    exact sends
  | done => exact w.sends_nothing
  | create c =>
    have acted := c.act_sends cfg env w
    have world := c.run_world cfg env w fault
    have zadd : (Op.create c).zadd fault = if fault.effect then (Op.create c).zadd .none else none := by
      obtain ⟨payload, created, pc⟩ := c
      cases pc with
      | saving id pc rest => rfl
      | _ => exact (ite_self none).symm
    rw [Op.run, world, zadd]
    cases fault.effect with
    | true => exact acted
    | false => exact w.sends_nothing

end Frame

end NotificationEngine
