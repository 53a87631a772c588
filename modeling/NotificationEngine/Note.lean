import NotificationEngine.Holders
import NotificationEngine.System

namespace NotificationEngine

open Holders

/-- The operations that took the id over from a queue or from the row's insert, and have neither
handed it on nor committed a final outcome. -/
def Task.carries : Task → Bool
  | dispatch (.refreshSent) => false
  | dispatch (.refreshFailed _ _) => false
  | dispatch (.sendToDlq _ _) => false
  | dispatch _ => true
  | event .ack => false
  | event _ => true
  | retry _ => false
  | saving _ => true

/-- A `retry_notification` that accepted the row and has not put its id back yet. -/
def Task.resends : Task → Bool
  | retry .select => false
  | retry (.returned _) => false
  | retry _ => true
  | _ => false

def Task.holds (t : Task) : Bool := t.carries || t.resends

/-- The task that an operation is for notification `j`. -/
def Op.taskOf (j : Nat) : Op → Option Task
  | task id t => if id = j then some t else none
  | create c => match c.pc with
    | .saving id pc _ => if id = j then some (.saving pc) else none
    | _ => none
  | done => none

/-- The service as one notification sees it: its row, where its id is held, and its history. -/
structure Note where
  row : Option Notification
  queued : Bool
  waiting : Nat
  ready : Nat
  tasks : Multiset Task
  deliveries : Nat
  published : Nat
  exhausted : Nat
  deadLetters : List DeadLetter

/-- Carriers of the id, the sorted set, the two retry queues and the operations counted
together. A manual retry is no carrier: it adds one. -/
def Note.carriers (n : Note) : Nat :=
  n.queued.toNat + n.waiting + n.ready + held Task.carries n.tasks

def Sys.note (j : Nat) (s : Sys) : Note where
  row := s.world.rows j
  queued := decide (j ∈ s.world.queue)
  waiting := s.world.retryQueue.countP (fun m => m.notificationId = j)
  ready := s.world.retryResult.count j
  tasks := s.ops.filterMap (Op.taskOf j)
  deliveries := s.world.deliveries.count j
  published := s.world.published.count j
  exhausted := s.world.exhausted.count j
  deadLetters := s.world.deadLetters.filter (fun m => m.notificationId = j)

/-- The carriers of notification `j` in the whole service. -/
def Sys.carriers (j : Nat) (s : Sys) : Nat :=
  (if j ∈ s.world.queue then 1 else 0)
    + s.world.retryQueue.countP (fun m => m.notificationId = j)
    + s.world.retryResult.count j
    + s.ops.countP fun op => (op.taskOf j).any Task.carries

/-- What a step of the service is for one notification. A `lost` pop or insert took effect, but
the caller never learnt it. -/
inductive NoteLabel
  | requested
  | dequeued (lost : Bool)
  | expired
  | delivered
  | inserted (lost : Bool)
  | ran (t : Task) (fault : Fault) (env : Env) (q : QueueService)

/-- The notification after a call of one of its tasks, the others being `rest`. -/
def Note.after (n : Note) (rest : Multiset Task) (o : Outcome) : Note where
  row := o.db
  queued := n.queued || o.enqueued.isSome
  waiting := n.waiting + o.published.toList.length
  ready := n.ready + o.redelivered.toNat
  tasks := put o.next rest
  deliveries := n.deliveries + o.delivered.toNat
  published := n.published + o.published.toList.length
  exhausted := n.exhausted + o.exhausted.toNat
  deadLetters := n.deadLetters ++ o.deadLetter.toList

theorem Note.mem_after {n : Note} {rest : Multiset Task} {o : Outcome} {t : Task} :
    t ∈ (n.after rest o).tasks ↔ o.next = some t ∨ t ∈ rest :=
  mem_put

/-- The life of one notification. -/
inductive Note.Step (cfg : Config) (j : Nat) : Note → NoteLabel → Note → Prop
  | requested {n} : Step cfg j n .requested { n with tasks := .retry .select ::ₘ n.tasks }
  | dequeued {n} (lost) : n.queued = true →
      Step cfg j n (.dequeued lost)
        { n with queued := false, tasks := put (if lost then none else some (.dispatch .select)) n.tasks }
  | expired {n w} : n.waiting = w + 1 →
      Step cfg j n .expired { n with waiting := w, ready := n.ready + 1 }
  | delivered {n r} : n.ready = r + 1 →
      Step cfg j n .delivered { n with ready := r, tasks := .event .select ::ₘ n.tasks }
  | inserted {n} (lost) (payload channel ctime) : n.row = none →
      Step cfg j n (.inserted lost)
        { n with row := some (NotificationCreate.row payload channel ctime),
                 tasks := put (if lost then none else some (.saving .refresh)) n.tasks }
  | ran {n rest} (t fault env q) : n.tasks = t ::ₘ rest →
      Step cfg j n (.ran t fault env q) (n.after rest (t.run cfg env j q n.row fault))

section Tasks

variable {cfg : Config} {j : Nat} {n n' : Note} {e : NoteLabel} {t u : Task} {rest : Multiset Task}

theorem Note.mem_running (tasks : n.tasks = t ::ₘ rest) : t ∈ n.tasks := by
  rw [tasks]
  exact Multiset.mem_cons_self t rest

theorem Note.mem_resting (tasks : n.tasks = t ::ₘ rest) (there : u ∈ rest) : u ∈ n.tasks := by
  rw [tasks]
  exact Multiset.mem_cons_of_mem there

/-- The task that starts with a step. -/
inductive NoteLabel.Starts : NoteLabel → Task → Prop
  | requested : Starts requested (.retry .select)
  | dequeued : Starts (dequeued false) (.dispatch .select)
  | delivered : Starts delivered (.event .select)
  | inserted : Starts (inserted false) (.saving .refresh)

/-- A task after a step was there before, starts with it, or is what the running one went on to. -/
theorem Note.Step.mem_tasks (h : Note.Step cfg j n e n') (mem : u ∈ n'.tasks) :
    u ∈ n.tasks ∨ e.Starts u ∨ ∃ t fault env q, e = .ran t fault env q ∧ t ∈ n.tasks ∧
      (t.run cfg env j q n.row fault).next = some u := by
  cases h with
  | requested =>
    rcases Multiset.mem_cons.mp mem with rfl | there
    · exact Or.inr (Or.inl .requested)
    · exact Or.inl there
  | dequeued lost _ =>
    rcases mem_put.mp mem with popped | there
    · cases lost <;> cases popped
      exact Or.inr (Or.inl .dequeued)
    · exact Or.inl there
  | expired _ => exact Or.inl mem
  | delivered _ =>
    rcases Multiset.mem_cons.mp mem with rfl | there
    · exact Or.inr (Or.inl .delivered)
    · exact Or.inl there
  | inserted lost _ _ _ _ =>
    rcases mem_put.mp mem with saving | there
    · cases lost <;> cases saving
      exact Or.inr (Or.inl .inserted)
    · exact Or.inl there
  | ran t fault env q tasks =>
    rcases Note.mem_after.mp mem with next | there
    · exact Or.inr (Or.inr ⟨t, fault, env, q, rfl, Note.mem_running tasks, next⟩)
    · exact Or.inl (Note.mem_resting tasks there)

end Tasks

/-- The label under which notification `j` sees a step of the service, if it sees it. -/
def Sys.seenAs (j : Nat) (s : Sys) : Label → Option NoteLabel
  | .createNotification _ => none
  | .retryNotification id => if id = j then some .requested else none
  | .dequeue fault =>
    match s.world.queue.popMin memberKey with
    | none => none
    | some (id, _) =>
      if id = j ∧ fault.effect = true then some (.dequeued (fault ≠ .none)) else none
  | .expire _ => match s.world.retryQueue with
    | [] => none
    | m :: _ => if m.notificationId = j then some .expired else none
  | .deliver => match s.world.retryResult with
    | [] => none
    | id :: _ => if id = j then some .delivered else none
  | .forget _ => none
  | .restart => none
  | .run i fault env => match s.ops[i]? with
    | none => none
    | some op => match op.taskOf j with
      | some t => some (.ran t fault env s.world.service)
      | none => match op with
        | .create c => match c.pc with
          | .insert channel _ =>
            if s.world.nextId = j ∧ s.world.insertResult (c.newRow env channel) = .inserted ∧
                fault.effect = true then some (.inserted (fault ≠ .none))
            else none
          | _ => none
        | _ => none

end NotificationEngine
