import NotificationEngine.Note

namespace NotificationEngine

/-- The commit a task awaits: the instance as loaded and the status it was given. -/
def Task.commits : Task → Option (Notification × NotificationStatus)
  | dispatch (.commitQueued n) => some (n, .queued)
  | dispatch (.commitSent n _ _) => some (n, .sent)
  | dispatch (.commitFailed n _ _) => some (n, .failed)
  | dispatch (.commitRetrying n _ _ _) => some (n, .retrying)
  | retry (.commitPending n) => some (n, .pending)
  | _ => none

/-- What the awaited call does to the row. -/
def Task.write (cfg : Config) : Task → Notification → Notification
  | dispatch (.commitQueued n) => n.flush n.markQueued
  | dispatch (.commitSent n externalId now) => n.flush (n.markSent cfg externalId now)
  | dispatch (.commitFailed n code _) => n.flush (n.markFailed code)
  | dispatch (.commitRetrying n code count _) => n.flush (n.markRetrying code count)
  | retry (.commitPending n) => n.flush n.markPending
  | _ => id

def Task.enqueues : Task → Option Int
  | event (.enqueue score) => some score
  | retry (.enqueue score) => some score
  | saving (.enqueue score) => some score
  | _ => none

def Task.publishes (env : Env) (id : Nat) : Task → Option RetryMessage
  | dispatch (.publishing delay pc) => if pc = .publish then some ⟨id, env.now, delay⟩ else none
  | _ => none

def Task.buries (env : Env) (id : Nat) : Task → Option DeadLetter
  | dispatch (.sendToDlq n code) => some (n.deadLetter id code env.now)
  | _ => none

def Task.delivers (env : Env) : Task → Bool
  | dispatch (.send _) => env.result.success
  | _ => false

def Task.exhausts : Task → Bool
  | dispatch (.commitFailed _ _ exhausted) => exhausted
  | _ => false

/-- Everything an awaited call does but for the next await. -/
structure Outcome.Effects (o : Outcome) (cfg : Config) (env : Env) (id : Nat)
    (row : Option Notification) (t : Task) : Prop where
  db : o.db = row.map (t.write cfg)
  enqueued : o.enqueued = t.enqueues
  published : o.published = t.publishes env id
  redelivered : o.redelivered = false
  deadLetter : o.deadLetter = t.buries env id
  delivered : o.delivered = t.delivers env
  exhausted : o.exhausted = t.exhausts

theorem Task.act_effects (cfg : Config) (env : Env) (id : Nat) (q : QueueService)
    (db : Option Notification) (t : Task) : (t.act cfg env id q db).Effects cfg env id db t := by
  have same : db = db.map fun r => r := by cases db <;> rfl
  rcases t with pc | pc | pc | pc
  · cases pc with
    | select =>
      simp only [Task.act, DispatchPc.act]
      split
      next => exact ⟨rfl, rfl, rfl, rfl, rfl, rfl, rfl⟩
      next => split <;> exact ⟨rfl, rfl, rfl, rfl, rfl, rfl, rfl⟩
    | health n =>
      simp only [Task.act, DispatchPc.act]
      split <;> exact ⟨same, rfl, rfl, rfl, rfl, rfl, rfl⟩
    | refreshRetrying delay =>
      simp only [Task.act, DispatchPc.act]
      split <;> exact ⟨rfl, rfl, rfl, rfl, rfl, rfl, rfl⟩
    | commitQueued n => exact ⟨rfl, rfl, rfl, rfl, rfl, rfl, rfl⟩
    | commitSent n externalId now => exact ⟨rfl, rfl, rfl, rfl, rfl, rfl, rfl⟩
    | commitFailed n code exhausted => exact ⟨rfl, rfl, rfl, rfl, rfl, rfl, rfl⟩
    | commitRetrying n code count delay => exact ⟨rfl, rfl, rfl, rfl, rfl, rfl, rfl⟩
    | _ => exact ⟨same, rfl, rfl, rfl, rfl, rfl, rfl⟩
  · cases pc with
    | select =>
      simp only [Task.act, EventPc.act]
      split <;> exact ⟨rfl, rfl, rfl, rfl, rfl, rfl, rfl⟩
    | _ => exact ⟨same, rfl, rfl, rfl, rfl, rfl, rfl⟩
  · cases pc with
    | select =>
      simp only [Task.act, RetryPc.act]
      split
      next => exact ⟨rfl, rfl, rfl, rfl, rfl, rfl, rfl⟩
      next =>
        split
        next => exact ⟨rfl, rfl, rfl, rfl, rfl, rfl, rfl⟩
        next => split <;> exact ⟨rfl, rfl, rfl, rfl, rfl, rfl, rfl⟩
    | commitPending n => exact ⟨rfl, rfl, rfl, rfl, rfl, rfl, rfl⟩
    | _ => exact ⟨same, rfl, rfl, rfl, rfl, rfl, rfl⟩
  · cases pc <;> exact ⟨same, rfl, rfl, rfl, rfl, rfl, rfl⟩

/-- A fault decides whether a call takes effect, and else only what becomes of the task, its
connection and its message, and whether a delivery is reported. -/
theorem Task.run_part {α : Type} (part : Outcome → α) (kept : ∀ (o : Outcome) service next redelivered
      delivered, part { o with service, next, redelivered, delivered } = part o)
    (cfg : Config) (env : Env) (id : Nat) (q : QueueService) (db : Option Notification)
    (fault : Fault) (t : Task) :
    part (t.run cfg env id q db fault) =
      if fault.effect then part (t.act cfg env id q db)
      else part { db, service := q, next := none } := by
  cases fault with
  | none => rfl
  | raised effect =>
    cases effect with
    | false => exact kept { db, service := q, next := none } _ _ _ _
    | true => exact kept (t.act cfg env id q db) _ _ _ _
  | stopped effect =>
    cases effect with
    | false => exact kept { db, service := q, next := none } _ _ _ _
    | true => exact kept (t.act cfg env id q db) _ _ _ _

/-- What is left of these effects when the answer may be lost. -/
theorem Task.run_effects (cfg : Config) (env : Env) (id : Nat) (q : QueueService)
    (db : Option Notification) (fault : Fault) (t : Task) :
    let o := t.run cfg env id q db fault
    o.db = (if fault.effect then db.map (t.write cfg) else db) ∧
      o.deadLetter = (if fault.effect then t.buries env id else none) ∧
      o.exhausted = (fault.effect && t.exhausts) := by
  have acted := t.act_effects cfg env id q db
  refine ⟨?_, ?_, ?_⟩
  · rw [Task.run_part Outcome.db fun _ _ _ _ _ => rfl, acted.db]
  · rw [Task.run_part Outcome.deadLetter fun _ _ _ _ _ => rfl, acted.deadLetter]
  · rw [Task.run_part Outcome.exhausted fun _ _ _ _ _ => rfl, acted.exhausted]
    cases fault.effect <;> rfl

theorem Task.run_db (cfg : Config) (env : Env) (id : Nat) (q : QueueService)
    (db : Option Notification) (fault : Fault) (t : Task) :
    (t.run cfg env id q db fault).db = if fault.effect then db.map (t.write cfg) else db :=
  (t.run_effects cfg env id q db fault).1

theorem Task.run_isSome (cfg : Config) (env : Env) (id : Nat) (q : QueueService)
    (db : Option Notification) (fault : Fault) (t : Task) :
    (t.run cfg env id q db fault).db.isSome = db.isSome := by
  rw [Task.run_db]
  split <;> simp

theorem Note.Step.row_isSome {cfg : Config} {j : Nat} {n n' : Note} {e : NoteLabel}
    (h : Note.Step cfg j n e n') (row : n.row.isSome = true) : n'.row.isSome = true := by
  cases h with
  | inserted lost payload channel ctime _ => rfl
  | ran t fault env q tasks => exact (Task.run_isSome cfg env j q n.row fault t).trans row
  | _ => exact row

theorem Task.write_status (cfg : Config) (t : Task) (r : Notification) :
    (t.write cfg r).status = match t.commits with
      | none => r.status
      | some (n, new) => SnapshotWrite.column n.status new r.status := by
  rcases t with pc | pc | pc | pc
  · cases pc <;> rfl
  · cases pc <;> rfl
  · cases pc <;> rfl
  · cases pc <;> rfl

/-- Only the commit of `_mark_sent` sets `stime`, and no other makes the row SENT. -/
theorem Task.write_stime (cfg : Config) (t : Task) (r : Notification) :
    (∃ n externalId now, t = .dispatch (.commitSent n externalId now) ∧
        (t.write cfg r).stime = SnapshotWrite.column n.stime (some (cfg.storedStime now)) r.stime) ∨
      (t.write cfg r).stime = r.stime ∧ ((t.write cfg r).status = .sent → r.status = .sent) := by
  have other {n new : Notification} (time : new.stime = n.stime) (status : new.status ≠ .sent) :
      (n.flush new r).stime = r.stime ∧ ((n.flush new r).status = .sent → r.status = .sent) := by
    refine ⟨by simp [Notification.flush, time], fun sent => ?_⟩
    have stored : SnapshotWrite.column n.status new.status r.status = .sent := sent
    rcases SnapshotWrite.column_cases n.status new.status r.status with written | ⟨_, kept⟩
    · exact absurd (written.symm.trans stored) status
    · exact kept.symm.trans stored
  rcases t with pc | pc | pc | pc
  · cases pc with
    | commitSent n externalId now => exact Or.inl ⟨n, externalId, now, rfl, rfl⟩
    | commitQueued n => exact Or.inr (other rfl (by simp [Notification.markQueued]))
    | commitFailed n code exhausted => exact Or.inr (other rfl (by simp [Notification.markFailed]))
    | commitRetrying n code count delay => exact Or.inr (other rfl (by simp [Notification.markRetrying]))
    | _ => exact Or.inr ⟨rfl, fun sent => sent⟩
  · cases pc <;> exact Or.inr ⟨rfl, fun sent => sent⟩
  · cases pc with
    | commitPending n => exact Or.inr (other rfl (by simp [Notification.markPending]))
    | _ => exact Or.inr ⟨rfl, fun sent => sent⟩
  · cases pc <;> exact Or.inr ⟨rfl, fun sent => sent⟩

/-- No call changes a column that `flush` does not set. -/
theorem Task.write_column {α : Type} (t : Task) (column : Notification → α)
    (unset : ∀ loaded new stored, column (Notification.flush loaded new stored) = column stored)
    (cfg : Config) (r : Notification) : column (t.write cfg r) = column r := by
  rcases t with pc | pc | pc | pc
  · cases pc <;> first | rfl | exact unset _ _ _
  · cases pc <;> rfl
  · cases pc <;> first | rfl | exact unset _ _ _
  · cases pc <;> rfl

theorem Note.Step.row_column {α : Type} {column : Notification → α} {cfg : Config} {j : Nat} {n n' : Note}
    {e : NoteLabel} {a : α}
    (unset : ∀ loaded new stored, column (Notification.flush loaded new stored) = column stored)
    (h : Note.Step cfg j n e n') (row : n.row.map column = some a) : n'.row.map column = some a := by
  cases h with
  | inserted lost payload channel ctime unborn =>
    rw [unborn] at row
    cases row
  | ran t fault env q tasks =>
    obtain ⟨r, there, rfl⟩ := Option.map_eq_some_iff.mp row
    rw [Note.after, Task.run_db, there]
    split
    next => exact congrArg some (t.write_column column unset cfg r)
    next => rfl
  | _ => exact row

end NotificationEngine
