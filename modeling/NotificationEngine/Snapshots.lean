import NotificationEngine.NoteRuns
import NotificationEngine.TaskSteps

namespace NotificationEngine

open Holders

/-- The instance whose attributes a task still goes by, as its session loaded it. -/
def Task.snapshot : Task → Option Notification
  | dispatch (.commitQueued n) => some n
  | dispatch (.health n) => some n
  | dispatch (.send n) => some n
  | dispatch (.commitSent n _ _) => some n
  | dispatch (.commitFailed n _ _) => some n
  | dispatch (.commitRetrying n _ _ _) => some n
  | retry (.commitPending n) => some n
  | _ => none

theorem Task.forall_snapshot {t : Task} {p : Notification → Prop} (none : t.snapshot = none) :
    ∀ n ∈ t.snapshot, p n := by
  intro n mem
  rw [none] at mem
  cases mem

/-- A scheduled retry counts one attempt more than its session loaded, within the limit of the
event type, and its error can be retried. -/
def Task.Scheduled (cfg : Config) : Task → Prop
  | dispatch (.commitRetrying n code count _) => code ∈ retryableErrorCodes ∧
      count = n.retryCount + 1 ∧ count ≤ (cfg.retryConfigFor n.eventType).maxRetries
  | _ => True

/-- What a call made ready: a scheduled retry, or the external id of a successful send. -/
def Task.Prepared (cfg : Config) (env : Env) : Task → Prop
  | dispatch (.commitSent _ externalId _) =>
    env.result.success = true ∧ externalId = env.result.externalId
  | t => t.Scheduled cfg

theorem Task.Prepared.scheduled {cfg : Config} {env : Env} {t : Task} (h : t.Prepared cfg env) :
    t.Scheduled cfg := by
  rcases t with pc | pc | pc | pc
  · cases pc <;> first | exact h | exact trivial
  · exact trivial
  · exact trivial
  · exact trivial

/-- The next await goes by the row as it is, or by what the task went by. -/
theorem Task.Goes.snapshot {cfg : Config} {env : Env} {q : QueueService} {db : Option Notification}
    {t u : Task} (h : t.Goes cfg env q db u) :
    (∀ n ∈ u.snapshot, t.snapshot = some n ∨ db = some n) ∧ u.Prepared cfg env := by
  cases h with
  | provided row => exact ⟨fun m mem => Or.inr (row.trans mem), trivial⟩
  | unprovided row => exact ⟨fun m mem => Or.inr (row.trans mem), trivial⟩
  | loaded row => exact ⟨fun m mem => Or.inr (row.trans mem), trivial⟩
  | accepted row _ _ => exact ⟨fun m mem => Or.inr (row.trans mem), trivial⟩
  | healthy => exact ⟨fun m mem => Or.inl mem, trivial⟩
  | rejected => exact ⟨fun m mem => Or.inl mem, trivial⟩
  | succeeded success => exact ⟨fun m mem => Or.inl mem, success, rfl⟩
  | exhausted own _ =>
    rcases own with rfl | rfl
    · exact ⟨fun m mem => Or.inl mem, trivial⟩
    · exact ⟨fun m mem => Or.inl mem, trivial⟩
  | scheduled own retryable within =>
    rcases own with rfl | rfl
    · exact ⟨fun m mem => Or.inl mem, retryable, rfl, within⟩
    · exact ⟨fun m mem => Or.inl mem, retryable, rfl, within⟩
  | _ => exact ⟨Task.forall_snapshot rfl, trivial⟩

/-- Every instance a task goes by is related to the row. -/
def Note.Snapshots (R : Notification → Notification → Prop) (n : Note) : Prop :=
  ∀ t ∈ n.tasks, ∀ m ∈ t.snapshot, ∃ r, n.row = some r ∧ R m r

/-- A relation that a row has to itself and that no write ends, relates every instance to its row. -/
theorem Note.Snapshots.step {cfg : Config} {j : Nat} {n n' : Note} {e : NoteLabel}
    {R : Notification → Notification → Prop} (snapshots : n.Snapshots R) (refl : ∀ r, R r r)
    (grows : ∀ t fault env q, e = .ran t fault env q → t ∈ n.tasks →
      ∀ m r, n.row = some r → R m r → R m (t.write cfg r))
    (h : Note.Step cfg j n e n') : n'.Snapshots R := by
  have later (m : Notification) (known : ∃ r, n.row = some r ∧ R m r) :
      ∃ r, n'.row = some r ∧ R m r := by
    obtain ⟨r, row, related⟩ := known
    cases h with
    | inserted lost payload channel ctime unborn =>
      rw [unborn] at row
      cases row
    | ran t fault env q tasks =>
      change ∃ r, (t.run cfg env j q n.row fault).db = some r ∧ R m r
      rw [Task.run_db, row]
      split
      next => exact ⟨_, rfl, grows t fault env q rfl (Note.mem_running tasks) m r row related⟩
      next => exact ⟨r, rfl, related⟩
    | _ => exact ⟨r, row, related⟩
  intro u hu m mem
  refine later m ?_
  rcases h.mem_tasks hu with there | start | ⟨t, fault, env, q, _, here, next⟩
  · exact snapshots u there m mem
  · cases start <;> cases mem
  · rcases (Task.run_goes next).snapshot.1 m mem with own | loaded
    · exact snapshots t here m own
    · exact ⟨m, loaded, refl m⟩

theorem Note.absent_snapshots (R : Notification → Notification → Prop) : Note.absent.Snapshots R :=
  fun t ht => absurd ht (Multiset.notMem_zero t)

/-- Every retry about to be committed was scheduled. -/
def Note.Scheduled (cfg : Config) (n : Note) : Prop := ∀ t ∈ n.tasks, t.Scheduled cfg

theorem Note.Scheduled.step {cfg : Config} {j : Nat} {n n' : Note} {e : NoteLabel}
    (scheduled : n.Scheduled cfg) (h : Note.Step cfg j n e n') : n'.Scheduled cfg := by
  intro u mem
  rcases h.mem_tasks mem with there | start | ⟨t, fault, env, q, _, _, next⟩
  · exact scheduled u there
  · cases start <;> trivial
  · exact (Task.run_goes next).snapshot.2.scheduled

theorem Note.absent_scheduled (cfg : Config) : Note.absent.Scheduled cfg :=
  fun t ht => absurd ht (Multiset.notMem_zero t)

/-- A row that has an `stime` keeps one. -/
theorem Task.write_timed {cfg : Config} {t : Task} {r : Notification}
    (known : ∀ n ∈ t.snapshot, n.stime.isSome = true → r.stime.isSome = true)
    (timed : r.stime.isSome = true) : (t.write cfg r).stime.isSome = true := by
  rcases t.write_stime cfg r with ⟨n, externalId, now, rfl, written⟩ | ⟨kept, _⟩
  · rw [written]
    exact SnapshotWrite.column_isSome rfl (known n rfl)
  · rw [kept, timed]

theorem Task.write_eventType (cfg : Config) (t : Task) (r : Notification) :
    (t.write cfg r).eventType = r.eventType :=
  t.write_column Notification.eventType (fun _ _ _ => rfl) cfg r

end NotificationEngine
