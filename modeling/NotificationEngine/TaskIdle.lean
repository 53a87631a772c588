import NotificationEngine.TaskMoves

namespace NotificationEngine

/-- A task that carries nothing writes nothing; only an accepted retry starts to carry. -/
structure Outcome.Idle (o : Outcome) (row : Option Notification) (t : Task) : Prop where
  unchanged : o.db = row
  enqueued : o.enqueued = none
  published : o.published = none
  redelivered : o.redelivered = false
  delivered : o.delivered = false
  exhausted : o.exhausted = false
  next : ∀ t' ∈ o.next, t'.holds = false ∨ t = .retry .select ∧
    ∃ n, row = some n ∧ n.status ≠ .sent ∧ n.status ≠ .queued ∧ t' = .retry (.commitPending n)

theorem Task.act_idle {cfg : Config} {env : Env} {id : Nat} {q : QueueService}
    {db : Option Notification} {t : Task} (idle : t.holds = false) :
    (t.act cfg env id q db).Idle db t := by
  rcases t with pc | pc | pc | pc
  · cases pc with
    | refreshSent => exact ⟨rfl, rfl, rfl, rfl, rfl, rfl, by simp [Task.act, DispatchPc.act]⟩
    | refreshFailed code exhausted =>
      refine ⟨rfl, rfl, rfl, rfl, rfl, rfl, ?_⟩
      intro t' ht
      left
      cases exhausted with
      | false => simp [Task.act, DispatchPc.act] at ht
      | true =>
        obtain ⟨n, _, rfl⟩ := Option.map_eq_some_iff.mp ht
        rfl
    | sendToDlq n code => exact ⟨rfl, rfl, rfl, rfl, rfl, rfl, by simp [Task.act, DispatchPc.act]⟩
    | _ => simp [Task.holds, Task.carries, Task.resends] at idle
  · cases pc with
    | ack => exact ⟨rfl, rfl, rfl, rfl, rfl, rfl, by simp [Task.act, EventPc.act]⟩
    | _ => simp [Task.holds, Task.carries, Task.resends] at idle
  · cases pc with
    | select =>
      cases db with
      | none => exact ⟨rfl, rfl, rfl, rfl, rfl, rfl, by simp [Task.act, RetryPc.act, Task.holds, Task.carries, Task.resends]⟩
      | some n =>
        simp only [Task.act, RetryPc.act]
        split
        next => exact ⟨rfl, rfl, rfl, rfl, rfl, rfl, by simp [Task.holds, Task.carries, Task.resends]⟩
        next hsent =>
          split
          next => exact ⟨rfl, rfl, rfl, rfl, rfl, rfl, by simp [Task.holds, Task.carries, Task.resends]⟩
          next hqueued => exact ⟨rfl, rfl, rfl, rfl, rfl, rfl, by simp [hsent, hqueued]⟩
    | returned error => exact ⟨rfl, rfl, rfl, rfl, rfl, rfl, by simp [Task.act, RetryPc.act]⟩
    | _ => simp [Task.holds, Task.carries, Task.resends] at idle
  · simp [Task.holds, Task.carries, Task.resends] at idle

/-- The tasks waiting for an answer of a provider. -/
def Task.callsProvider : Task → Bool
  | dispatch (.health _) => true
  | dispatch (.send _) => true
  | _ => false

theorem Task.run_provider_raised {cfg : Config} {env : Env} {id : Nat} {q : QueueService}
    {db : Option Notification} {t : Task} (effect : Bool) (h : t.callsProvider = true) :
    t.run cfg env id q db (.raised effect) = { db, service := q, next := none } := by
  rcases t with pc | pc | pc | pc
  · cases pc with
    | health n =>
      cases effect <;> cases hb : env.healthy <;>
        simp [Task.run, Task.unanswered, Task.act, DispatchPc.act, Task.afterRaise, Task.serviceAfterRaise, hb]
    | send n => cases effect <;> rfl
    | _ => simp [Task.callsProvider] at h
  · simp [Task.callsProvider] at h
  · simp [Task.callsProvider] at h
  · simp [Task.callsProvider] at h

end NotificationEngine
