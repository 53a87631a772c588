import NotificationEngine.TaskCoherence

namespace NotificationEngine

section Commits

variable (n : Notification)

@[simp] theorem commit_markQueued : commit (some n) n n.markQueued = some n.markQueued := by
  simp [commit, Notification.flush, Notification.markQueued]

@[simp] theorem commit_markSent (cfg : Config) (externalId : Option String) (now : Int) :
    commit (some n) n (n.markSent cfg externalId now) = some (n.markSent cfg externalId now) := by
  simp [commit, Notification.flush, Notification.markSent]

@[simp] theorem commit_markFailed (code : NotificationErrorCode) :
    commit (some n) n (n.markFailed code) = some (n.markFailed code) := by
  simp [commit, Notification.flush, Notification.markFailed]

@[simp] theorem commit_markRetrying (code : NotificationErrorCode) (count : Nat) :
    commit (some n) n (n.markRetrying code count) = some (n.markRetrying code count) := by
  simp [commit, Notification.flush, Notification.markRetrying]

@[simp] theorem commit_markPending : commit (some n) n n.markPending = some n.markPending := by
  simp [commit, Notification.flush, Notification.markPending]

end Commits

/-- What `_schedule_retry` can do before its first await. -/
theorem scheduleRetry_cases (cfg : Config) (env : Env) (n : Notification)
    (code : NotificationErrorCode) :
    (cfg.retryConfigFor n.eventType).maxRetries < n.retryCount + 1 ∧
        scheduleRetry cfg env n code = some (.commitFailed n code true) ∨
      n.retryCount + 1 ≤ (cfg.retryConfigFor n.eventType).maxRetries ∧
        ∃ delay, scheduleRetry cfg env n code = some (.commitRetrying n code (n.retryCount + 1) delay) := by
  by_cases h : (cfg.retryConfigFor n.eventType).maxRetries < n.retryCount + 1
  · exact Or.inl ⟨h, by simp [scheduleRetry, h]⟩
  · obtain ⟨delay, hd⟩ := getRetryDelay_total (n.retryCount + 1)
      (cfg.retryConfigFor n.eventType).baseDelay (cfg.retryConfigFor n.eventType).maxDelay
      (cfg.retryConfigFor n.eventType).useJitter env.draw
    exact Or.inr ⟨by omega, delay, by simp [scheduleRetry, h, hd]⟩

/-- What `dispatch` can do between the result of `send` and its next await. -/
theorem afterSend_cases (cfg : Config) (env : Env) (n : Notification) :
    env.result.success = true ∧
        afterSend cfg env n = some (.commitSent n env.result.externalId env.now) ∨
      env.result.success = false ∧ (env.result.code = none ∧ afterSend cfg env n = none ∨
        ∃ code, env.result.code = some code ∧
          (code ∉ retryableErrorCodes ∧ afterSend cfg env n = some (.commitFailed n code false) ∨
            code ∈ retryableErrorCodes ∧ afterSend cfg env n = scheduleRetry cfg env n code)) := by
  cases hs : env.result.success with
  | true => exact Or.inl ⟨rfl, by simp [afterSend, hs]⟩
  | false =>
    refine Or.inr ⟨rfl, ?_⟩
    cases hc : env.result.code with
    | none => exact Or.inl ⟨rfl, by simp [afterSend, hs, hc]⟩
    | some code =>
      refine Or.inr ⟨code, rfl, ?_⟩
      by_cases hr : code ∈ retryableErrorCodes
      · exact Or.inr ⟨hr, by simp [afterSend, hs, hc, hr]⟩
      · exact Or.inl ⟨hr, by simp [afterSend, hs, hc, hr]⟩

/-- The carriers an outcome leaves in place of the task that acted. -/
def Outcome.holders (o : Outcome) : Nat :=
  (o.next.any Task.carries).toNat + o.enqueued.isSome.toNat + o.published.toList.length
    + o.redelivered.toNat

/-- The carrier was handed on, at most once, to one who knows the row. -/
structure Outcome.Moved (o : Outcome) : Prop where
  one : o.holders ≤ 1
  coherent : ∀ t ∈ o.next, t.Coherent o.db
  kept : ∀ t ∈ o.next, t.resends = false
  parked : o.enqueued.isSome = true ∨ o.published.isSome = true → RowIs (·.Live) o.db
  redelivered : o.redelivered = false

theorem Outcome.moved_task {db : Option Notification} {q : QueueService} {t : Task}
    {delivered exhausted : Bool} {deadLetter : Option DeadLetter} (kept : t.resends = false)
    (h : t.Coherent db) :
    Outcome.Moved { db, service := q, next := some t, delivered, exhausted, deadLetter } where
  one := by cases hc : t.carries <;> simp [Outcome.holders, hc]
  coherent := by simpa using h
  kept := by simpa using kept
  parked := by simp
  redelivered := rfl

theorem Outcome.moved_end {db : Option Notification} {q : QueueService}
    {delivered exhausted : Bool} {deadLetter : Option DeadLetter} :
    Outcome.Moved { db, service := q, next := none, delivered, exhausted, deadLetter } where
  one := by simp [Outcome.holders]
  coherent := by simp
  kept := by simp
  parked := by simp
  redelivered := rfl

theorem Outcome.moved_enqueued {db : Option Notification} {q : QueueService} {next : Option Task}
    {score : Int} (idle : ∀ t ∈ next, t.holds = false) (live : RowIs (·.Live) db) :
    Outcome.Moved { db, service := q, next, enqueued := some score } where
  one := by
    cases next with
    | none => simp [Outcome.holders]
    | some t => simp [Outcome.holders, Task.carries_of_holds (idle t rfl)]
  coherent := fun t ht => Task.coherent_of_idle db (idle t ht)
  kept := fun t ht => Task.resends_of_holds (idle t ht)
  parked := fun _ => live
  redelivered := rfl

theorem scheduleRetry_moved {cfg : Config} {env : Env} {n : Notification} {q : QueueService}
    {code : NotificationErrorCode} {delivered : Bool} (queued : n.status = .queued) :
    Outcome.Moved { db := some n, service := q, next := (scheduleRetry cfg env n code).map .dispatch, delivered } := by
  rcases scheduleRetry_cases cfg env n code with ⟨_, h⟩ | ⟨_, delay, h⟩
  · rw [h]
    exact Outcome.moved_task rfl ⟨rfl, by simp [queued, NotificationStatus.Live]⟩
  · rw [h]
    exact Outcome.moved_task rfl ⟨rfl, queued⟩

theorem DispatchPc.act_moved {cfg : Config} {env : Env} {id : Nat} {q : QueueService}
    {db : Option Notification} {pc : DispatchPc} (coherent : pc.Coherent db)
    (carries : (Task.dispatch pc).carries = true) : (pc.act cfg env id q db).Moved := by
  cases pc with
  | select =>
    obtain ⟨n, rfl, live⟩ := coherent
    simp only [DispatchPc.act]
    split
    next => exact Outcome.moved_task rfl ⟨rfl, live⟩
    next => exact Outcome.moved_task rfl ⟨rfl, live⟩
  | commitQueued n =>
    obtain ⟨rfl, live⟩ := coherent
    simp only [DispatchPc.act, commit_markQueued]
    exact Outcome.moved_task rfl ⟨_, rfl, rfl⟩
  | refreshQueued =>
    obtain ⟨n, rfl, queued⟩ := coherent
    exact Outcome.moved_task rfl ⟨rfl, queued⟩
  | health n =>
    obtain ⟨rfl, queued⟩ := coherent
    simp only [DispatchPc.act]
    split
    next => exact Outcome.moved_task rfl ⟨rfl, queued⟩
    next => exact scheduleRetry_moved queued
  | send n =>
    obtain ⟨rfl, queued⟩ := coherent
    have live : n.status.Live := by simp [queued, NotificationStatus.Live]
    simp only [DispatchPc.act]
    rcases afterSend_cases cfg env n with ⟨_, h⟩ | ⟨_, ⟨_, h⟩ | ⟨code, _, ⟨_, h⟩ | ⟨_, h⟩⟩⟩
    · rw [h]
      exact Outcome.moved_task rfl ⟨rfl, queued⟩
    · rw [h]
      exact Outcome.moved_end
    · rw [h]
      exact Outcome.moved_task rfl ⟨rfl, live⟩
    · rw [h]
      exact scheduleRetry_moved queued
  | commitSent n externalId now => exact Outcome.moved_task rfl trivial
  | commitFailed n code exhausted => exact Outcome.moved_task rfl trivial
  | commitRetrying n code count delay =>
    obtain ⟨rfl, queued⟩ := coherent
    simp only [DispatchPc.act, commit_markRetrying]
    exact Outcome.moved_task rfl ⟨_, rfl, rfl⟩
  | refreshRetrying delay =>
    obtain ⟨n, rfl, retrying⟩ := coherent
    simp only [DispatchPc.act]
    cases (q.getRabbitmqChannel cfg.aioPika).2 with
    | none => exact Outcome.moved_end
    | some pc => exact Outcome.moved_task rfl ⟨_, rfl, retrying⟩
  | publishing delay pc =>
    have live : RowIs (·.Live) db := RowIs.live (by simp [NotificationStatus.Live]) coherent
    cases pc with
    | publish =>
      exact { one := by simp [DispatchPc.act, PublishPc.step, Outcome.holders]
              coherent := by simp [DispatchPc.act, PublishPc.step]
              kept := by simp [DispatchPc.act, PublishPc.step]
              parked := fun _ => live
              redelivered := rfl }
    | _ => exact Outcome.moved_task rfl coherent
  | refreshSent => simp [Task.carries] at carries
  | refreshFailed code exhausted => simp [Task.carries] at carries
  | sendToDlq n code => simp [Task.carries] at carries

/-- A carrier that acts hands its id on to at most one carrier, or lets it go. -/
theorem Task.act_moved {cfg : Config} {env : Env} {id : Nat} {q : QueueService}
    {db : Option Notification} {t : Task} (coherent : t.Coherent db) (carries : t.carries = true) :
    (t.act cfg env id q db).Moved := by
  rcases t with pc | pc | pc | pc
  · exact DispatchPc.act_moved coherent carries
  · cases pc with
    | select =>
      obtain ⟨n, rfl, live⟩ := coherent
      exact Outcome.moved_task rfl ⟨_, rfl, live⟩
    | enqueue score => exact Outcome.moved_enqueued (by simp [Task.holds, Task.carries, Task.resends]) coherent
    | ack => simp [Task.carries] at carries
  · simp [Task.carries] at carries
  · cases pc with
    | refresh =>
      obtain ⟨n, rfl, pending⟩ := coherent
      exact Outcome.moved_task rfl ⟨_, rfl, pending⟩
    | enqueue score => exact Outcome.moved_enqueued (by simp) (RowIs.live_of_pending coherent)

/-- What an accepted manual retry does: it may set the row to PENDING and puts its id back. -/
structure Outcome.Resent (o : Outcome) (row : Option Notification) : Prop where
  row : o.db = row ∨ RowIs (· = .pending) o.db
  coherent : ∀ t ∈ o.next, t.Coherent o.db
  idle : ∀ t ∈ o.next, t.carries = false
  parked : o.enqueued.isSome = true → RowIs (· = .pending) o.db
  published : o.published = none
  redelivered : o.redelivered = false
  delivered : o.delivered = false
  exhausted : o.exhausted = false
  deadLetter : o.deadLetter = none

theorem Task.act_resent {cfg : Config} {env : Env} {id : Nat} {q : QueueService}
    {db : Option Notification} {t : Task} (coherent : t.Coherent db) (resends : t.resends = true) :
    (t.act cfg env id q db).Resent db := by
  rcases t with pc | pc | pc | pc
  · simp [Task.resends] at resends
  · simp [Task.resends] at resends
  · cases pc with
    | commitPending n =>
      obtain ⟨⟨r, rfl, hr⟩, hsent, hqueued⟩ := coherent
      have pending : RowIs (· = .pending) (commit (some r) n n.markPending) := by
        rcases SnapshotWrite.column_cases n.status .pending r.status with h | ⟨h, keep⟩
        · exact ⟨_, rfl, h⟩
        · refine ⟨_, rfl, ?_⟩
          rcases hr with hr | hr
          · exact keep.trans (hr.trans h.symm)
          · exact keep.trans hr
      exact ⟨Or.inr pending, by rintro _ ⟨⟩; exact pending,
        by simp [Task.act, RetryPc.act, Task.carries], fun _ => pending, rfl, rfl, rfl, rfl, rfl⟩
    | refreshPending =>
      obtain ⟨r, rfl, pending⟩ := coherent
      exact ⟨Or.inl rfl, by rintro _ ⟨⟩; exact ⟨r, rfl, pending⟩,
        by simp [Task.act, RetryPc.act, Task.carries], fun _ => ⟨r, rfl, pending⟩,
        rfl, rfl, rfl, rfl, rfl⟩
    | enqueue score =>
      exact ⟨Or.inl rfl, by simp [Task.act, RetryPc.act, Task.Coherent, RetryPc.Coherent],
        by simp [Task.act, RetryPc.act, Task.carries], fun _ => coherent, rfl, rfl, rfl, rfl, rfl⟩
    | select => simp [Task.resends] at resends
    | returned error => simp [Task.resends] at resends
  · simp [Task.resends] at resends

end NotificationEngine
