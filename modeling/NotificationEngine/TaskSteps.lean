import NotificationEngine.TaskMoves

namespace NotificationEngine

/-- How a task goes on from one await to the next when the awaited call is answered. -/
inductive Task.Goes (cfg : Config) (env : Env) (q : QueueService) (db : Option Notification) :
    Task → Task → Prop
  | provided {n} : db = some n → Goes cfg env q db (dispatch .select) (dispatch (.commitQueued n))
  | unprovided {n} : db = some n →
      Goes cfg env q db (dispatch .select) (dispatch (.commitFailed n .unknown false))
  | queued {n} : Goes cfg env q db (dispatch (.commitQueued n)) (dispatch .refreshQueued)
  | loaded {n} : db = some n → Goes cfg env q db (dispatch .refreshQueued) (dispatch (.health n))
  | healthy {n} : Goes cfg env q db (dispatch (.health n)) (dispatch (.send n))
  | succeeded {n} : env.result.success = true → Goes cfg env q db (dispatch (.send n))
      (dispatch (.commitSent n env.result.externalId env.now))
  | rejected {n code} : Goes cfg env q db (dispatch (.send n)) (dispatch (.commitFailed n code false))
  | exhausted {pc n code} : pc = .health n ∨ pc = .send n →
      (cfg.retryConfigFor n.eventType).maxRetries < n.retryCount + 1 →
      Goes cfg env q db (dispatch pc) (dispatch (.commitFailed n code true))
  | scheduled {pc n code delay} : pc = .health n ∨ pc = .send n → code ∈ retryableErrorCodes →
      n.retryCount + 1 ≤ (cfg.retryConfigFor n.eventType).maxRetries →
      Goes cfg env q db (dispatch pc) (dispatch (.commitRetrying n code (n.retryCount + 1) delay))
  | sent {n externalId now} :
      Goes cfg env q db (dispatch (.commitSent n externalId now)) (dispatch .refreshSent)
  | failed {n code exhausted} : Goes cfg env q db (dispatch (.commitFailed n code exhausted))
      (dispatch (.refreshFailed code exhausted))
  | buried {n code} : db = some n →
      Goes cfg env q db (dispatch (.refreshFailed code true)) (dispatch (.sendToDlq n code))
  | retrying {n code count delay} : Goes cfg env q db (dispatch (.commitRetrying n code count delay))
      (dispatch (.refreshRetrying delay))
  | connecting {delay pc} : (q.getRabbitmqChannel cfg.aioPika).2 = some pc →
      Goes cfg env q db (dispatch (.refreshRetrying delay)) (dispatch (.publishing delay pc))
  | publishing {delay pc pc'} : (pc.step q).2 = some pc' →
      Goes cfg env q db (dispatch (.publishing delay pc)) (dispatch (.publishing delay pc'))
  | unknown : Goes cfg env q db (event .select) (event .ack)
  | known {n} : db = some n →
      Goes cfg env q db (event .select) (event (.enqueue (queueScore n.priority env.now)))
  | requeued {score} : Goes cfg env q db (event (.enqueue score)) (event .ack)
  | refused {error} : Goes cfg env q db (retry .select) (retry (.returned error))
  | accepted {n} : db = some n → n.status ≠ .sent → n.status ≠ .queued →
      Goes cfg env q db (retry .select) (retry (.commitPending n))
  | reset {n} : Goes cfg env q db (retry (.commitPending n)) (retry .refreshPending)
  | reloaded {n} : db = some n →
      Goes cfg env q db (retry .refreshPending) (retry (.enqueue (queueScore n.priority env.now)))
  | resent {score} : Goes cfg env q db (retry (.enqueue score)) (retry (.returned ""))
  | saved {n} : db = some n →
      Goes cfg env q db (saving .refresh) (saving (.enqueue (queueScore n.priority env.now)))

section Steps

variable {cfg : Config} {env : Env} {id : Nat} {q : QueueService} {db : Option Notification}
  {t u : Task}

theorem scheduleRetry_goes {pc : DispatchPc} {n : Notification} {code : NotificationErrorCode}
    (own : pc = .health n ∨ pc = .send n) (retryable : code ∈ retryableErrorCodes)
    (h : (scheduleRetry cfg env n code).map Task.dispatch = some u) :
    Task.Goes cfg env q db (.dispatch pc) u := by
  rcases scheduleRetry_cases cfg env n code with ⟨spent, is⟩ | ⟨within, delay, is⟩
  · rw [is] at h
    cases h
    exact .exhausted own spent
  · rw [is] at h
    cases h
    exact .scheduled own retryable within

theorem DispatchPc.act_goes {pc : DispatchPc} (h : (pc.act cfg env id q db).next = some u) :
    Task.Goes cfg env q db (.dispatch pc) u := by
  cases pc with
  | select =>
    cases db with
    | none => cases h
    | some n =>
      simp only [DispatchPc.act] at h
      split at h
      next => cases h; exact .provided rfl
      next => cases h; exact .unprovided rfl
  | refreshQueued =>
    obtain ⟨n, row, rfl⟩ := Option.map_eq_some_iff.mp h
    exact .loaded row
  | health n =>
    simp only [DispatchPc.act] at h
    split at h
    next => cases h; exact .healthy
    next => exact scheduleRetry_goes (Or.inl rfl) (by decide) h
  | send n =>
    simp only [DispatchPc.act] at h
    rcases afterSend_cases cfg env n with
      ⟨success, is⟩ | ⟨_, ⟨_, is⟩ | ⟨code, _, ⟨_, is⟩ | ⟨retryable, is⟩⟩⟩
    · rw [is] at h
      cases h
      exact .succeeded success
    · rw [is] at h
      cases h
    · rw [is] at h
      cases h
      exact .rejected
    · rw [is] at h
      exact scheduleRetry_goes (Or.inr rfl) retryable h
  | refreshFailed code exhausted =>
    cases exhausted with
    | false => cases h
    | true =>
      obtain ⟨n, row, rfl⟩ := Option.map_eq_some_iff.mp h
      exact .buried row
  | refreshRetrying delay =>
    cases db with
    | none => cases h
    | some n =>
      obtain ⟨pc, got, rfl⟩ := Option.map_eq_some_iff.mp h
      exact .connecting got
  | publishing delay pc =>
    obtain ⟨pc', next, rfl⟩ := Option.map_eq_some_iff.mp h
    exact .publishing next
  | commitQueued n => cases h; exact .queued
  | commitSent n externalId now => cases h; exact .sent
  | commitFailed n code exhausted => cases h; exact .failed
  | commitRetrying n code count delay => cases h; exact .retrying
  | refreshSent => cases h
  | sendToDlq n code => cases h

theorem RetryPc.act_goes {pc : RetryPc} (h : (pc.act env q db).next = some u) :
    Task.Goes cfg env q db (.retry pc) u := by
  cases pc with
  | select =>
    cases db with
    | none => cases h; exact .refused
    | some n =>
      simp only [RetryPc.act] at h
      split at h
      next => cases h; exact .refused
      next unsent =>
        split at h
        next => cases h; exact .refused
        next unqueued => cases h; exact .accepted rfl unsent unqueued
  | commitPending n => cases h; exact .reset
  | refreshPending =>
    obtain ⟨n, row, rfl⟩ := Option.map_eq_some_iff.mp h
    exact .reloaded row
  | enqueue score => cases h; exact .resent
  | returned error => cases h

theorem Task.act_goes (h : (t.act cfg env id q db).next = some u) : t.Goes cfg env q db u := by
  rcases t with pc | pc | pc | pc
  · exact DispatchPc.act_goes h
  · cases pc with
    | select =>
      cases db with
      | none => cases h; exact .unknown
      | some n => cases h; exact .known rfl
    | enqueue score => cases h; exact .requeued
    | ack => cases h
  · exact RetryPc.act_goes h
  · cases pc with
    | refresh =>
      obtain ⟨n, row, rfl⟩ := Option.map_eq_some_iff.mp h
      exact .saved row
    | enqueue score => cases h

/-- The same whatever becomes of the call: an `enqueue` that raised is answered all the same. -/
theorem Task.run_goes {fault : Fault} (h : (t.run cfg env id q db fault).next = some u) :
    t.Goes cfg env q db u := by
  cases fault with
  | none => exact Task.act_goes h
  | stopped effect => cases h
  | raised effect =>
    have landed : t.afterRaise = some u := h
    unfold Task.afterRaise at landed
    split at landed
    next => cases landed; exact .requeued
    next => cases landed; exact .resent
    next => cases landed

end Steps

end NotificationEngine
