import NotificationEngine.Custody

namespace NotificationEngine

/-- What the provider map and the provider of one dispatch answer, none of them raising. -/
structure ProviderAnswers where
  hasProvider : Bool
  healthy : Bool
  result : ProviderResult

/-- The environment of the `k`-th awaited call of a dispatch. -/
def ProviderAnswers.env (a : ProviderAnswers) (now : Nat → Int) (draw : Nat → Nat) (k : Nat) : Env :=
  ⟨a.hasProvider, a.healthy, a.result, now k, draw k⟩

/-- The answer of the provider makes `dispatch` or `_schedule_retry` raise. -/
def DispatchPc.raises (cfg : Config) (env : Env) : DispatchPc → Bool
  | health n => !env.healthy && (scheduleRetry cfg env n .providerDown).isNone
  | send n => (afterSend cfg env n).isNone
  | _ => false

/-- What a dispatch leaves behind: the row, whether it returned, and its retry messages. -/
structure Dispatched where
  row : Option Notification
  returned : Bool
  messages : List RetryMessage

/-- The rest of `dispatch` when database and broker accept every call, its awaited calls being
counted from `k`. -/
def DispatchPc.finish (cfg : Config) (env : Nat → Env) (id : Nat) :
    Nat → Nat → QueueService → Option Notification → DispatchPc → Dispatched
  | 0, _, _, db, _ => ⟨db, false, []⟩
  | fuel + 1, k, q, db, pc =>
    let o := pc.act cfg (env k) id q db
    match o.next with
    | some (.dispatch next) =>
      let rest := finish cfg env id fuel (k + 1) o.service o.db next
      { rest with messages := o.published.toList ++ rest.messages }
    | _ => ⟨o.db, !pc.raises cfg (env k), o.published.toList⟩

/-- `dispatch` makes eleven calls at most. -/
def dispatch (cfg : Config) (env : Nat → Env) (q : QueueService) (id : Nat) (n : Notification) :
    Dispatched :=
  DispatchPc.finish cfg env id 11 0 q (some n) .select

/-- The send succeeded. -/
def ProviderAnswers.sends (a : ProviderAnswers) : Bool :=
  a.hasProvider && a.healthy && a.result.success

/-- The send failed with INVALID_RECIPIENT or INVALID_TOKEN. -/
def ProviderAnswers.rejects (a : ProviderAnswers) : Bool :=
  a.hasProvider && a.healthy && !a.result.success &&
    (a.result.errorCode = some NotificationErrorCode.invalidRecipient.value ||
      a.result.errorCode = some NotificationErrorCode.invalidToken.value)

/-- The decision a dispatch of the row should reach. -/
def Dispatched.Decided (d : Dispatched) (a : ProviderAnswers) (maxRetries id : Nat) (n : Notification) :
    Prop :=
  d.returned = true ∧ ∃ n', d.row = some n' ∧
    if a.sends then n'.status = .sent
    else if !a.hasProvider || a.rejects || decide (maxRetries < n.retryCount + 1) then n'.status = .failed
    else n'.status = .retrying ∧ n'.retryCount = n.retryCount + 1 ∧
      ∃ m, d.messages = [m] ∧ m.notificationId = id

/-- The send failed with an integer that is no error code. -/
def ProviderAnswers.undefined (a : ProviderAnswers) : Bool :=
  a.hasProvider && a.healthy && !a.result.success && a.result.code.isNone

/-- The dispatch has a retry left and asks for it. -/
def ProviderAnswers.retries (a : ProviderAnswers) (maxRetries : Nat) (n : Notification) : Bool :=
  a.hasProvider && !a.sends && !a.rejects && decide (n.retryCount + 1 ≤ maxRetries)

section Finish

variable {cfg : Config} {env : Nat → Env} {id k : Nat} {q : QueueService} {n : Notification}

theorem finish_select (fuel : Nat) (has : (env 0).hasProvider = true) :
    DispatchPc.finish cfg env id (fuel + 3) 0 q (some n) .select =
      DispatchPc.finish cfg env id fuel 3 q (some n.markQueued) (.health n.markQueued) := by
  simp [DispatchPc.finish, DispatchPc.act, has]

theorem finish_health {fuel : Nat} (healthy : (env k).healthy = true) :
    DispatchPc.finish cfg env id (fuel + 1) k q (some n) (.health n) =
      DispatchPc.finish cfg env id fuel (k + 1) q (some n) (.send n) := by
  simp [DispatchPc.finish, DispatchPc.act, healthy]

theorem finish_send {fuel : Nat} {pc : DispatchPc} (is : afterSend cfg (env k) n = some pc) :
    DispatchPc.finish cfg env id (fuel + 1) k q (some n) (.send n) =
      DispatchPc.finish cfg env id fuel (k + 1) q (some n) pc := by
  rw [DispatchPc.finish]
  simp [DispatchPc.act, is]

theorem finish_send_none {fuel : Nat} (is : afterSend cfg (env k) n = none) :
    DispatchPc.finish cfg env id (fuel + 1) k q (some n) (.send n) = ⟨some n, false, []⟩ := by
  rw [DispatchPc.finish]
  simp [DispatchPc.act, DispatchPc.raises, is]

theorem finish_commitSent (fuel : Nat) (externalId : Option String) (now : Int) :
    DispatchPc.finish cfg env id (fuel + 2) k q (some n) (.commitSent n externalId now) =
      ⟨some (n.markSent cfg externalId now), true, []⟩ := by
  simp [DispatchPc.finish, DispatchPc.act, DispatchPc.raises]

theorem finish_commitFailed (fuel : Nat) (code : NotificationErrorCode) (exhausted : Bool) :
    DispatchPc.finish cfg env id (fuel + 3) k q (some n) (.commitFailed n code exhausted) =
      ⟨some (n.markFailed code), true, []⟩ := by
  cases exhausted <;> simp [DispatchPc.finish, DispatchPc.act, DispatchPc.raises]

theorem finish_publishing (cfg : Config) (env : Nat → Env) (id k : Nat) (q : QueueService)
    (n : Notification) (fuel delay : Nat) (pc : PublishPc) :
    ∃ m : RetryMessage, m.notificationId = id ∧
      DispatchPc.finish cfg env id (fuel + 4) k q (some n) (.publishing delay pc) =
        ⟨some n, true, [m]⟩ := by
  cases pc with
  | connect => exact ⟨⟨id, (env (k + 3)).now, delay⟩, rfl, rfl⟩
  | openChannel => exact ⟨⟨id, (env (k + 2)).now, delay⟩, rfl, rfl⟩
  | declareQueue => exact ⟨⟨id, (env (k + 1)).now, delay⟩, rfl, rfl⟩
  | publish => exact ⟨⟨id, (env k).now, delay⟩, rfl, rfl⟩

theorem finish_refreshRetrying {fuel delay : Nat} {pc : PublishPc}
    (got : (q.getRabbitmqChannel cfg.aioPika).2 = some pc) :
    DispatchPc.finish cfg env id (fuel + 1) k q (some n) (.refreshRetrying delay) =
      DispatchPc.finish cfg env id fuel (k + 1) (q.getRabbitmqChannel cfg.aioPika).1 (some n)
        (.publishing delay pc) := by
  simp [DispatchPc.finish, DispatchPc.act, got]

theorem finish_refreshRetrying_none {fuel delay : Nat}
    (got : (q.getRabbitmqChannel cfg.aioPika).2 = none) :
    DispatchPc.finish cfg env id (fuel + 1) k q (some n) (.refreshRetrying delay) =
      ⟨some n, true, []⟩ := by
  simp [DispatchPc.finish, DispatchPc.act, DispatchPc.raises, got]

theorem finish_commit (fuel : Nat) (code : NotificationErrorCode) (count delay : Nat) :
    DispatchPc.finish cfg env id (fuel + 1) k q (some n) (.commitRetrying n code count delay) =
      DispatchPc.finish cfg env id fuel (k + 1) q (some (n.markRetrying code count))
        (.refreshRetrying delay) := by
  simp [DispatchPc.finish, DispatchPc.act]

/-- A retry is published exactly if the cached connection can be used. -/
theorem finish_commitRetrying (fuel : Nat) (code : NotificationErrorCode) (count delay : Nat) :
    ∃ messages : List RetryMessage,
      DispatchPc.finish cfg env id (fuel + 6) k q (some n) (.commitRetrying n code count delay) =
        ⟨some (n.markRetrying code count), true, messages⟩ ∧
      ((∃ m, messages = [m] ∧ m.notificationId = id) ↔
        q.rmqConnection = none ∨ cfg.aioPika.isClosedIsMethod = true) := by
  rw [finish_commit (fuel + 5)]
  cases got : (q.getRabbitmqChannel cfg.aioPika).2 with
  | none =>
    refine ⟨[], finish_refreshRetrying_none got, iff_of_false (by simp) ?_⟩
    intro usable
    have callable : (q.rmqConnection.isSome && !cfg.aioPika.isClosedIsMethod) = false := by
      rcases usable with h | h <;> simp [h]
    obtain ⟨pc, some_pc⟩ := getRabbitmqChannel_isSome callable
    rw [got] at some_pc
    exact nomatch some_pc
  | some pc =>
    obtain ⟨m, same, finished⟩ := finish_publishing cfg env id (k + 2)
      (q.getRabbitmqChannel cfg.aioPika).1 (n.markRetrying code count) fuel delay pc
    refine ⟨[m], (finish_refreshRetrying got).trans finished, iff_of_true ⟨m, rfl, same⟩ ?_⟩
    by_contra unusable
    obtain ⟨cached, property⟩ := not_or.mp unusable
    have stuck : (q.rmqConnection.isSome && !cfg.aioPika.isClosedIsMethod) = true := by
      simp [Option.isSome_iff_ne_none, cached, property]
    rw [getRabbitmqChannel_eq_none stuck] at got
    exact nomatch got

/-- `_schedule_retry` ends the dispatch with the row FAILED, or RETRYING and its id published. -/
theorem finish_scheduleRetry (env : Nat → Env) (id k : Nat) (q : QueueService) (fuel : Nat) {e : Env}
    {code : NotificationErrorCode} {pc : DispatchPc} (scheduled : scheduleRetry cfg e n code = some pc) :
    (cfg.retryConfigFor n.eventType).maxRetries < n.retryCount + 1 ∧
        DispatchPc.finish cfg env id (fuel + 6) k q (some n) pc = ⟨some (n.markFailed code), true, []⟩ ∨
      n.retryCount + 1 ≤ (cfg.retryConfigFor n.eventType).maxRetries ∧
        ∃ messages : List RetryMessage,
          DispatchPc.finish cfg env id (fuel + 6) k q (some n) pc =
            ⟨some (n.markRetrying code (n.retryCount + 1)), true, messages⟩ ∧
          ((∃ m, messages = [m] ∧ m.notificationId = id) ↔
            q.rmqConnection = none ∨ cfg.aioPika.isClosedIsMethod = true) := by
  rcases scheduleRetry_cases cfg e n code with ⟨spent, is⟩ | ⟨left, delay, is⟩
  · obtain rfl := Option.some.inj (is.symm.trans scheduled)
    exact Or.inl ⟨spent, finish_commitFailed (fuel + 3) code true⟩
  · obtain rfl := Option.some.inj (is.symm.trans scheduled)
    exact Or.inr ⟨left, finish_commitRetrying fuel code (n.retryCount + 1) delay⟩

end Finish

section Decision

variable {cfg : Config} {a : ProviderAnswers} {now : Nat → Int} {draw : Nat → Nat}
  {q : QueueService} {id : Nat} {n : Notification}

theorem dispatch_unprovided (without : a.hasProvider = false) :
    dispatch cfg (a.env now draw) q id n = ⟨some (n.markFailed .unknown), true, []⟩ := by
  have called : dispatch cfg (a.env now draw) q id n =
      DispatchPc.finish cfg (a.env now draw) id 10 1 q (some n) (.commitFailed n .unknown false) := by
    simp [dispatch, DispatchPc.finish, DispatchPc.act, ProviderAnswers.env, without]
  exact called.trans (finish_commitFailed 7 .unknown false)

theorem dispatch_provided (has : a.hasProvider = true) :
    dispatch cfg (a.env now draw) q id n =
      DispatchPc.finish cfg (a.env now draw) id 8 3 q (some n.markQueued) (.health n.markQueued) :=
  finish_select 8 has

variable (cfg now draw q id n) in
theorem dispatch_unhealthy (has : a.hasProvider = true) (unhealthy : a.healthy = false) :
    ∃ pc, scheduleRetry cfg (a.env now draw 3) n.markQueued .providerDown = some pc ∧
      dispatch cfg (a.env now draw) q id n =
        DispatchPc.finish cfg (a.env now draw) id 7 4 q (some n.markQueued) pc := by
  have scheduled : ∃ pc, scheduleRetry cfg (a.env now draw 3) n.markQueued .providerDown = some pc := by
    rcases scheduleRetry_cases cfg (a.env now draw 3) n.markQueued .providerDown with
      ⟨_, is⟩ | ⟨_, _, is⟩
    · exact ⟨_, is⟩
    · exact ⟨_, is⟩
  obtain ⟨pc, is⟩ := scheduled
  have down : (a.env now draw 3).healthy = false := unhealthy
  refine ⟨pc, is, (dispatch_provided has).trans ?_⟩
  rw [DispatchPc.finish]
  simp [DispatchPc.act, down, is]

variable (cfg now draw q id n) in
theorem dispatch_healthy (has : a.hasProvider = true) (healthy : a.healthy = true) :
    dispatch cfg (a.env now draw) q id n =
      DispatchPc.finish cfg (a.env now draw) id 7 4 q (some n.markQueued) (.send n.markQueued) :=
  (dispatch_provided has).trans (finish_health healthy)

theorem NotificationErrorCode.value_of_ofValue? {value : Int} {code : NotificationErrorCode}
    (h : ofValue? value = some code) : value = code.value := by
  unfold ofValue? at h
  split_ifs at h
  all_goals
    obtain rfl := Option.some.inj h
    assumption

theorem ProviderResult.code_final {r : ProviderResult} {code : NotificationErrorCode}
    (is : r.code = some code) :
    code ∉ retryableErrorCodes ↔
      r.errorCode = some NotificationErrorCode.invalidRecipient.value ∨
        r.errorCode = some NotificationErrorCode.invalidToken.value := by
  unfold ProviderResult.code at is
  cases he : r.errorCode with
  | none =>
    obtain rfl : NotificationErrorCode.unknown = code := by simpa [he] using is
    exact iff_of_false (by decide) (by simp)
  | some value =>
    by_cases zero : value = 0
    · obtain rfl : NotificationErrorCode.unknown = code := by simpa [he, zero] using is
      exact iff_of_false (by decide) (by rw [zero]; decide)
    · have defined : NotificationErrorCode.ofValue? value = some code := by
        simpa [he, zero] using is
      rw [NotificationErrorCode.value_of_ofValue? defined]
      cases code <;> decide

theorem decided_scheduled {d : Dispatched} {fuel k : Nat} {e : Env} {env : Nat → Env}
    {code : NotificationErrorCode} {pc : DispatchPc}
    (unsent : a.sends = false) (has : a.hasProvider = true) (kept : a.rejects = false)
    (scheduled : scheduleRetry cfg e n.markQueued code = some pc)
    (ends : d = DispatchPc.finish cfg env id (fuel + 6) k q (some n.markQueued) pc) :
    d.Decided a (cfg.retryConfigFor n.eventType).maxRetries id n ↔
      (a.retries (cfg.retryConfigFor n.eventType).maxRetries n = true →
        q.rmqConnection = none ∨ cfg.aioPika.isClosedIsMethod = true) := by
  have count : n.markQueued.retryCount = n.retryCount := rfl
  have event : n.markQueued.eventType = n.eventType := rfl
  rcases finish_scheduleRetry env id k q fuel scheduled with
    ⟨beyond, failed⟩ | ⟨left, messages, retrying, published⟩
  · rw [count, event] at beyond
    have spent : a.retries (cfg.retryConfigFor n.eventType).maxRetries n = false := by
      simp [ProviderAnswers.retries]
      omega
    rw [ends, failed]
    refine iff_of_true ⟨rfl, _, rfl, ?_⟩ (by simp [spent])
    simp [unsent, beyond, Notification.markFailed]
  · rw [count, event] at left
    have retries : a.retries (cfg.retryConfigFor n.eventType).maxRetries n = true := by
      simp [ProviderAnswers.retries, has, unsent, kept, left]
    have within : ¬(cfg.retryConfigFor n.eventType).maxRetries < n.retryCount + 1 := by omega
    have goes_on : (!a.hasProvider || a.rejects ||
        decide ((cfg.retryConfigFor n.eventType).maxRetries < n.retryCount + 1)) = false := by
      rw [has, kept, decide_eq_false within]
      rfl
    rw [ends, retrying, ← published]
    unfold Dispatched.Decided
    rw [unsent, goes_on]
    constructor
    · rintro ⟨_, _, _, _, _, sent⟩ _
      exact sent
    · intro sent
      exact ⟨rfl, _, rfl, rfl, rfl, sent retries⟩

/-- A dispatch reaches its decision exactly if a failed send reported no undefined code and, when
a retry is left, the cached connection can be used. -/
theorem dispatch_decides_iff (cfg : Config) (a : ProviderAnswers) (now : Nat → Int) (draw : Nat → Nat)
    (q : QueueService) (id : Nat) (n : Notification) :
    (dispatch cfg (a.env now draw) q id n).Decided a (cfg.retryConfigFor n.eventType).maxRetries id n ↔
      a.undefined = false ∧ (a.retries (cfg.retryConfigFor n.eventType).maxRetries n = true →
        q.rmqConnection = none ∨ cfg.aioPika.isClosedIsMethod = true) := by
  cases has : a.hasProvider with
  | false =>
    rw [dispatch_unprovided has]
    refine iff_of_true ⟨rfl, _, rfl, ?_⟩ ⟨?_, ?_⟩
    · simp [ProviderAnswers.sends, has, Notification.markFailed]
    · simp [ProviderAnswers.undefined, has]
    · simp [ProviderAnswers.retries, has]
  | true =>
    cases healthy : a.healthy with
    | false =>
      have defined : a.undefined = false := by simp [ProviderAnswers.undefined, healthy]
      obtain ⟨pc, scheduled, ends⟩ :=
        dispatch_unhealthy cfg now draw q id n has healthy
      rw [decided_scheduled (by simp [ProviderAnswers.sends, healthy]) has
        (by simp [ProviderAnswers.rejects, healthy]) scheduled ends]
      simp [defined]
    | true =>
      have down := dispatch_healthy cfg now draw q id n has healthy
      rcases afterSend_cases cfg (a.env now draw 4) n.markQueued with
        ⟨success, is⟩ | ⟨failure, ⟨undefined, is⟩ | ⟨code, defined, ⟨final, is⟩ | ⟨retryable, is⟩⟩⟩
      · have succeeds : a.result.success = true := success
        have sends : a.sends = true := by simp [ProviderAnswers.sends, has, healthy, succeeds]
        have known : a.undefined = false := by simp [ProviderAnswers.undefined, succeeds]
        rw [down, finish_send is, finish_commitSent 4]
        refine iff_of_true ⟨rfl, _, rfl, ?_⟩ ⟨known, by simp [ProviderAnswers.retries, sends]⟩
        simp [sends, Notification.markSent]
      · have unknown : a.undefined = true := by
          have fails : a.result.success = false := failure
          have no_code : a.result.code = none := undefined
          simp [ProviderAnswers.undefined, has, healthy, fails, no_code]
        rw [down, finish_send_none is]
        exact iff_of_false (fun h => Bool.false_ne_true h.1) (fun h => by simp [unknown] at h)
      · have fails : a.result.success = false := failure
        have code_is : a.result.code = some code := defined
        have unsent : a.sends = false := by simp [ProviderAnswers.sends, fails]
        have rejects : a.rejects = true := by
          simpa [ProviderAnswers.rejects, has, healthy, fails] using
            (ProviderResult.code_final code_is).mp final
        rw [down, finish_send is, finish_commitFailed 3]
        refine iff_of_true ⟨rfl, _, rfl, ?_⟩ ⟨?_, by simp [ProviderAnswers.retries, rejects]⟩
        · simp [unsent, rejects, Notification.markFailed]
        · simp [ProviderAnswers.undefined, code_is]
      · have fails : a.result.success = false := failure
        have code_is : a.result.code = some code := defined
        have unsent : a.sends = false := by simp [ProviderAnswers.sends, fails]
        have kept : a.rejects = false := by
          have not_final := mt (ProviderResult.code_final code_is).mpr (not_not.mpr retryable)
          simpa [ProviderAnswers.rejects, has, healthy, fails] using not_final
        have known : a.undefined = false := by simp [ProviderAnswers.undefined, code_is]
        obtain ⟨pc, scheduled⟩ : ∃ pc,
            scheduleRetry cfg (a.env now draw 4) n.markQueued code = some pc := by
          rcases scheduleRetry_cases cfg (a.env now draw 4) n.markQueued code with ⟨_, h⟩ | ⟨_, _, h⟩
          · exact ⟨_, h⟩
          · exact ⟨_, h⟩
        rw [decided_scheduled unsent has kept scheduled (down.trans (finish_send (is.trans scheduled)))]
        simp [known]

/-- A send that fails with the undefined code 42: `dispatch` raises and the row stays QUEUED. -/
theorem undefined_code_stays_queued :
    let a : ProviderAnswers := ⟨true, true, ⟨false, none, some 42⟩⟩
    let n := otpRequest.row .sms 0
    let d := dispatch defaultConfig (a.env (fun _ => 0) fun _ => 0) .fresh 1 n
    d.returned = false ∧ d.row.map Notification.status = some .queued ∧
      ¬d.Decided a (defaultConfig.retryConfigFor n.eventType).maxRetries 1 n := by
  refine ⟨by decide, by decide, fun h => absurd h.1 (by decide)⟩

end Decision

end NotificationEngine
