import NotificationEngine.RetryChain
import NotificationEngine.Custody
import NotificationEngine.PublishRetry

namespace NotificationEngine

open StateTransition

/-- The steps of a chain. -/
abbrev Leads (cfg : Config) (out : Outside) (j : Nat) : Chain → Chain → Prop :=
  Reaches (Chain.advance cfg out j)

/-- An id in the sorted set and nowhere else, after a number of dispatches. -/
def Chain.queuedAt (n : Notification) (p x d calls : Nat) : Chain :=
  ⟨some n, true, 0, 0, none, 0, p, x, [], d, calls⟩

/-- A dispatch under way. -/
def Chain.within (n : Notification) (pc : DispatchPc) (deliveries p x d calls : Nat) : Chain :=
  ⟨some n, false, 0, 0, some (.dispatch pc), deliveries, p, x, [], d, calls⟩

/-- Nothing is left to do. -/
def Chain.finished (n : Notification) (deliveries p x : Nat) (letters : List DeadLetter)
    (d calls : Nat) : Chain :=
  ⟨some n, false, 0, 0, none, deliveries, p, x, letters, d, calls⟩

section Dispatch

variable {cfg : Config} {out : Outside} {j : Nat} {n : Notification} {p x d calls : Nat}

theorem reaches_single {c c' : Chain} (h : c.advance cfg out j = some c') :
    Leads cfg out j c c' :=
  Relation.ReflTransGen.single h

theorem within_step {pc : DispatchPc} {deliveries : Nat} {c' : Chain}
    (h : (Chain.within n pc deliveries p x d calls).after
      (pc.act cfg (out.env (.within n pc deliveries p x d calls)) j (out.service (d - 1)) (some n)) =
        c') :
    Leads cfg out j (.within n pc deliveries p x d calls) c' :=
  reaches_single (by rw [← h]; rfl)

theorem reaches_select :
    Leads cfg out j (.queuedAt n p x d calls)
      (.within n .select 0 p x (d + 1) calls) :=
  reaches_single rfl

theorem reaches_health (has : (out.answer d).hasProvider = true) :
    Leads cfg out j (.queuedAt n p x d calls)
      (.within n.markQueued (.health n.markQueued) 0 p x (d + 1) (calls + 3)) := by
  have select : Leads cfg out j (.within n .select 0 p x (d + 1) calls)
      (.within n (.commitQueued n) 0 p x (d + 1) (calls + 1)) :=
    within_step (by simp [DispatchPc.act, Outside.env, Chain.within, Chain.after, has])
  have committed : Leads cfg out j
      (.within n (.commitQueued n) 0 p x (d + 1) (calls + 1))
      (.within n.markQueued .refreshQueued 0 p x (d + 1) (calls + 2)) :=
    within_step (by simp [DispatchPc.act, Chain.within, Chain.after])
  have refreshed : Leads cfg out j
      (.within n.markQueued .refreshQueued 0 p x (d + 1) (calls + 2))
      (.within n.markQueued (.health n.markQueued) 0 p x (d + 1) (calls + 3)) :=
    within_step rfl
  exact reaches_select.trans (select.trans (committed.trans refreshed))

theorem reaches_failed {deliveries : Nat} (code : NotificationErrorCode) :
    Leads cfg out j
      (.within n (.commitFailed n code false) deliveries p x d calls)
      (.finished (n.markFailed code) deliveries p x [] d (calls + 2)) := by
  have committed : Leads cfg out j
      (.within n (.commitFailed n code false) deliveries p x d calls)
      (.within (n.markFailed code) (.refreshFailed code false) deliveries p x d (calls + 1)) :=
    within_step (by simp [DispatchPc.act, Chain.within, Chain.after])
  exact committed.trans (within_step rfl)

theorem reaches_sent {deliveries : Nat} (externalId : Option String) (now : Int) :
    Leads cfg out j
      (.within n (.commitSent n externalId now) deliveries p x d calls)
      (.finished (n.markSent cfg externalId now) deliveries p x [] d (calls + 2)) := by
  have committed : Leads cfg out j
      (.within n (.commitSent n externalId now) deliveries p x d calls)
      (.within (n.markSent cfg externalId now) .refreshSent deliveries p x d (calls + 1)) :=
    within_step (by simp [DispatchPc.act, Chain.within, Chain.after])
  exact committed.trans (within_step rfl)

/-- The message is in `notification.retry`: it expires, and `_on_retry_event` puts the id back. -/
theorem reaches_queued :
    Leads cfg out j ⟨some n, false, 1, 0, none, 0, p, x, [], d, calls⟩
      (.queuedAt n p x d (calls + 3)) := by
  have expired : Leads cfg out j ⟨some n, false, 1, 0, none, 0, p, x, [], d, calls⟩
      ⟨some n, false, 0, 1, none, 0, p, x, [], d, calls⟩ := reaches_single rfl
  have delivered : Leads cfg out j
      ⟨some n, false, 0, 1, none, 0, p, x, [], d, calls⟩
      ⟨some n, false, 0, 0, some (.event .select), 0, p, x, [], d, calls⟩ := reaches_single rfl
  have selected : Leads cfg out j
      ⟨some n, false, 0, 0, some (.event .select), 0, p, x, [], d, calls⟩
      ⟨some n, false, 0, 0, some (.event (.enqueue (queueScore n.priority (out.now calls)))), 0, p, x,
        [], d, calls + 1⟩ := reaches_single rfl
  have enqueued : Leads cfg out j
      ⟨some n, false, 0, 0, some (.event (.enqueue (queueScore n.priority (out.now calls)))), 0, p, x,
        [], d, calls + 1⟩
      ⟨some n, true, 0, 0, some (.event .ack), 0, p, x, [], d, calls + 2⟩ := reaches_single rfl
  exact expired.trans (delivered.trans (selected.trans (enqueued.trans (reaches_single rfl))))

theorem reaches_send (has : (out.answer d).healthy = true) :
    Leads cfg out j (.within n (.health n) 0 p x (d + 1) calls)
      (.within n (.send n) 0 p x (d + 1) (calls + 1)) :=
  within_step (by simp [DispatchPc.act, Chain.within, Chain.after, Outside.env, has])

variable (cfg out j n p x d calls)

/-- The last retryable failure: the row is marked FAILED and its dead letter is published. -/
theorem reaches_exhausted (deliveries : Nat) (code : NotificationErrorCode) :
    ∃ now, Leads cfg out j
      (.within n (.commitFailed n code true) deliveries p x d calls)
      (.finished (n.markFailed code) deliveries p (x + 1) [(n.markFailed code).deadLetter j code now] d
        (calls + 3)) := by
  have committed : Leads cfg out j
      (.within n (.commitFailed n code true) deliveries p x d calls)
      (.within (n.markFailed code) (.refreshFailed code true) deliveries p (x + 1) d (calls + 1)) :=
    within_step (by simp [DispatchPc.act, Chain.within, Chain.after])
  have refreshed : Leads cfg out j
      (.within (n.markFailed code) (.refreshFailed code true) deliveries p (x + 1) d (calls + 1))
      (.within (n.markFailed code) (.sendToDlq (n.markFailed code) code) deliveries p (x + 1) d
        (calls + 2)) :=
    within_step rfl
  exact ⟨_, committed.trans (refreshed.trans (within_step rfl))⟩

theorem reaches_requeued (delay : Nat) (pc : PublishPc) :
    ∃ calls', Leads cfg out j
      (.within n (.publishing delay pc) 0 p x d calls) (.queuedAt n (p + 1) x d calls') := by
  induction rank : pc.rank using Nat.strong_induction_on generalizing pc calls with
  | _ rank' ih =>
    cases next : (pc.step (out.service (d - 1))).2 with
    | some pc' =>
      have unsent : pc ≠ .publish := by rintro rfl; cases next
      have called : Leads cfg out j (.within n (.publishing delay pc) 0 p x d calls)
          (.within n (.publishing delay pc') 0 p x d (calls + 1)) :=
        within_step (by simp [DispatchPc.act, Chain.within, Chain.after, next, unsent])
      obtain ⟨calls', reached⟩ := ih pc'.rank (rank ▸ PublishPc.step_rank next) (calls + 1) pc' rfl
      exact ⟨calls', called.trans reached⟩
    | none =>
      have sent : pc = .publish := by cases pc <;> first | rfl | cases next
      subst sent
      exact ⟨_, .trans (within_step rfl) reaches_queued⟩

/-- `_schedule_retry` with retries left: the id comes back if the broker is reached. -/
theorem reaches_retry (code : NotificationErrorCode) (count delay : Nat)
    (connects : (out.service d).rmqConnection = none ∨ cfg.aioPika.isClosedIsMethod = true) :
    ∃ calls', Leads cfg out j
      (.within n (.commitRetrying n code count delay) 0 p x (d + 1) calls)
      (.queuedAt (n.markRetrying code count) (p + 1) x (d + 1) calls') := by
  have usable : ((out.service d).rmqConnection.isSome && !cfg.aioPika.isClosedIsMethod) = false := by
    rcases connects with h | h <;> simp [h]
  obtain ⟨pc, got⟩ := getRabbitmqChannel_isSome usable
  have committed : Leads cfg out j
      (.within n (.commitRetrying n code count delay) 0 p x (d + 1) calls)
      (.within (n.markRetrying code count) (.refreshRetrying delay) 0 p x (d + 1) (calls + 1)) :=
    within_step (by simp [DispatchPc.act, Chain.within, Chain.after])
  have called : Leads cfg out j
      (.within (n.markRetrying code count) (.refreshRetrying delay) 0 p x (d + 1) (calls + 1))
      (.within (n.markRetrying code count) (.publishing delay pc) 0 p x (d + 1) (calls + 2)) :=
    within_step (by simp [DispatchPc.act, Chain.within, Chain.after, got])
  obtain ⟨calls', requeued⟩ := reaches_requeued cfg out j (n.markRetrying code count) p x (d + 1)
    (calls + 2) delay pc
  exact ⟨calls', committed.trans (called.trans requeued)⟩

/-- If the cached connection cannot be asked whether it is closed, the chain breaks off. -/
theorem reaches_stuck (code : NotificationErrorCode) (count delay : Nat)
    (cached : (out.service d).rmqConnection ≠ none) (property : cfg.aioPika.isClosedIsMethod = false) :
    Leads cfg out j
      (.within n (.commitRetrying n code count delay) 0 p x (d + 1) calls)
      (.finished (n.markRetrying code count) 0 p x [] (d + 1) (calls + 2)) := by
  have fails : ((out.service d).getRabbitmqChannel cfg.aioPika).2 = none :=
    getRabbitmqChannel_eq_none (by simp [Option.isSome_iff_ne_none, cached, property])
  have committed : Leads cfg out j
      (.within n (.commitRetrying n code count delay) 0 p x (d + 1) calls)
      (.within (n.markRetrying code count) (.refreshRetrying delay) 0 p x (d + 1) (calls + 1)) :=
    within_step (by simp [DispatchPc.act, Chain.within, Chain.after])
  exact committed.trans
    (within_step (by simp [DispatchPc.act, Chain.within, Chain.finished, Chain.after, fails]))

theorem NotificationErrorCode.ofValue?_value (code : NotificationErrorCode) :
    NotificationErrorCode.ofValue? code.value = some code ∧ code.value ≠ 0 := by
  cases code <;> exact ⟨rfl, by decide⟩

theorem Answer.result_code (code : Option NotificationErrorCode) :
    (Answer.failure code).result.code = some (code.getD .unknown) := by
  cases code with
  | none => rfl
  | some code =>
    obtain ⟨defined, nonzero⟩ := code.ofValue?_value
    simp [Answer.result, ProviderResult.code, defined, nonzero]

theorem reaches_scheduleRetry {code : NotificationErrorCode}
    (retryable : (out.answer d).retryCode = some code) :
    ∃ env pc calls', scheduleRetry cfg env n code = some pc ∧
      Leads cfg out j (.within n (.health n) 0 p x (d + 1) calls)
        (.within n pc 0 p x (d + 1) calls') := by
  have scheduled (env : Env) : ∃ pc, scheduleRetry cfg env n code = some pc := by
    rcases scheduleRetry_cases cfg env n code with ⟨_, h⟩ | ⟨_, delay, h⟩
    · exact ⟨_, h⟩
    · exact ⟨_, h⟩
  cases answer : out.answer d with
  | unhealthy =>
    rw [answer] at retryable
    cases retryable
    let env := out.env (.within n (.health n) 0 p x (d + 1) calls)
    obtain ⟨pc, hpc⟩ := scheduled env
    have sick : env.healthy = false := by simp [env, Outside.env, Chain.within, answer, Answer.healthy]
    have acted : DispatchPc.act cfg env j (out.service d) (some n) (.health n) =
        { db := some n, service := out.service d, next := some (.dispatch pc) } := by
      simp [DispatchPc.act, sick, hpc]
    exact ⟨env, pc, calls + 1, hpc, within_step (congrArg (Chain.after _) acted)⟩
  | failure given =>
    simp only [answer, Answer.retryCode, Option.ite_none_right_eq_some, Option.some.injEq] at retryable
    obtain ⟨member, rfl⟩ := retryable
    let env := out.env (.within n (.send n) 0 p x (d + 1) (calls + 1))
    obtain ⟨pc, hpc⟩ := scheduled env
    have result : env.result = (Answer.failure given).result := by
      simp [env, Outside.env, Chain.within, answer]
    have acted : DispatchPc.act cfg env j (out.service d) (some n) (.send n) =
        { db := some n, service := out.service d, next := some (.dispatch pc) } := by
      have failed : (Answer.failure given).result.success = false := rfl
      simp [DispatchPc.act, afterSend, result, failed, Answer.result_code, member, hpc]
    exact ⟨env, pc, calls + 2, hpc,
      .trans (reaches_send (by rw [answer]; rfl)) (within_step (congrArg (Chain.after _) acted))⟩
  | noProvider => rw [answer] at retryable; cases retryable
  | success externalId => rw [answer] at retryable; cases retryable

theorem reaches_settled_send (decisive : (out.answer d).retryCode = none)
    (sends : (out.answer d).hasProvider = true ∧ (out.answer d).healthy = true) :
    ∃ n' deliveries calls', Leads cfg out j (.within n (.send n) 0 p x (d + 1) calls)
        (.finished n' deliveries p x [] (d + 1) calls') ∧
      n'.retryCount = n.retryCount ∧
      n'.status = if (out.answer d).isSuccess then .sent else .failed := by
  let env := out.env (.within n (.send n) 0 p x (d + 1) calls)
  have result : env.result = (out.answer d).result := rfl
  cases answer : out.answer d with
  | noProvider => rw [answer] at sends; cases sends.1
  | unhealthy => rw [answer] at sends; cases sends.2
  | success externalId =>
    have acted : DispatchPc.act cfg env j (out.service d) (some n) (.send n) =
        { db := some n, service := out.service d,
          next := some (.dispatch (.commitSent n externalId env.now)), delivered := true } := by
      simp [DispatchPc.act, afterSend, result, answer, Answer.result]
    have sent : Leads cfg out j (.within n (.send n) 0 p x (d + 1) calls)
        (.within n (.commitSent n externalId env.now) 1 p x (d + 1) (calls + 1)) :=
      within_step (congrArg (Chain.after _) acted)
    exact ⟨_, _, _, sent.trans (reaches_sent externalId env.now), rfl, rfl⟩
  | failure given =>
    have final : given.getD .unknown ∉ retryableErrorCodes := by
      simpa [answer, Answer.retryCode] using decisive
    have failed : (Answer.failure given).result.success = false := rfl
    have acted : DispatchPc.act cfg env j (out.service d) (some n) (.send n) =
        { db := some n, service := out.service d,
          next := some (.dispatch (.commitFailed n (given.getD .unknown) false)) } := by
      simp [DispatchPc.act, afterSend, result, answer, failed, Answer.result_code, final]
    have refused : Leads cfg out j (.within n (.send n) 0 p x (d + 1) calls)
        (.within n (.commitFailed n (given.getD .unknown) false) 0 p x (d + 1) (calls + 1)) :=
      within_step (congrArg (Chain.after _) acted)
    exact ⟨_, _, _, refused.trans (reaches_failed _), rfl, rfl⟩

theorem reaches_settled (decisive : (out.answer d).retryCode = none) :
    ∃ n' deliveries calls', Leads cfg out j (.queuedAt n p x d calls)
        (.finished n' deliveries p x [] (d + 1) calls') ∧
      n'.retryCount = n.retryCount ∧
      n'.status = if (out.answer d).isSuccess then .sent else .failed := by
  cases has : (out.answer d).hasProvider with
  | false =>
    have unsent : (out.answer d).isSuccess = false := by
      cases answer : out.answer d <;> rw [answer] at has <;> first | rfl | cases has
    have select : Leads cfg out j (.within n .select 0 p x (d + 1) calls)
        (.within n (.commitFailed n .unknown false) 0 p x (d + 1) (calls + 1)) :=
      within_step (by simp [DispatchPc.act, Outside.env, Chain.within, Chain.after, has])
    rw [unsent]
    exact ⟨_, _, _, reaches_select.trans (select.trans (reaches_failed .unknown)), rfl, rfl⟩
  | true =>
    have healthy : (out.answer d).healthy = true := by
      cases answer : out.answer d <;> rw [answer] at decisive <;> first | rfl | cases decisive
    obtain ⟨n', deliveries, calls', settled, count, status⟩ := reaches_settled_send cfg out j
      n.markQueued p x d (calls + 4) decisive ⟨has, healthy⟩
    exact ⟨n', deliveries, calls',
      (reaches_health has).trans ((reaches_send healthy).trans settled), count, status⟩

theorem retryable_asked {a : Answer} {code : NotificationErrorCode} (h : a.retryCode = some code) :
    a.hasProvider = true := by
  cases a <;> first | rfl | cases h

theorem reaches_decision (retryable : (out.answer d).retryCode.isSome = true) :
    ∃ code calls', (cfg.retryConfigFor n.eventType).maxRetries < n.retryCount + 1 ∧
        Leads cfg out j (.queuedAt n p x d calls)
          (.within n.markQueued (.commitFailed n.markQueued code true) 0 p x (d + 1) calls') ∨
      n.retryCount + 1 ≤ (cfg.retryConfigFor n.eventType).maxRetries ∧ ∃ delay,
        Leads cfg out j (.queuedAt n p x d calls)
          (.within n.markQueued (.commitRetrying n.markQueued code (n.retryCount + 1) delay) 0 p x
            (d + 1) calls') := by
  obtain ⟨code, hcode⟩ := Option.isSome_iff_exists.mp retryable
  obtain ⟨env, pc, calls', hpc, scheduled⟩ := reaches_scheduleRetry cfg out j n.markQueued
    p x d (calls + 3) hcode
  have reached := (reaches_health (retryable_asked hcode)).trans scheduled
  refine ⟨code, calls', ?_⟩
  rcases scheduleRetry_cases cfg env n.markQueued code with ⟨spent, h⟩ | ⟨left, delay, h⟩
  · cases hpc.symm.trans h
    exact .inl ⟨spent, reached⟩
  · cases hpc.symm.trans h
    exact .inr ⟨left, delay, reached⟩

theorem reaches_again (retryable : (out.answer d).retryCode.isSome = true)
    (left : n.retryCount + 1 ≤ (cfg.retryConfigFor n.eventType).maxRetries)
    (connects : (out.service d).rmqConnection = none ∨ cfg.aioPika.isClosedIsMethod = true) :
    ∃ n' calls', Leads cfg out j (.queuedAt n p x d calls) (.queuedAt n' (p + 1) x (d + 1) calls') ∧
      n'.retryCount = n.retryCount + 1 ∧ n'.eventType = n.eventType := by
  obtain ⟨code, calls₁, ⟨spent, _⟩ | ⟨_, delay, decided⟩⟩ :=
    reaches_decision cfg out j n p x d calls retryable
  · exact absurd left (Nat.not_le.mpr spent)
  · obtain ⟨calls₂, requeued⟩ := reaches_retry cfg out j n.markQueued p x d calls₁ code
      (n.retryCount + 1) delay connects
    exact ⟨_, calls₂, decided.trans requeued, rfl, rfl⟩

/-- With retries left and no broker to be reached the chain ends in RETRYING. -/
theorem reaches_broken (retryable : (out.answer d).retryCode.isSome = true)
    (left : n.retryCount + 1 ≤ (cfg.retryConfigFor n.eventType).maxRetries)
    (broken : ¬((out.service d).rmqConnection = none ∨ cfg.aioPika.isClosedIsMethod = true)) :
    ∃ n' calls', Leads cfg out j (.queuedAt n p x d calls) (.finished n' 0 p x [] (d + 1) calls') ∧
      n'.status = .retrying := by
  obtain ⟨code, calls₁, ⟨spent, _⟩ | ⟨_, delay, decided⟩⟩ :=
    reaches_decision cfg out j n p x d calls retryable
  · exact absurd left (Nat.not_le.mpr spent)
  · obtain ⟨cached, property⟩ := not_or.mp broken
    have stuck := reaches_stuck cfg out j n.markQueued p x d calls₁ code (n.retryCount + 1) delay cached
      (Bool.eq_false_iff.mpr property)
    exact ⟨_, _, decided.trans stuck, rfl⟩

theorem reaches_last (retryable : (out.answer d).retryCode.isSome = true)
    (used : (cfg.retryConfigFor n.eventType).maxRetries < n.retryCount + 1) :
    ∃ n' m calls', Leads cfg out j (.queuedAt n p x d calls)
        (.finished n' 0 p (x + 1) [m] (d + 1) calls') ∧
      n'.status = .failed ∧ n'.retryCount = n.retryCount ∧ m.Names j n' := by
  obtain ⟨code, calls₁, ⟨_, decided⟩ | ⟨left, _⟩⟩ :=
    reaches_decision cfg out j n p x d calls retryable
  · obtain ⟨now, exhausted⟩ := reaches_exhausted cfg out j n.markQueued p x (d + 1) calls₁ 0 code
    exact ⟨_, _, _, decided.trans exhausted, rfl, rfl, rfl, rfl, rfl, rfl⟩
  · exact absurd left (Nat.not_le.mpr used)

end Dispatch

end NotificationEngine
