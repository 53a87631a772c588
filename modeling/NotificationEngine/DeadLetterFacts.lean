import NotificationEngine.RetryBudget
import NotificationEngine.RowFacts

namespace NotificationEngine

/-- Two versions of one row, as far as a dead letter quotes it. -/
structure Notification.SameNotice (n r : Notification) : Prop where
  key : n.idempotencyKey = r.idempotencyKey
  event : n.eventType = r.eventType
  channel : n.channel = r.channel
  recipient : n.recipient = r.recipient

theorem Notification.SameNotice.write {n r : Notification} (same : n.SameNotice r) (cfg : Config) (t : Task) :
    n.SameNotice (t.write cfg r) where
  key := same.key.trans (t.write_column (·.idempotencyKey) (fun _ _ _ => rfl) cfg r).symm
  event := same.event.trans (t.write_column (·.eventType) (fun _ _ _ => rfl) cfg r).symm
  channel := same.channel.trans (t.write_column (·.channel) (fun _ _ _ => rfl) cfg r).symm
  recipient := same.recipient.trans (t.write_column (·.recipient) (fun _ _ _ => rfl) cfg r).symm

/-- A dead letter that quotes the row it is about, and an error that is worth a retry. -/
def DeadLetter.Describes (d : DeadLetter) (r : Notification) : Prop :=
  d.idempotencyKey = r.idempotencyKey ∧ d.eventType = r.eventType.label ∧ d.channel = r.channel.label ∧
    d.recipient = r.recipient ∧ ∃ code ∈ retryableErrorCodes, d.errorCode = code.label ∧
      d.failureReason = "Exhausted all retries. Last error: " ++ code.name

/-- The error that an exhausted dispatch is about to report. -/
def Task.Reports (r : Notification) : Task → Prop
  | dispatch (.commitFailed _ code true) => code ∈ retryableErrorCodes
  | dispatch (.refreshFailed code true) => code ∈ retryableErrorCodes
  | dispatch (.sendToDlq m code) => code ∈ retryableErrorCodes ∧ m.SameNotice r
  | _ => True

/-- The count an exhausted dispatch goes by is no smaller than what its event type allows. -/
def Task.Spent (cfg : Config) (r : Notification) : Task → Prop
  | dispatch (.commitFailed m _ true) => (cfg.retryConfigFor r.eventType).maxRetries ≤ m.retryCount
  | dispatch (.refreshFailed _ true) => (cfg.retryConfigFor r.eventType).maxRetries ≤ r.retryCount
  | dispatch (.sendToDlq m _) =>
    (cfg.retryConfigFor r.eventType).maxRetries ≤ m.retryCount ∧ m.retryCount ≤ r.retryCount
  | _ => True

section Steps

variable {cfg : Config} {env : Env} {id : Nat} {q : QueueService} {db : Option Notification} {t u : Task}
  {fault : Fault} {r : Notification}

/-- Only an error that is worth a retry exhausts the retries. -/
theorem Task.exhausted_retryable {n : Notification} {code : NotificationErrorCode}
    (next : (t.run cfg env id q db fault).next = some (.dispatch (.commitFailed n code true))) :
    code ∈ retryableErrorCodes := by
  have answered : (t.act cfg env id q db).next = some (.dispatch (.commitFailed n code true)) := by
    cases fault with
    | none => exact next
    | stopped effect => cases next
    | raised effect =>
      have landed : t.afterRaise = _ := next
      unfold Task.afterRaise at landed
      split at landed <;> cases landed
  have exhausted {m : Notification} {error : NotificationErrorCode} (retryable : error ∈ retryableErrorCodes)
      (h : (scheduleRetry cfg env m error).map Task.dispatch = some (.dispatch (.commitFailed n code true))) :
      code ∈ retryableErrorCodes := by
    rcases scheduleRetry_cases cfg env m error with ⟨_, is⟩ | ⟨_, delay, is⟩
    · rw [is] at h
      cases h
      exact retryable
    · rw [is] at h
      cases h
  have goes := Task.act_goes answered
  generalize was : Task.dispatch (.commitFailed n code true) = u at goes
  cases goes with
  | exhausted own _ =>
    cases was
    rcases own with rfl | rfl
    · simp only [Task.act, DispatchPc.act] at answered
      split at answered
      next => cases answered
      next => exact exhausted (by decide) answered
    · simp only [Task.act, DispatchPc.act] at answered
      rcases afterSend_cases cfg env n with
        ⟨_, is⟩ | ⟨_, ⟨_, is⟩ | ⟨error, _, ⟨_, is⟩ | ⟨retryable, is⟩⟩⟩
      · rw [is] at answered
        cases answered
      · rw [is] at answered
        cases answered
      · rw [is] at answered
        cases answered
      · rw [is] at answered
        exact exhausted retryable answered
  | _ => cases was

theorem Task.Reports.write (reports : t.Reports r) (cfg : Config) (w : Task) : t.Reports (w.write cfg r) := by
  unfold Task.Reports at reports ⊢
  split
  next => exact reports
  next => exact reports
  next => exact ⟨reports.1, reports.2.write cfg w⟩
  next => trivial

theorem Task.Reports.goes (reports : t.Reports r)
    (next : (t.run cfg env id q (some r) fault).next = some u) : u.Reports r := by
  cases Task.run_goes next with
  | exhausted _ _ => exact Task.exhausted_retryable next
  | @failed n code exhausted =>
    cases exhausted with
    | false => trivial
    | true => exact reports
  | buried row =>
    cases row
    exact ⟨reports, rfl, rfl, rfl, rfl⟩
  | _ => trivial

theorem Task.Reports.begins (started : t.bare = true ∨ t = .dispatch .select ∨ t = .event .select ∨
    t = .saving .refresh) : t.Reports r := by
  rcases started with bare | rfl | rfl | rfl
  · rcases t with pc | pc | pc | pc
    · cases bare
    · trivial
    · trivial
    · trivial
  · trivial
  · trivial
  · trivial

end Steps

/-- Whatever fails: a message of `notification.dlq` is about a row, quotes its key, event, channel and
recipient, and reports an error that is worth a retry. -/
theorem dead_letter_describes {cfg : Config} {s : Sys} (run : Sys.Reach cfg (fun _ _ => True) .initial s)
    {d : DeadLetter} (mem : d ∈ s.world.deadLetters) :
    ∃ r, s.world.rows d.notificationId = some r ∧ d.Describes r := by
  have noted : Transition.Reach (Note.Step cfg d.notificationId) (fun _ _ => True) Note.absent
      (s.note d.notificationId) := note_reach (fun _ _ _ _ _ => trivial) run
  have keeps : (s.note d.notificationId).Keeps (fun _ => True) Task.Reports fun r d => d.Describes r := by
    refine noted.invariant (Note.absent_keeps _ _ _) fun n e n' keeps _ step => ?_
    refine keeps.step step (fun _ _ _ => trivial) (fun r t started => Task.Reports.begins started) ?_ ?_ ?_
    · intro t fault env q r _ _ _ _ _
      refine ⟨trivial, fun u reports => reports.write cfg t, fun d told => ?_⟩
      obtain ⟨key, event, channel, recipient, error⟩ := told
      have same : Notification.SameNotice r (t.write cfg r) :=
        Notification.SameNotice.write ⟨rfl, rfl, rfl, rfl⟩ cfg t
      exact ⟨key.trans same.key, event.trans (congrArg EventType.label same.event),
        channel.trans (congrArg NotificationChannel.label same.channel), recipient.trans same.recipient, error⟩
    · intro t fault env q r u _ _ _ _ reports next
      exact (reports.goes next).write cfg t
    · intro r m code at_ _ reports
      obtain ⟨retryable, same⟩ := reports
      exact ⟨same.key, congrArg EventType.label same.event, congrArg NotificationChannel.label same.channel,
        same.recipient, code, retryable, rfl, rfl⟩
  exact keeps.deadLetters d (List.mem_filter.mpr ⟨mem, decide_eq_true rfl⟩)

/-- A task knows no count beyond the one that is stored, and is exhausted on no smaller one than allowed. -/
structure Task.Counted (cfg : Config) (r : Notification) (t : Task) : Prop where
  loaded : ∀ m ∈ t.snapshot, m.eventType = r.eventType ∧ m.retryCount ≤ r.retryCount
  spent : t.Spent cfg r

section Counts

variable {cfg : Config} {env : Env} {id : Nat} {q : QueueService} {t u w : Task} {fault : Fault}
  {r : Notification}

theorem Task.Counted.write (counted : t.Counted cfg r) (grown : r.retryCount ≤ (w.write cfg r).retryCount) :
    t.Counted cfg (w.write cfg r) := by
  have event := w.write_eventType cfg r
  refine ⟨fun m mem => ?_, ?_⟩
  · obtain ⟨same, le⟩ := counted.loaded m mem
    exact ⟨same.trans event.symm, le.trans grown⟩
  · have spent := counted.spent
    unfold Task.Spent at spent ⊢
    rw [event]
    split
    next => exact spent
    next => exact spent.trans grown
    next => exact ⟨spent.1, spent.2.trans grown⟩
    next => trivial

theorem Task.Counted.goes (counted : t.Counted cfg r) (grown : r.retryCount ≤ (t.write cfg r).retryCount)
    (h : t.Goes cfg env q (some r) u) : u.Counted cfg (t.write cfg r) := by
  have loaded : ∀ m ∈ u.snapshot, m.eventType = r.eventType ∧ m.retryCount ≤ r.retryCount := by
    intro m mem
    rcases h.snapshot.1 m mem with own | now
    · exact counted.loaded m own
    · cases now
      exact ⟨rfl, le_rfl⟩
  have event := t.write_eventType cfg r
  refine ⟨fun m mem => ?_, ?_⟩
  · obtain ⟨same, le⟩ := loaded m mem
    exact ⟨same.trans event.symm, le.trans grown⟩
  · cases h with
    | @exhausted pc n code own spent =>
      obtain ⟨same, _⟩ := loaded n rfl
      rw [same, ← event] at spent
      exact Nat.le_of_lt_succ spent
    | @failed n code exhausted =>
      cases exhausted with
      | false => trivial
      | true =>
        have spent : (cfg.retryConfigFor r.eventType).maxRetries ≤ n.retryCount := counted.spent
        rw [← event] at spent
        exact spent.trans ((counted.loaded n rfl).2.trans grown)
    | buried row =>
      cases row
      exact ⟨counted.spent, le_rfl⟩
    | _ => trivial

theorem Task.Counted.begins (started : t.bare = true ∨ t = .dispatch .select ∨ t = .event .select ∨
    t = .saving .refresh) : t.Counted cfg r := by
  rcases started with bare | rfl | rfl | rfl
  · rcases t with pc | pc | pc | pc
    · cases bare
    · exact ⟨Task.forall_snapshot rfl, trivial⟩
    · cases pc <;> first | exact ⟨Task.forall_snapshot rfl, trivial⟩ | cases bare
    · exact ⟨Task.forall_snapshot rfl, trivial⟩
  · exact ⟨Task.forall_snapshot rfl, trivial⟩
  · exact ⟨Task.forall_snapshot rfl, trivial⟩
  · exact ⟨Task.forall_snapshot rfl, trivial⟩

end Counts

/-- The attempts a dead letter tells of, between what the event type allows and what the row has counted. -/
def DeadLetter.Spent (cfg : Config) (r : Notification) (d : DeadLetter) : Prop :=
  (cfg.retryConfigFor r.eventType).maxRetries ≤ d.retryCount ∧ d.retryCount ≤ r.retryCount

def Note.Counted (cfg : Config) (n : Note) : Prop :=
  n.Scheduled cfg ∧ n.Keeps (fun _ => True) (Task.Counted cfg) (DeadLetter.Spent cfg)

theorem Note.Counted.step {cfg : Config} {j : Nat} {n n' : Note} {e : NoteLabel} (counted : n.Counted cfg)
    (current : n.CountsOn e) (h : Note.Step cfg j n e n') : n'.Counted cfg := by
  obtain ⟨scheduled, keeps⟩ := counted
  have grown (t : Task) (fault : Fault) (env : Env) (q : QueueService) (r : Notification)
      (ran : e = .ran t fault env q) (here : t ∈ n.tasks) (row : n.row = some r) :
      r.retryCount ≤ (t.write cfg r).retryCount := by
    subst ran
    have written := Task.write_retryCount (scheduled t here) (current r row)
    omega
  refine ⟨scheduled.step h, keeps.step h (fun _ _ _ => trivial)
    (fun r t started => Task.Counted.begins started) ?_ ?_ ?_⟩
  · intro t fault env q r ran here row _ _
    have more := grown t fault env q r ran here row
    refine ⟨trivial, fun u counted => counted.write more, fun d told => ?_⟩
    exact ⟨(t.write_eventType cfg r).symm ▸ told.1, told.2.trans more⟩
  · intro t fault env q r u ran here row _ counted next
    exact counted.goes (grown t fault env q r ran here row) (Task.run_goes next)
  · intro r m code at_ _ counted
    exact counted.spent

/-- As long as no attempt is counted on a stale count, a dead letter is published only when the row has
counted all the attempts its event type allows. -/
theorem dead_letter_spent {cfg : Config} {s : Sys}
    (run : Sys.Reach cfg (fun s l => s.countsOn l = true) .initial s) {d : DeadLetter}
    (mem : d ∈ s.world.deadLetters) : ∃ r, s.world.rows d.notificationId = some r ∧ d.Spent cfg r := by
  have noted : Transition.Reach (Note.Step cfg d.notificationId) Note.CountsOn Note.absent
      (s.note d.notificationId) := note_reach (fun _ _ _ ok seen => seen_countsOn ok seen) run
  have counted : (s.note d.notificationId).Counted cfg :=
    noted.invariant ⟨Note.absent_scheduled cfg, Note.absent_keeps _ _ _⟩
      fun _ _ _ counted current step => counted.step current step
  exact counted.2.deadLetters d (List.mem_filter.mpr ⟨mem, decide_eq_true rfl⟩)

/-- A notification is retried as often as its event allows, the process restarting each time, and given up. -/
def givenUp : List Label :=
  [.createNotification otpRequest] ++ calls 0 5 (accepting false) ++
  (List.range 3).flatMap (fun k => [.dequeue .none] ++ calls (2 * k + 1) 10 (accepting false) ++
    [.restart, .expire 1000000, .deliver] ++ calls (2 * k + 2) 3 (accepting false)) ++
  [.dequeue .none] ++ calls 7 7 (accepting false)

theorem dead_letter_describes_givenUp : ∃ s d r, Sys.Reach defaultConfig (fun _ _ => True) .initial s ∧
    s.world.deadLetters = [d] ∧ s.world.rows d.notificationId = some r ∧ d.Describes r := by
  have ran : ((Transition.trace (Sys.step defaultConfig) (fun _ _ => true) .initial givenUp).map
      fun s => s.world.deadLetters.length) = some 1 := by decide +kernel
  obtain ⟨s, hs, one⟩ := Option.map_eq_some_iff.mp ran
  have run : Sys.Reach defaultConfig (fun _ _ => True) .initial s :=
    (Transition.trace_reach .start hs).mono fun _ _ _ => trivial
  obtain ⟨d, only⟩ := List.length_eq_one_iff.mp one
  obtain ⟨r, row, told⟩ := dead_letter_describes run (only ▸ List.mem_singleton_self d)
  exact ⟨s, d, r, run, only, row, told⟩

theorem dead_letter_spent_givenUp : ∃ s d r,
    Sys.Reach defaultConfig (fun s l => s.countsOn l = true) .initial s ∧ s.world.deadLetters = [d] ∧
      s.world.rows d.notificationId = some r ∧ d.Spent defaultConfig r := by
  have ran : ((Transition.trace (Sys.step defaultConfig) Sys.countsOn .initial givenUp).map
      fun s => s.world.deadLetters.length) = some 1 := by decide +kernel
  obtain ⟨s, hs, one⟩ := Option.map_eq_some_iff.mp ran
  have run := Transition.trace_reach Transition.Reach.start hs
  obtain ⟨d, only⟩ := List.length_eq_one_iff.mp one
  obtain ⟨r, row, told⟩ := dead_letter_spent run (only ▸ List.mem_singleton_self d)
  exact ⟨s, d, r, run, only, row, told⟩

end NotificationEngine
