import NotificationEngine.TaskMoves
import NotificationEngine.TaskEffects

namespace NotificationEngine

/-- A holder that settles a live row or hands its id on. A dispatch past its last look at the row
does neither if it saw the row SENT or FAILED: its commit may then write no status. -/
def Task.secure : Task → Bool
  | dispatch (.health n) => decide n.status.Live
  | dispatch (.send n) => decide n.status.Live
  | dispatch (.commitSent n _ _) => decide n.status.Live
  | dispatch (.commitFailed n _ _) => decide n.status.Live
  | t => t.holds

/-- The calls whose effect alone settles the row or hands the id on. -/
def Task.settles : Task → Bool
  | dispatch (.commitSent _ _ _) => true
  | dispatch (.commitFailed _ _ _) => true
  | dispatch (.publishing _ pc) => decide (pc = .publish)
  | event (.enqueue _) => true
  | retry (.enqueue _) => true
  | saving (.enqueue _) => true
  | _ => false

/-- The ends of an awaited call after which a secure holder is gone and its id with it. Without a
fault these are an error code that is not defined and, in `publish_retry`, a cached connection
whose `is_closed` cannot be called. -/
def Task.letsGo (cfg : Config) (env : Env) (q : QueueService) (fault : Fault) (t : Task) : Bool :=
  t.secure && match fault with
  | .none => match t with
    | dispatch (.send _) => !env.result.success && env.result.code.isNone
    | dispatch (.refreshRetrying _) => q.rmqConnection.isSome && !cfg.aioPika.isClosedIsMethod
    | _ => false
  | .raised effect => !(effect && t.settles)
  | .stopped effect => !(effect && t.settles) && !t.unacked effect

/-- The id is held by a secure task or parked somewhere. -/
def Outcome.Keeps (o : Outcome) : Prop :=
  (∃ t ∈ o.next, t.secure = true) ∨ o.enqueued.isSome = true ∨ o.published.isSome = true ∨
    o.redelivered = true

theorem getRabbitmqChannel_isSome {lib : AioPika} {q : QueueService}
    (h : (q.rmqConnection.isSome && !lib.isClosedIsMethod) = false) :
    ∃ pc, (q.getRabbitmqChannel lib).2 = some pc := by
  cases hc : q.rmqConnection with
  | none => exact ⟨.connect, by simp [QueueService.getRabbitmqChannel, hc]⟩
  | some connection =>
    have callable : lib.isClosedIsMethod = true := by simpa [hc] using h
    cases connected : connection.closed with
    | true =>
      exact ⟨.connect, by
        simp [QueueService.getRabbitmqChannel, hc, AioPika.isClosedCall, callable, connected]⟩
    | false =>
      cases ho : q.rmqChannel with
      | none =>
        exact ⟨.openChannel, by
          simp [QueueService.getRabbitmqChannel, hc, ho, AioPika.isClosedCall, callable, connected]⟩
      | some channel =>
        cases opened : channel.closed with
        | true =>
          exact ⟨.openChannel, by simp [QueueService.getRabbitmqChannel, hc, ho,
            AioPika.isClosedCall, callable, connected, opened]⟩
        | false =>
          exact ⟨.declareQueue, by simp [QueueService.getRabbitmqChannel, hc, ho,
            AioPika.isClosedCall, callable, connected, opened]⟩

theorem getRabbitmqChannel_eq_none {lib : AioPika} {q : QueueService}
    (h : (q.rmqConnection.isSome && !lib.isClosedIsMethod) = true) :
    (q.getRabbitmqChannel lib).2 = none := by
  obtain ⟨cached, property⟩ := Bool.and_eq_true_iff.mp h
  obtain ⟨connection, hc⟩ := Option.isSome_iff_exists.mp cached
  have not_method : lib.isClosedIsMethod = false := by simpa using property
  simp [QueueService.getRabbitmqChannel, hc, AioPika.isClosedCall, not_method]

theorem scheduleRetry_keeps {cfg : Config} {env : Env} {n : Notification}
    {code : NotificationErrorCode} (live : n.status.Live) :
    ∃ t ∈ (scheduleRetry cfg env n code).map Task.dispatch, t.secure = true := by
  rcases scheduleRetry_cases cfg env n code with ⟨_, h⟩ | ⟨_, delay, h⟩
  · rw [h]
    exact ⟨_, rfl, decide_eq_true live⟩
  · rw [h]
    exact ⟨_, rfl, rfl⟩

theorem commit_not_live {db : Option Notification} {n new : Notification} (live : n.status.Live)
    (final : ¬new.status.Live) : ¬RowIs (·.Live) (commit db n new) := by
  rintro ⟨_, hr, hs⟩
  obtain ⟨r, _, rfl⟩ := Option.map_eq_some_iff.mp hr
  have changed : new.status ≠ n.status := by
    intro same
    rw [same] at final
    exact final live
  have written : (n.flush new r).status = new.status := SnapshotWrite.column_of_ne changed
  rw [written] at hs
  exact final hs

theorem DispatchPc.act_keeps {cfg : Config} {env : Env} {id : Nat} {q : QueueService}
    {db : Option Notification} {pc : DispatchPc} (secure : (Task.dispatch pc).secure = true)
    (stays : (Task.dispatch pc).letsGo cfg env q .none = false)
    (live : RowIs (·.Live) (pc.act cfg env id q db).db) : (pc.act cfg env id q db).Keeps := by
  cases pc with
  | select =>
    cases db with
    | none => exact absurd live (not_rowIs_none _)
    | some r =>
      simp only [DispatchPc.act] at live ⊢
      split at live
      next h =>
        rw [if_pos h]
        exact Or.inl ⟨_, rfl, rfl⟩
      next h =>
        rw [if_neg h]
        exact Or.inl ⟨_, rfl, decide_eq_true (rowIs_some.mp live)⟩
  | commitQueued n => exact Or.inl ⟨_, rfl, rfl⟩
  | refreshQueued =>
    obtain ⟨r, hr, hs⟩ := live
    cases (hr : db = some r)
    exact Or.inl ⟨_, rfl, decide_eq_true hs⟩
  | health n =>
    have hs : n.status.Live := of_decide_eq_true secure
    simp only [DispatchPc.act]
    split
    next => exact Or.inl ⟨_, rfl, secure⟩
    next => exact Or.inl (scheduleRetry_keeps hs)
  | send n =>
    have hs : n.status.Live := of_decide_eq_true secure
    simp only [DispatchPc.act]
    rcases afterSend_cases cfg env n with ⟨_, h⟩ | ⟨failed, ⟨none, _⟩ | ⟨code, _, ⟨_, h⟩ | ⟨_, h⟩⟩⟩
    · rw [h]
      exact Or.inl ⟨_, rfl, secure⟩
    · simp [Task.letsGo, secure, failed, none] at stays
    · rw [h]
      exact Or.inl ⟨_, rfl, secure⟩
    · rw [h]
      exact Or.inl (scheduleRetry_keeps hs)
  | commitSent n externalId now => exact absurd live (commit_not_live (of_decide_eq_true secure) fun h => h)
  | commitFailed n code exhausted => exact absurd live (commit_not_live (of_decide_eq_true secure) fun h => h)
  | commitRetrying n code count delay => exact Or.inl ⟨_, rfl, rfl⟩
  | refreshRetrying delay =>
    cases db with
    | none => exact absurd live (not_rowIs_none _)
    | some r =>
      obtain ⟨pc, hpc⟩ := getRabbitmqChannel_isSome (by simpa [Task.letsGo, secure] using stays)
      exact Or.inl ⟨.dispatch (.publishing delay pc), by simp [DispatchPc.act, hpc], rfl⟩
  | publishing delay pc =>
    cases pc with
    | publish => exact Or.inr (Or.inr (Or.inl rfl))
    | _ => exact Or.inl ⟨_, rfl, rfl⟩
  | refreshSent => cases secure
  | refreshFailed code exhausted => cases secure
  | sendToDlq n code => cases secure

/-- A secure task whose call succeeds keeps a live row held, unless it is one that lets go. -/
theorem Task.act_keeps {cfg : Config} {env : Env} {id : Nat} {q : QueueService}
    {db : Option Notification} {t : Task} (secure : t.secure = true)
    (stays : t.letsGo cfg env q .none = false) (live : RowIs (·.Live) (t.act cfg env id q db).db) :
    (t.act cfg env id q db).Keeps := by
  rcases t with pc | pc | pc | pc
  · exact DispatchPc.act_keeps secure stays live
  · cases pc with
    | select =>
      cases db with
      | none => exact absurd live (not_rowIs_none _)
      | some r => exact Or.inl ⟨_, rfl, rfl⟩
    | enqueue score => exact Or.inr (Or.inl rfl)
    | ack => cases secure
  · cases pc with
    | commitPending n => exact Or.inl ⟨_, rfl, rfl⟩
    | refreshPending =>
      obtain ⟨r, hr, _⟩ := live
      cases (hr : db = some r)
      exact Or.inl ⟨_, rfl, rfl⟩
    | enqueue score => exact Or.inr (Or.inl rfl)
    | select => cases secure
    | returned error => cases secure
  · cases pc with
    | refresh =>
      obtain ⟨r, hr, _⟩ := live
      cases (hr : db = some r)
      exact Or.inl ⟨_, rfl, rfl⟩
    | enqueue score => exact Or.inr (Or.inl rfl)

/-- If the call of a secure task takes effect, its answer may be lost. -/
theorem Task.settles_keeps {cfg : Config} {env : Env} {id : Nat} {q : QueueService}
    {db : Option Notification} {t : Task} (secure : t.secure = true) (settles : t.settles = true)
    (live : RowIs (·.Live) (t.act cfg env id q db).db) :
    (t.act cfg env id q db).enqueued.isSome = true ∨ (t.act cfg env id q db).published.isSome = true := by
  rcases t with pc | pc | pc | pc
  · cases pc with
    | commitSent n externalId now => exact absurd live (commit_not_live (of_decide_eq_true secure) fun h => h)
    | commitFailed n code exhausted => exact absurd live (commit_not_live (of_decide_eq_true secure) fun h => h)
    | publishing delay pc =>
      cases (of_decide_eq_true settles : pc = .publish)
      exact Or.inr rfl
    | _ => cases settles
  · cases pc with
    | enqueue score => exact Or.inl rfl
    | _ => cases settles
  · cases pc with
    | enqueue score => exact Or.inl rfl
    | _ => cases settles
  · cases pc with
    | enqueue score => exact Or.inl rfl
    | refresh => cases settles

theorem Task.run_keeps {cfg : Config} {env : Env} {id : Nat} {q : QueueService}
    {db : Option Notification} {fault : Fault} {t : Task} (secure : t.secure = true)
    (stays : t.letsGo cfg env q fault = false)
    (live : RowIs (·.Live) (t.run cfg env id q db fault).db) :
    (t.run cfg env id q db fault).Keeps := by
  cases fault with
  | none => exact Task.act_keeps secure stays live
  | raised effect =>
    simp only [Task.letsGo, secure, Bool.true_and, Bool.not_eq_false', Bool.and_eq_true] at stays
    obtain ⟨rfl, settles⟩ := stays
    rcases Task.settles_keeps secure settles live with enqueued | published
    · exact Or.inr (Or.inl enqueued)
    · exact Or.inr (Or.inr (Or.inl published))
  | stopped effect =>
    simp only [Task.letsGo, secure, Bool.true_and, Bool.and_eq_false_iff, Bool.not_eq_false',
      Bool.and_eq_true] at stays
    rcases stays with ⟨rfl, settles⟩ | unacked
    · rcases Task.settles_keeps secure settles live with enqueued | published
      · exact Or.inr (Or.inl enqueued)
      · exact Or.inr (Or.inr (Or.inl published))
    · exact Or.inr (Or.inr (Or.inr unacked))

/-- Only a secure task brings a row back to life. -/
theorem Task.write_live {cfg : Config} {t : Task} {r : Notification} (loose : t.secure = false)
    (live : (t.write cfg r).status.Live) : r.status.Live := by
  rw [Task.write_status] at live
  have stale (n : Notification) (new : NotificationStatus) (final : ¬new.Live)
      (h : (SnapshotWrite.column n.status new r.status).Live) : r.status.Live := by
    rcases SnapshotWrite.column_cases n.status new r.status with written | ⟨_, kept⟩
    · rw [written] at h
      exact absurd h final
    · rwa [kept] at h
  rcases t with pc | pc | pc | pc
  · cases pc with
    | commitSent n externalId now => exact stale n .sent (fun h => h) live
    | commitFailed n code exhausted => exact stale n .failed (fun h => h) live
    | commitQueued n => cases loose
    | commitRetrying n code count delay => cases loose
    | _ => exact live
  · cases pc <;> exact live
  · cases pc with
    | commitPending n => cases loose
    | _ => exact live
  · cases pc <;> exact live

theorem Task.run_live {cfg : Config} {env : Env} {id : Nat} {q : QueueService}
    {db : Option Notification} {fault : Fault} {t : Task}
    (back : ∀ r, (t.write cfg r).status.Live → r.status.Live)
    (live : RowIs (·.Live) (t.run cfg env id q db fault).db) : RowIs (·.Live) db := by
  rw [Task.run_db] at live
  split at live
  next =>
    obtain ⟨_, hr, hs⟩ := live
    obtain ⟨r, row, rfl⟩ := Option.map_eq_some_iff.mp hr
    exact ⟨r, row, back r hs⟩
  next => exact live

end NotificationEngine
