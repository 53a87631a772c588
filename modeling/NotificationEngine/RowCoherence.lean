import NotificationEngine.RunConditions
import NotificationEngine.Snapshots

namespace NotificationEngine

open SnapshotWrite Holders

/-- The columns of the row go with its status. -/
structure Notification.Coherent (cfg : Config) (r : Notification) : Prop where
  sent : r.status = .sent → r.externalId.isSome = true ∧ r.stime.isSome = true
  failed : r.status = .failed → r.errorCode.isSome = true
  retrying : r.status = .retrying → (∃ code ∈ retryableErrorCodes, r.errorCode = some code) ∧
    1 ≤ r.retryCount ∧ r.retryCount ≤ (cfg.retryConfigFor r.eventType).maxRetries
  pending : r.status = .pending → r.errorCode = none

/-- Status and error code end up as the commit sets them. -/
def Task.lands (r : Notification) : Task → Bool
  | dispatch (.commitFailed n code _) =>
    decide (Lands n.status .failed r.status ∧ Lands n.errorCode (some code) r.errorCode)
  | dispatch (.commitRetrying n code _ _) =>
    decide (Lands n.status .retrying r.status ∧ Lands n.errorCode (some code) r.errorCode)
  | retry (.commitPending n) =>
    decide (Lands n.status .pending r.status ∧ Lands n.errorCode none r.errorCode)
  | _ => true

/-- What a row that was loaded once can still tell of the row as it is. -/
structure Notification.Precedes (n r : Notification) : Prop where
  eventType : n.eventType = r.eventType
  externalId : n.externalId.isSome = true → r.externalId.isSome = true
  stime : n.stime.isSome = true → r.stime.isSome = true

/-- A row about to be committed as SENT has an external id. -/
def Task.GivesId : Task → Prop
  | dispatch (.commitSent _ externalId _) => externalId.isSome = true
  | _ => True

theorem Task.Prepared.givesId {cfg : Config} {env : Env} {t : Task} (h : t.Prepared cfg env)
    (ids : env.result.success = true → env.result.externalId.isSome = true) : t.GivesId := by
  rcases t with pc | pc | pc | pc
  · cases pc with
    | commitSent n externalId now =>
      obtain ⟨success, same⟩ := h
      exact same ▸ ids success
    | _ => exact trivial
  · exact trivial
  · exact trivial
  · exact trivial

section Writes

variable {cfg : Config} {t : Task} {n r : Notification}

theorem Notification.flush_unsent (r : Notification) {new : Notification} (externalId : new.externalId = n.externalId)
    (stime : new.stime = n.stime) :
    (n.flush new r).externalId = r.externalId ∧ (n.flush new r).stime = r.stime := by
  simp [Notification.flush, externalId, stime]

theorem Task.write_keeps (cfg : Config) (gives : t.GivesId) (known : ∀ n ∈ t.snapshot, n.Precedes r) :
    (r.externalId.isSome = true → (t.write cfg r).externalId.isSome = true) ∧
      (r.stime.isSome = true → (t.write cfg r).stime.isSome = true) := by
  refine ⟨?_, Task.write_timed fun n mem => (known n mem).stime⟩
  have same {new n : Notification} (h : new.externalId = n.externalId) :
      r.externalId.isSome = true → (n.flush new r).externalId.isSome = true := by
    have kept : (n.flush new r).externalId = r.externalId := by simp [Notification.flush, h]
    rw [kept]
    exact id
  rcases t with pc | pc | pc | pc
  · cases pc with
    | commitSent n externalId now => exact fun _ => column_isSome gives (known n rfl).externalId
    | commitQueued n => exact same rfl
    | commitFailed n code exhausted => exact same rfl
    | commitRetrying n code count delay => exact same rfl
    | _ => exact id
  · cases pc <;> exact id
  · cases pc with
    | commitPending n => exact same rfl
    | _ => exact id
  · cases pc <;> exact id

/-- A status that is not written, over columns that do not change, leaves the row coherent. -/
theorem Notification.Coherent.congr {r' : Notification} (coherent : r.Coherent cfg)
    (status : r'.status = r.status) (errorCode : r'.errorCode = r.errorCode)
    (retryCount : r'.retryCount = r.retryCount) (eventType : r'.eventType = r.eventType)
    (externalId : r.externalId.isSome = true → r'.externalId.isSome = true)
    (stime : r.stime.isSome = true → r'.stime.isSome = true) : r'.Coherent cfg where
  sent h := by
    obtain ⟨given, at_⟩ := coherent.sent (status ▸ h)
    exact ⟨externalId given, stime at_⟩
  failed h := by
    rw [errorCode]
    exact coherent.failed (status ▸ h)
  retrying h := by
    rw [errorCode, retryCount, eventType]
    exact coherent.retrying (status ▸ h)
  pending h := by
    rw [errorCode]
    exact coherent.pending (status ▸ h)

theorem write_queued_coherent (coherent : r.Coherent cfg) : (n.flush n.markQueued r).Coherent cfg := by
  rcases column_cases n.status .queued r.status with queued | ⟨_, kept⟩
  · have status : (n.flush n.markQueued r).status = .queued := queued
    exact ⟨fun h => (nomatch status.symm.trans h), fun h => (nomatch status.symm.trans h),
      fun h => (nomatch status.symm.trans h), fun h => (nomatch status.symm.trans h)⟩
  · have status : (n.flush n.markQueued r).status = r.status := kept
    have kept : (n.flush n.markQueued r).externalId = r.externalId ∧
        (n.flush n.markQueued r).stime = r.stime := Notification.flush_unsent r rfl rfl
    exact coherent.congr status (column_untouched _ _) (column_untouched _ _) rfl
      (by rw [kept.1]; exact id) (by rw [kept.2]; exact id)

theorem write_sent_coherent {externalId : Option String} {now : Int} (coherent : r.Coherent cfg)
    (given : externalId.isSome = true) (precedes : n.Precedes r) :
    (n.flush (n.markSent cfg externalId now) r).Coherent cfg := by
  have identified : (n.flush (n.markSent cfg externalId now) r).externalId.isSome = true :=
    column_isSome given precedes.externalId
  have timed : (n.flush (n.markSent cfg externalId now) r).stime.isSome = true :=
    column_isSome rfl precedes.stime
  rcases column_cases n.status .sent r.status with sent | ⟨_, kept⟩
  · have status : (n.flush (n.markSent cfg externalId now) r).status = .sent := sent
    exact ⟨fun _ => ⟨identified, timed⟩, fun h => (nomatch status.symm.trans h),
      fun h => (nomatch status.symm.trans h), fun h => (nomatch status.symm.trans h)⟩
  · have status : (n.flush (n.markSent cfg externalId now) r).status = r.status := kept
    exact coherent.congr status (column_untouched _ _) (column_untouched _ _) rfl
      (fun _ => identified) (fun _ => timed)

/-- A commit whose status and error code land leaves the row coherent. -/
theorem Task.write_coherent (coherent : r.Coherent cfg) (gives : t.GivesId) (scheduled : t.Scheduled cfg)
    (known : ∀ n ∈ t.snapshot, n.Precedes r) (lands : t.lands r = true) :
    (t.write cfg r).Coherent cfg := by
  rcases t with pc | pc | pc | pc
  · cases pc with
    | commitQueued n => exact write_queued_coherent coherent
    | commitSent n externalId now => exact write_sent_coherent coherent gives (known n rfl)
    | commitFailed n code exhausted =>
      obtain ⟨status, errorCode⟩ := of_decide_eq_true lands
      have failed : (n.flush (n.markFailed code) r).status = .failed := column_of_lands status
      have coded : (n.flush (n.markFailed code) r).errorCode = some code := column_of_lands errorCode
      exact ⟨fun h => (nomatch failed.symm.trans h), fun _ => Option.isSome_of_eq_some coded,
        fun h => (nomatch failed.symm.trans h), fun h => (nomatch failed.symm.trans h)⟩
    | commitRetrying n code count delay =>
      obtain ⟨status, errorCode⟩ := of_decide_eq_true lands
      obtain ⟨retryable, next, within⟩ := scheduled
      have retrying : (n.flush (n.markRetrying code count) r).status = .retrying := column_of_lands status
      have coded : (n.flush (n.markRetrying code count) r).errorCode = some code :=
        column_of_lands errorCode
      have counted : (n.flush (n.markRetrying code count) r).retryCount = count :=
        column_of_ne (by
          have more : count ≠ n.retryCount := by omega
          exact more)
      have event : (n.flush (n.markRetrying code count) r).eventType = n.eventType :=
        (known n rfl).eventType.symm
      refine ⟨fun h => (nomatch retrying.symm.trans h), fun h => (nomatch retrying.symm.trans h), fun _ => ?_,
        fun h => (nomatch retrying.symm.trans h)⟩
      refine ⟨⟨code, retryable, coded⟩, ?_, ?_⟩
      · have positive : 1 ≤ count := by omega
        exact positive.trans_eq counted.symm
      · have limit := counted.trans_le within
        rw [← event] at limit
        exact limit
    | _ => exact coherent
  · cases pc <;> exact coherent
  · cases pc with
    | commitPending n =>
      obtain ⟨status, errorCode⟩ := of_decide_eq_true lands
      have pending : (n.flush n.markPending r).status = .pending := column_of_lands status
      have cleared : (n.flush n.markPending r).errorCode = none := column_of_lands errorCode
      exact ⟨fun h => (nomatch pending.symm.trans h), fun h => (nomatch pending.symm.trans h),
        fun h => (nomatch pending.symm.trans h), fun _ => cleared⟩
    | _ => exact coherent
  · cases pc <;> exact coherent

end Writes

/-- The row is coherent, and so is what the tasks are about to do to it. -/
structure Note.Tidy (cfg : Config) (n : Note) : Prop where
  row : ∀ r, n.row = some r → r.Coherent cfg
  snapshots : n.Snapshots Notification.Precedes
  scheduled : n.Scheduled cfg
  ids : ∀ t ∈ n.tasks, t.GivesId

/-- A provider that reports success gives an external id, and a commit's status and error code land
in the row. -/
def Note.Lands (n : Note) : NoteLabel → Prop
  | .ran t _ env _ => (env.result.success = true → env.result.externalId.isSome = true) ∧
      ∀ r, n.row = some r → t.lands r = true
  | _ => True

theorem Note.ids_step {cfg : Config} {j : Nat} {n n' : Note} {e : NoteLabel}
    (ids : ∀ t ∈ n.tasks, t.GivesId) (lands : n.Lands e) (h : Note.Step cfg j n e n') :
    ∀ t ∈ n'.tasks, t.GivesId := by
  intro u mem
  rcases h.mem_tasks mem with there | start | ⟨t, fault, env, q, rfl, _, next⟩
  · exact ids u there
  · cases start <;> trivial
  · exact (Task.run_goes next).snapshot.2.givesId lands.1

theorem Note.Tidy.step {cfg : Config} {j : Nat} {n n' : Note} {e : NoteLabel} (tidy : n.Tidy cfg)
    (lands : n.Lands e) (h : Note.Step cfg j n e n') : n'.Tidy cfg := by
  have known {t : Task} (ht : t ∈ n.tasks) {r : Notification} (row : n.row = some r) :
      ∀ m ∈ t.snapshot, m.Precedes r := by
    intro m mem
    obtain ⟨r', row', precedes⟩ := tidy.snapshots t ht m mem
    cases row.symm.trans row'
    exact precedes
  refine ⟨?_, ?_, tidy.scheduled.step h, Note.ids_step tidy.ids lands h⟩
  · cases h with
    | requested => exact tidy.row
    | dequeued lost _ => exact tidy.row
    | expired _ => exact tidy.row
    | delivered _ => exact tidy.row
    | inserted lost payload channel ctime _ =>
      intro r row
      obtain rfl := Option.some.inj row
      exact ⟨nofun, nofun, nofun, fun _ => rfl⟩
    | @ran rest t fault env q tasks =>
      have here := Note.mem_running tasks
      intro r' row'
      rw [Note.after, Task.run_db] at row'
      split at row'
      next =>
        obtain ⟨r, row, rfl⟩ := Option.map_eq_some_iff.mp row'
        exact Task.write_coherent (tidy.row r row) (tidy.ids t here) (tidy.scheduled t here)
          (known here row) (lands.2 r row)
      next => exact tidy.row r' row'
  · refine tidy.snapshots.step (fun r => ⟨rfl, id, id⟩) ?_ h
    intro t fault env q _ ht m r row precedes
    obtain ⟨externalId, stime⟩ := Task.write_keeps cfg (tidy.ids t ht) (known ht row)
    exact ⟨precedes.eventType.trans (t.write_eventType cfg r).symm,
      fun given => externalId (precedes.externalId given), fun given => stime (precedes.stime given)⟩

theorem Note.absent_tidy (cfg : Config) : Note.absent.Tidy cfg :=
  ⟨fun _ row => (nomatch row), Note.absent_snapshots _, Note.absent_scheduled cfg,
    fun t ht => absurd ht (Multiset.notMem_zero t)⟩

/-- A provider that reports success gives an external id. -/
def Label.givesId : Label → Bool
  | .run _ _ env => !env.result.success || env.result.externalId.isSome
  | _ => true

/-- A commit leaves status and error code as it sets them, also where its session found them so. -/
def Sys.lands (s : Sys) : Label → Bool := s.meets fun r t => t.lands r

theorem seen_lands {s : Sys} {l : Label} {j : Nat} {e : NoteLabel} (gives : l.givesId = true)
    (lands : s.lands l = true) (seen : s.Seen j l e) : (s.note j).Lands e := by
  cases e with
  | ran t fault env q =>
    refine ⟨fun success => ?_, seen_meets (fun _ _ => rfl) lands seen⟩
    cases seen with
    | ran hop ht => simpa [Label.givesId, success] using gives
  | _ => trivial

/-- In every run whose commits all land, every row is coherent. -/
theorem rows_coherent {cfg : Config} {s : Sys} (id : Nat)
    (run : Sys.Reach cfg (fun s l => (l.givesId && s.lands l) = true) .initial s) :
    ∀ r, s.world.rows id = some r → r.Coherent cfg := by
  have noted : Transition.Reach (Note.Step cfg id) Note.Lands Note.absent (s.note id) := by
    refine note_reach (fun _ _ _ ok seen => ?_) run
    obtain ⟨gives, lands⟩ := Bool.and_eq_true_iff.mp ok
    exact seen_lands gives lands seen
  have tidy : (s.note id).Tidy cfg :=
    noted.invariant (Note.absent_tidy cfg) fun _ _ _ tidy lands step => tidy.step lands step
  exact tidy.row

/-- A dispatch fails, its retry comes back, and a manual retry loads the row before the second dispatch
commits it as QUEUED and resets it only before that dispatch fails with the same error. -/
def resetUnderDispatch : List Label :=
  [.createNotification otpRequest] ++ calls 0 5 (accepting false) ++
  [.dequeue .none] ++ calls 1 10 (accepting false) ++
  [.expire 1000000000, .deliver] ++ calls 2 3 (accepting false) ++
  [.dequeue .none] ++ calls 3 1 (accepting false) ++
  [.retryNotification 1] ++ calls 4 1 (accepting false) ++
  calls 3 3 (accepting false) ++ calls 4 1 (accepting false) ++ calls 3 1 (accepting false)

theorem rows_coherent_once : ∃ s r,
    Sys.Reach defaultConfig (fun s l => (l.givesId && s.lands l) = true) .initial s ∧
      s.world.rows 1 = some r ∧ r.status = .retrying ∧ r.Coherent defaultConfig := by
  have ran : ((Transition.trace (Sys.step defaultConfig) (fun s l => l.givesId && s.lands l) .initial
      (resetUnderDispatch.take 14)).bind fun s => (s.world.rows 1).map (·.status)) = some .retrying := by
    decide +kernel
  obtain ⟨s, hs, ran⟩ := Option.bind_eq_some_iff.mp ran
  obtain ⟨r, row, retrying⟩ := Option.map_eq_some_iff.mp ran
  have run := Transition.trace_reach .start hs
  exact ⟨s, r, run, row, retrying, rows_coherent 1 run r row⟩

/-- The row is RETRYING and its error is gone. -/
theorem retrying_without_error : ∃ s r,
    Sys.Reach defaultConfig (fun s l => (s.infraOk l && l.givesId) = true) .initial s ∧
      s.world.rows 1 = some r ∧ r.status = .retrying ∧ r.errorCode = none ∧ ¬r.Coherent defaultConfig := by
  have ran : ((Transition.trace (Sys.step defaultConfig) (fun s l => s.infraOk l && l.givesId) .initial
      resetUnderDispatch).bind fun s => (s.world.rows 1).map fun r => (r.status, r.errorCode)) =
      some (.retrying, none) := by decide +kernel
  obtain ⟨s, hs, ran⟩ := Option.bind_eq_some_iff.mp ran
  obtain ⟨r, row, facts⟩ := Option.map_eq_some_iff.mp ran
  obtain ⟨retrying, cleared⟩ := Prod.mk.inj facts
  refine ⟨s, r, Transition.trace_reach .start hs, row, retrying, cleared, fun coherent => ?_⟩
  obtain ⟨⟨code, _, given⟩, _⟩ := coherent.retrying retrying
  rw [cleared] at given
  cases given

end NotificationEngine
