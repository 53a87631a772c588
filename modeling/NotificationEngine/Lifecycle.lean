import NotificationEngine.RetryBudget

namespace NotificationEngine

open SnapshotWrite

/-- What the service tells of a notification: its event, where it stands, and its attempts so far. -/
structure Life where
  event : EventType
  status : NotificationStatus
  attempts : Nat

/-- The documented life of a notification. It is created PENDING; workers queue it, send it, give it up or
have it retried within the limit of its event; and what is not SENT or QUEUED may be retried by hand. -/
inductive Life.Step (limit : EventType → Nat) : Option Life → Option Life → Prop
  | created (event) : Step limit none (some ⟨event, .pending, 0⟩)
  | queued {event status k} : status.Live → Step limit (some ⟨event, status, k⟩) (some ⟨event, .queued, k⟩)
  | sent {event k} : Step limit (some ⟨event, .queued, k⟩) (some ⟨event, .sent, k⟩)
  | failed {event status k} : status.Live → Step limit (some ⟨event, status, k⟩) (some ⟨event, .failed, k⟩)
  | retrying {event k} : k < limit event →
      Step limit (some ⟨event, .queued, k⟩) (some ⟨event, .retrying, k + 1⟩)
  | retried {event status k} : status ≠ .sent → status ≠ .queued →
      Step limit (some ⟨event, status, k⟩) (some ⟨event, .pending, k + 1⟩)

section Lives

variable {limit : EventType → Nat} {a b : Option Life}

/-- Nothing follows SENT. -/
theorem Life.Step.not_sent {life : Life} (h : Life.Step limit (some life) b) : life.status ≠ .sent := by
  intro sent
  cases h with
  | queued live =>
    cases sent
    exact live
  | failed live =>
    cases sent
    exact live
  | retried unsent _ => exact unsent sent
  | sent => cases sent
  | retrying _ => cases sent

theorem Life.Step.attempts_le {life life' : Life} (h : Life.Step limit (some life) (some life')) :
    life.event = life'.event ∧ life.attempts ≤ life'.attempts ∧ life'.attempts ≤ life.attempts + 1 := by
  cases h with
  | retrying _ => exact ⟨rfl, Nat.le_succ _, le_rfl⟩
  | retried _ _ => exact ⟨rfl, Nat.le_succ _, le_rfl⟩
  | _ => exact ⟨rfl, le_rfl, Nat.le_succ _⟩

/-- A run of the documented life. -/
abbrev Life.Run (limit : EventType → Nat) : Option Life → Option Life → Prop :=
  Transition.Reach (fun a (_ : Unit) b => Life.Step limit a b) fun _ _ => True

theorem Life.Step.isSome {life : Life} (h : Life.Step limit (some life) b) : ∃ life', b = some life' := by
  cases h <;> exact ⟨_, rfl⟩

/-- Along a run the event stays, the attempts do not go down, and nothing follows SENT. -/
theorem Life.Run.keeps {life : Life} (run : Life.Run limit (some life) b) :
    ∃ life', b = some life' ∧ life.event = life'.event ∧ life.attempts ≤ life'.attempts ∧
      (life.status = .sent → life' = life) := by
  induction run with
  | start => exact ⟨life, rfl, rfl, le_rfl, fun _ => rfl⟩
  | next _ _ step ih =>
    obtain ⟨mid, rfl, event, attempts, final⟩ := ih
    obtain ⟨life', rfl⟩ := step.isSome
    obtain ⟨event', attempts', _⟩ := step.attempts_le
    refine ⟨life', rfl, event.trans event', attempts.trans attempts', fun sent => ?_⟩
    have ended : mid.status = .sent := by rw [final sent, sent]
    exact absurd ended step.not_sent

end Lives

def Notification.life (r : Notification) : Life := ⟨r.eventType, r.status, r.retryCount⟩

def Config.limit (cfg : Config) (event : EventType) : Nat := (cfg.retryConfigFor event).maxRetries

section Steps

variable {cfg : Config} {j : Nat} {n n' : Note} {e : NoteLabel} {t : Task} {r : Notification}

/-- A dispatch commits to the row it loaded, a manual retry to one whose count it loaded. -/
theorem Note.Single.write_life (single : n.Single) (scheduled : n.Scheduled cfg) (here : t ∈ n.tasks)
    (row : n.row = some r) (current : t.countsOn r = true) :
    (t.write cfg r).life = r.life ∨ Life.Step cfg.limit (some r.life) (some (t.write cfg r).life) := by
  have coherent := single.coherent t here
  have scheduled := scheduled t here
  rcases t with pc | pc | pc | pc
  · cases pc with
    | commitQueued m =>
      obtain ⟨loaded, live⟩ := coherent
      cases row.symm.trans loaded
      have written : (Task.write cfg (.dispatch (.commitQueued r)) r).life =
          ⟨r.eventType, .queued, r.retryCount⟩ := by
        simp [Task.write, Notification.flush, Notification.markQueued, Notification.life]
      rw [written]
      exact Or.inr (.queued live)
    | commitSent m externalId now =>
      obtain ⟨loaded, queued⟩ := coherent
      cases row.symm.trans loaded
      have written : (Task.write cfg (.dispatch (.commitSent r externalId now)) r).life =
          ⟨r.eventType, .sent, r.retryCount⟩ := by
        simp [Task.write, Notification.flush, Notification.markSent, Notification.life]
      have before : r.life = ⟨r.eventType, .queued, r.retryCount⟩ := by rw [Notification.life, queued]
      rw [written, before]
      exact Or.inr .sent
    | commitFailed m code exhausted =>
      obtain ⟨loaded, live⟩ := coherent
      cases row.symm.trans loaded
      have written : (Task.write cfg (.dispatch (.commitFailed r code exhausted)) r).life =
          ⟨r.eventType, .failed, r.retryCount⟩ := by
        simp [Task.write, Notification.flush, Notification.markFailed, Notification.life]
      rw [written]
      exact Or.inr (.failed live)
    | commitRetrying m code count delay =>
      obtain ⟨loaded, queued⟩ := coherent
      cases row.symm.trans loaded
      obtain ⟨_, rfl, within⟩ := scheduled
      have written : (Task.write cfg (.dispatch (.commitRetrying r code (r.retryCount + 1) delay)) r).life =
          ⟨r.eventType, .retrying, r.retryCount + 1⟩ := by
        simp [Task.write, Notification.flush, Notification.markRetrying, Notification.life]
      have before : r.life = ⟨r.eventType, .queued, r.retryCount⟩ := by rw [Notification.life, queued]
      rw [written, before]
      exact Or.inr (.retrying within)
    | _ => exact Or.inl rfl
  · exact Or.inl rfl
  · cases pc with
    | commitPending m =>
      obtain ⟨known, unsent, unqueued⟩ := coherent
      obtain ⟨r', row', same⟩ := known
      cases row.symm.trans row'
      have status : (Task.write cfg (.retry (.commitPending m)) r).status = .pending := by
        rcases column_cases m.status NotificationStatus.pending r.status with written | ⟨is, kept⟩
        · exact written
        · rcases same with unchanged | pending
          · exact kept.trans (unchanged.trans is.symm)
          · exact kept.trans pending
      have count : (Task.write cfg (.retry (.commitPending m)) r).retryCount = m.retryCount + 1 :=
        column_of_ne (Nat.succ_ne_self m.retryCount)
      have event := Task.write_eventType cfg (.retry (.commitPending m)) r
      have written : (Task.write cfg (.retry (.commitPending m)) r).life =
          ⟨r.eventType, .pending, m.retryCount + 1⟩ := by rw [Notification.life, status, count, event]
      rw [written]
      have free : r.status ≠ .sent ∧ r.status ≠ .queued := by
        rcases same with unchanged | pending
        · exact ⟨fun h => unsent (unchanged.symm.trans h), fun h => unqueued (unchanged.symm.trans h)⟩
        · simp [pending]
      rw [show m.retryCount = r.retryCount from of_decide_eq_true current]
      exact Or.inr (.retried free.1 free.2)
    | _ => exact Or.inl rfl
  · exact Or.inl rfl

end Steps

/-- A plain failure at most, and every manual retry on its own and on the count it loaded. -/
def Sys.heeded (s : Sys) (l : Label) : Bool := s.infraOk l && s.retryAlone l && s.countsOn l

theorem seen_heeded {s : Sys} {l : Label} {j : Nat} {e : NoteLabel} (ok : s.heeded l = true)
    (seen : s.Seen j l e) : e.InfraOk ∧ (s.note j).RetryAlone e ∧ (s.note j).CountsOn e := by
  simp only [Sys.heeded, Bool.and_eq_true] at ok
  exact ⟨seen_infraOk ok.1.1 seen, seen_retryAlone ok.1.2 seen, seen_countsOn ok.2 seen⟩

/-- The row moves as documented, or not at all. -/
theorem Note.Single.life_step {cfg : Config} {j : Nat} {n n' : Note} {e : NoteLabel} (single : n.Single)
    (scheduled : n.Scheduled cfg) (current : n.CountsOn e) (h : Note.Step cfg j n e n') :
    n'.row.map Notification.life = n.row.map Notification.life ∨
      Life.Step cfg.limit (n.row.map Notification.life) (n'.row.map Notification.life) := by
  cases h with
  | inserted lost payload channel ctime unborn =>
    rw [unborn]
    exact Or.inr (.created payload.eventType)
  | @ran rest t fault env q tasks =>
    have here := Note.mem_running tasks
    have stored : (n.after rest (t.run cfg env j q n.row fault)).row =
        if fault.effect then n.row.map (t.write cfg) else n.row := Task.run_db cfg env j q n.row fault t
    rw [stored]
    split
    next =>
      cases row : n.row with
      | none => exact Or.inl rfl
      | some r =>
        rcases single.write_life scheduled here row (current r row) with same | moved
        · exact Or.inl (congrArg some same)
        · exact Or.inr moved
    next => exact Or.inl rfl
  | _ => exact Or.inl rfl

structure Note.Lively (cfg : Config) (n : Note) : Prop where
  single : n.Single
  scheduled : n.Scheduled cfg

/-- What a step of a careful run is for a notification. -/
def Note.Heeds (n : Note) (e : NoteLabel) : Prop := e.InfraOk ∧ n.RetryAlone e ∧ n.CountsOn e

theorem Note.Lively.step {cfg : Config} {j : Nat} {n n' : Note} {e : NoteLabel} (lively : n.Lively cfg)
    (careful : n.Heeds e) (h : Note.Step cfg j n e n') : n'.Lively cfg :=
  ⟨lively.single.step careful.1 careful.2.1 h, lively.scheduled.step h⟩

def Note.life (n : Note) : Option Life := n.row.map Notification.life

theorem Note.Lively.reach {cfg : Config} {j : Nat} {n n' : Note} (lively : n.Lively cfg)
    (h : Transition.Reach (Note.Step cfg j) Note.Heeds n n') :
    n'.Lively cfg ∧ Life.Run cfg.limit n.life n'.life := by
  have kept {m : Note} (h : Transition.Reach (Note.Step cfg j) Note.Heeds n m) : m.Lively cfg :=
    h.invariant lively fun _ _ _ lively careful step => lively.step careful step
  refine ⟨kept h, h.project Note.life ?_⟩
  intro a e b reached careful step
  have lively := kept reached
  rcases lively.single.life_step lively.scheduled careful.2.2 step with same | moved
  · exact Or.inl same
  · exact Or.inr ⟨(), trivial, moved⟩

/-- Each run of the service in which no infrastructure call fails and manual retries are made on their own
is, for each notification, a run of its documented life. -/
theorem life_refined {cfg : Config} {s s' : Sys} (id : Nat)
    (run : Sys.Reach cfg (fun s l => s.heeded l = true) .initial s)
    (later : Sys.Reach cfg (fun s l => s.heeded l = true) s s') :
    Life.Run cfg.limit none ((s.world.rows id).map Notification.life) ∧
      Life.Run cfg.limit ((s.world.rows id).map Notification.life)
        ((s'.world.rows id).map Notification.life) := by
  have born : Note.absent.Lively cfg := ⟨Note.absent_single, Note.absent_scheduled cfg⟩
  have before : Transition.Reach (Note.Step cfg id) Note.Heeds Note.absent (s.note id) :=
    note_reach (fun _ _ _ ok seen => seen_heeded ok seen) run
  have after : Transition.Reach (Note.Step cfg id) Note.Heeds (s.note id) (s'.note id) :=
    note_reach_from (reach_fresh (fun _ _ => rfl) run) (fun _ _ _ ok seen => seen_heeded ok seen) later
  obtain ⟨lively, first⟩ := born.reach before
  exact ⟨first, (lively.reach after).2⟩

/-- An OTP is sent at its second attempt, after a manual retry was refused. -/
theorem life_refined_retried : ∃ s s' r r',
    Sys.Reach defaultConfig (fun s l => s.heeded l = true) .initial s ∧
      Sys.Reach defaultConfig (fun s l => s.heeded l = true) s s' ∧
      s.world.rows 1 = some r ∧ s'.world.rows 1 = some r' ∧
      r.life.status = .retrying ∧ r'.life.status = .sent ∧ r'.life.attempts = 1 ∧
      Life.Run defaultConfig.limit (some r.life) (some r'.life) := by
  have ran : ((Transition.trace (Sys.step defaultConfig) Sys.heeded .initial
      ([.createNotification otpRequest] ++ calls 0 5 (accepting false) ++ [.dequeue .none] ++
        calls 1 10 (accepting false))).bind fun s =>
          (Transition.trace (Sys.step defaultConfig) Sys.heeded s ([.expire 1000000, .deliver] ++
            calls 2 3 (accepting true) ++ [.dequeue .none] ++ calls 3 4 (accepting true) ++
            [.retryNotification 1] ++ calls 4 2 (accepting true) ++ calls 3 4 (accepting true))).bind fun s' =>
              (s.world.rows 1).bind fun r => (s'.world.rows 1).map fun r' =>
                decide (r.status = .retrying ∧ r'.status = .sent ∧ r'.retryCount = 1)) = some true := by
    decide +kernel
  obtain ⟨s, hs, ran⟩ := Option.bind_eq_some_iff.mp ran
  obtain ⟨s', hs', ran⟩ := Option.bind_eq_some_iff.mp ran
  obtain ⟨r, row, ran⟩ := Option.bind_eq_some_iff.mp ran
  obtain ⟨r', row', facts⟩ := Option.map_eq_some_iff.mp ran
  obtain ⟨retrying, sent, one⟩ := of_decide_eq_true facts
  have run := Transition.trace_reach Transition.Reach.start hs
  have later := Transition.trace_reach Transition.Reach.start hs'
  have lives := (life_refined 1 run later).2
  rw [row, row'] at lives
  exact ⟨s, s', r, r', run, later, row, row', retrying, sent, one, lives⟩

end NotificationEngine
