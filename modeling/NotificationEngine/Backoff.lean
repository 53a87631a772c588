import NotificationEngine.Clocked
import NotificationEngine.LoggedRuns
import NotificationEngine.RetryBudget
import NotificationEngine.RetryWindows
import NotificationEngine.RunConditions

namespace NotificationEngine

/-- A call of an operation is one of its task, or leaves every queue as it is. -/
theorem Op.run_cases (cfg : Config) (env : Env) (w : World) (fault : Fault) (op : Op) :
    (∃ id t, op.taskOf id = some t ∧
      (op.run cfg env w fault).1 = w.apply id (t.run cfg env id w.service (w.rows id) fault)) ∨
    (∀ id, op.taskOf id = none) ∧
      ∃ rows nextId idemKeys, (op.run cfg env w fault).1 = { w with rows, nextId, idemKeys } := by
  cases op with
  | create c =>
    by_cases saves : ∃ id pc rest, c.pc = .saving id pc rest
    · obtain ⟨id, pc, rest, hc⟩ := saves
      exact Or.inl ⟨id, .saving pc, by simp [Op.taskOf, hc], (create_run_saving cfg env w fault hc).1⟩
    · have acted : ∃ rows nextId idemKeys, (c.act cfg env w).1 = { w with rows, nextId, idemKeys } := by
        cases hc : c.pc with
        | saving id pc rest => exact absurd ⟨id, pc, rest, hc⟩ saves
        | setnx =>
          simp only [CreateOp.act, hc]
          split <;> exact ⟨_, _, _, rfl⟩
        | insert channel rest =>
          simp only [CreateOp.act, hc]
          split <;> exact ⟨_, _, _, rfl⟩
        | _ =>
          simp only [CreateOp.act, hc]
          exact ⟨_, _, _, rfl⟩
      refine Or.inr ⟨fun id => create_taskOf id c fun id pc rest hc => saves ⟨id, pc, rest, hc⟩, ?_⟩
      simp only [Op.run, CreateOp.run_world]
      split
      next => exact acted
      next => exact ⟨_, _, _, rfl⟩
  | task id t => exact Or.inl ⟨id, t, by simp [Op.taskOf], rfl⟩
  | done => exact Or.inr ⟨fun _ => rfl, _, _, _, rfl⟩

/-- All that a step without a call touches. -/
theorem Sys.step_parks {cfg : Config} {s s' : Sys} {l : Label} (h : s.step cfg l = some s')
    (called : ∀ i fault env, l ≠ .run i fault env) :
    ∃ queue retryQueue retryResult idemKeys service,
      s'.world = { s.world with queue, retryQueue, retryResult, idemKeys, service } := by
  cases l with
  | run i fault env => exact absurd rfl (called i fault env)
  | dequeue fault =>
    simp only [Sys.step] at h
    split at h
    next => cases Option.some.inj h; exact ⟨_, _, _, _, _, rfl⟩
    next =>
      split at h
      next => cases Option.some.inj h; exact ⟨_, _, _, _, _, rfl⟩
      next => split at h <;> cases Option.some.inj h <;> exact ⟨_, _, _, _, _, rfl⟩
  | expire now =>
    simp only [Sys.step] at h
    split at h
    next => cases h
    next =>
      split at h
      next => cases Option.some.inj h; exact ⟨_, _, _, _, _, rfl⟩
      next => cases h
  | deliver =>
    simp only [Sys.step] at h
    split at h
    next => cases h
    next => cases Option.some.inj h; exact ⟨_, _, _, _, _, rfl⟩
  | _ => cases Option.some.inj h; exact ⟨_, _, _, _, _, rfl⟩

/-- A retry message stays in `notification.retry` until its deadline. -/
theorem Sys.step_waiting {cfg : Config} {s s' : Sys} {l : Label} {m : RetryMessage}
    (h : s.step cfg l = some s') (waits : m ∈ s.world.retryQueue) :
    m ∈ s'.world.retryQueue ∨ ∃ now, l = .expire now ∧ m.deadline ≤ now := by
  cases l with
  | run i fault env =>
    obtain ⟨op, hop, rfl⟩ := Option.map_eq_some_iff.mp h
    rcases Op.run_cases cfg env s.world fault op with ⟨id, t, _, ran⟩ | ⟨_, rows, nextId, idemKeys, ran⟩
    · rw [ran]
      exact Or.inl (List.mem_append_left _ waits)
    · rw [ran]
      exact Or.inl waits
  | expire now =>
    simp only [Sys.step] at h
    split at h
    next => cases h
    next first rest queue =>
      split at h
      next due =>
        cases Option.some.inj h
        rw [queue] at waits
        rcases List.mem_cons.mp waits with rfl | later
        · exact Or.inr ⟨now, rfl, due⟩
        · exact Or.inl later
      next => cases h
  | dequeue fault =>
    simp only [Sys.step] at h
    split at h
    next => cases Option.some.inj h; exact Or.inl waits
    next =>
      split at h
      next => cases Option.some.inj h; exact Or.inl waits
      next => split at h <;> cases Option.some.inj h <;> exact Or.inl waits
  | deliver =>
    simp only [Sys.step] at h
    split at h
    next => cases h
    next => cases Option.some.inj h; exact Or.inl waits
  | _ => cases Option.some.inj h; exact Or.inl waits

/-- The shortest delay before the row's next attempt. -/
def Config.backoff (cfg : Config) (r : Notification) : Nat :=
  let config := cfg.retryConfigFor r.eventType
  min (config.baseDelay * 2 ^ (r.retryCount - 1)) config.maxDelay

/-- The delay of the retry that a task is about to publish. -/
def Task.backsOff : Task → Option Nat
  | dispatch (.refreshRetrying delay) => some delay
  | dispatch (.publishing delay _) => some delay
  | _ => none

/-- One carrier at most, and a retry about to be published waits for the backoff of its row. -/
structure Note.Patient (cfg : Config) (n : Note) : Prop where
  single : n.Single
  delayed : n.Delayed cfg
  within : ∀ t ∈ n.tasks, ∀ delay, t.backsOff = some delay → ∀ r, n.row = some r → cfg.backoff r ≤ delay

section Steps

variable {cfg : Config} {env : Env} {q : QueueService} {j delay : Nat} {n n' : Note} {e : NoteLabel}
  {t u : Task} {rest : Multiset Task} {fault : Fault}

theorem Task.carries_of_backsOff (h : u.backsOff = some delay) : u.carries = true := by
  rcases u with pc | pc | pc | pc
  · cases pc <;> first | rfl | cases h
  · cases h
  · cases h
  · cases h

/-- A call that is made beside a carrier leaves the row alone. -/
theorem Note.Single.unchanged (single : n.Single) (tasks : n.tasks = t ::ₘ rest) (there : u ∈ rest)
    (carries : u.carries = true) (infra : (NoteLabel.ran t fault env q).InfraOk) :
    (t.run cfg env j q n.row fault).db = n.row := by
  have rests (h : n.AtRest) : False := by
    rw [h.2.2 u (Note.mem_resting tasks there)] at carries
    cases carries
  have idle : t.holds = false := by
    cases own : t.carries with
    | true =>
      obtain ⟨_, _, _, others⟩ := single.alone tasks own
      rw [Task.carries_of_holds (others u there)] at carries
      cases carries
    | false =>
      cases resends : t.resends with
      | true => exact absurd (single.resent ⟨t, Note.mem_running tasks, resends⟩) rests
      | false => simp [Task.holds, own, resends]
  rcases infra with rfl | ⟨provider, _, _⟩
  · exact (Task.act_idle idle).unchanged
  · cases (Task.carries_of_callsProvider provider).symm.trans (Task.carries_of_holds idle)

/-- The delay of a retry was drawn for the count that its commit stores. -/
theorem Config.backoff_markRetrying {n : Notification} {code : NotificationErrorCode} {count : Nat}
    (delayed : (Task.dispatch (.commitRetrying n code count delay)).Delayed cfg) :
    cfg.backoff (n.flush (n.markRetrying code count) n) ≤ delay := by
  obtain ⟨first, draw, given⟩ := delayed
  have counted : (n.flush (n.markRetrying code count) n).retryCount = count :=
    SnapshotWrite.column_fresh n.retryCount count
  have same : (n.flush (n.markRetrying code count) n).eventType = n.eventType := rfl
  rw [getRetryDelay_cast _ _ _ _ first] at given
  obtain ⟨drawn, got, is⟩ := Option.map_eq_some_iff.mp given
  cases Int.ofNat_inj.mp is
  simp only [Config.backoff, counted, same]
  unfold getRetryDelay at got
  simp only at got
  split at got
  next =>
    unfold randint at got
    split at got
    next => cases got; exact Nat.le_add_right _ _
    next => cases got
  next => cases got; exact Nat.le_refl _

theorem Task.run_db_of_silent {db : Option Notification} (silent : ∀ r, t.write cfg r = r) :
    (t.run cfg env j q db fault).db = db := by
  have same : t.write cfg = id := funext silent
  rw [Task.run_db, same, Option.map_id]
  split <;> rfl

theorem Note.Patient.ran (patient : n.Patient cfg) (tasks : n.tasks = t ::ₘ rest)
    (infra : (NoteLabel.ran t fault env q).InfraOk)
    (next : (t.run cfg env j q n.row fault).next = some u) (backsOff : u.backsOff = some delay) :
    ∀ r, (t.run cfg env j q n.row fault).db = some r → cfg.backoff r ≤ delay := by
  have here := Note.mem_running tasks
  intro r row
  have goes := Task.run_goes next
  have heard : fault = .none ∨ t.callsProvider = true := infra.imp id And.left
  cases goes with
  | @retrying m code count _ =>
    cases backsOff
    rcases heard with rfl | provider
    · obtain ⟨stored, _⟩ := patient.single.coherent _ here
      rw [show (Task.run cfg env j q n.row .none (.dispatch (.commitRetrying m code count delay))).db =
        commit n.row m (m.markRetrying code count) from rfl, stored] at row
      cases row
      exact Config.backoff_markRetrying (patient.delayed _ here)
    · cases provider
  | connecting =>
    cases backsOff
    rw [Task.run_db_of_silent fun _ => rfl] at row
    exact patient.within _ here delay rfl r row
  | publishing =>
    cases backsOff
    rw [Task.run_db_of_silent fun _ => rfl] at row
    exact patient.within _ here delay rfl r row
  | _ => cases backsOff

theorem Note.Patient.step (patient : n.Patient cfg) (infra : e.InfraOk) (alone : n.RetryAlone e)
    (h : Note.Step cfg j n e n') : n'.Patient cfg := by
  refine ⟨patient.single.step infra alone h, patient.delayed.step h, fun u mem delay backsOff r row => ?_⟩
  cases h with
  | requested =>
    rcases Multiset.mem_cons.mp mem with rfl | there
    · cases backsOff
    · exact patient.within u there delay backsOff r row
  | dequeued lost _ =>
    rcases Holders.mem_put.mp mem with popped | there
    · cases lost <;> cases popped
      cases backsOff
    · exact patient.within u there delay backsOff r row
  | expired _ => exact patient.within u mem delay backsOff r row
  | delivered _ =>
    rcases Multiset.mem_cons.mp mem with rfl | there
    · cases backsOff
    · exact patient.within u there delay backsOff r row
  | inserted lost payload channel ctime unborn =>
    rcases Holders.mem_put.mp mem with saving | there
    · cases lost <;> cases saving
      cases backsOff
    · have carries := Task.carries_of_backsOff backsOff
      obtain ⟨_, _, _, idle⟩ := patient.single.unheld (by rw [unborn]; exact not_rowIs_none _)
      rw [Task.carries_of_holds (idle u there)] at carries
      cases carries
  | ran t fault env q tasks =>
    rcases Note.mem_after.mp mem with next | there
    · exact patient.ran tasks infra next backsOff r row
    · have kept : (t.run cfg env j q n.row fault).db = n.row :=
        patient.single.unchanged tasks there (Task.carries_of_backsOff backsOff) infra
      exact patient.within u (Note.mem_resting tasks there) delay backsOff r (kept.symm.trans row)

theorem Note.absent_patient (cfg : Config) : Note.absent.Patient cfg where
  single := Note.absent_single
  delayed := Note.absent_delayed cfg
  within t ht := absurd ht (Multiset.notMem_zero t)

end Steps

/-- The retry message that a step publishes, and the row it is about. -/
def Sys.publication (s : Sys) : Label → Option (RetryMessage × Notification)
  | .run i fault env => match s.ops[i]? with
    | some (.task id t) =>
      if fault.effect then (t.publishes env id).bind fun m => (s.world.rows id).map fun r => (m, r) else none
    | _ => none
  | _ => none

/-- The notification whose provider a step calls, and when. -/
def Sys.attempt (s : Sys) : Label → Option (Nat × Int)
  | .run i _ env => match s.ops[i]? with
    | some (.task id t) => if t.callsProvider then some (id, env.now) else none
    | _ => none
  | _ => none

/-- The service with its clock, and all the retries it published. -/
def Sys.retries (cfg : Config) : Transition.Recorder Sys Label (RetryMessage × Notification) where
  step := Sys.step cfg
  instant := Label.instant
  entry := Sys.publication

/-- No infrastructure call fails, manual retries are made on their own, and the clock does not go back. -/
def Sys.unhurried (cfg : Config) (a : Transition.Logged Sys (RetryMessage × Notification)) (l : Label) : Bool :=
  a.state.infraOk l && a.state.retryAlone l && (Sys.retries cfg).ticks a l

/-- A retry was delayed for as long as its row's backoff, and it waits until its deadline. -/
def Sys.Delays (cfg : Config) (s : Sys) (clock : Int) (x : RetryMessage × Notification) : Prop :=
  cfg.backoff x.2 ≤ x.1.delay ∧ (x.1.deadline ≤ clock ∨ x.1 ∈ s.world.retryQueue)

section Runs

variable {cfg : Config} {start : Int} {a b : Transition.Logged Sys (RetryMessage × Notification)} {l : Label}

theorem reach_patient (id : Nat)
    (run : (Sys.retries cfg).Reach (fun a l => Sys.unhurried cfg a l = true) ⟨.initial, start, []⟩ a) :
    (a.state.note id).Patient cfg := by
  have unlogged : Sys.Reach cfg (fun s l => (s.infraOk l && s.retryAlone l) = true) .initial a.state :=
    Transition.Recorder.Reach.unlogged (fun a l ok => (Bool.and_eq_true_iff.mp ok).1) run
  have noted : Transition.Reach (Note.Step cfg id) (fun n e => e.InfraOk ∧ n.RetryAlone e) Note.absent
      (a.state.note id) := by
    refine note_reach (fun s l e ok seen => ?_) unlogged
    obtain ⟨infra, alone⟩ := Bool.and_eq_true_iff.mp ok
    exact ⟨seen_infraOk infra seen, seen_retryAlone alone seen⟩
  exact noted.invariant (Note.absent_patient cfg) fun _ _ _ patient ok step => patient.step ok.1 ok.2 step

theorem Sys.publication_eq_some {s : Sys} {m : RetryMessage} {r : Notification}
    (h : s.publication l = some (m, r)) : ∃ i fault env id t, l = .run i fault env ∧
      s.ops[i]? = some (.task id t) ∧ fault.effect = true ∧ t.publishes env id = some m ∧
        s.world.rows id = some r := by
  unfold Sys.publication at h
  split at h
  next i fault env =>
    split at h
    next id t hop =>
      split at h
      next effect =>
        obtain ⟨m, publishes, h⟩ := Option.bind_eq_some_iff.mp h
        obtain ⟨r, row, h⟩ := Option.map_eq_some_iff.mp h
        cases h
        exact ⟨i, fault, env, id, t, rfl, hop, effect, publishes, row⟩
      next => cases h
    next => cases h
  next => cases h

theorem Task.publishes_eq_some {env : Env} {id : Nat} {t : Task} {m : RetryMessage}
    (h : t.publishes env id = some m) :
    t = .dispatch (.publishing m.delay .publish) ∧ m = ⟨id, env.now, m.delay⟩ := by
  unfold Task.publishes at h
  split at h
  next delay pc =>
    split at h
    next own =>
      cases h
      exact ⟨by rw [own], rfl⟩
    next => cases h
  next => cases h

/-- What is published waits for the backoff of its row. -/
theorem Sys.publication_delays {s s' : Sys} {x : RetryMessage × Notification} (clock : Int)
    (patient : ∀ id, (s.note id).Patient cfg) (h : s.step cfg l = some s') (published : s.publication l = some x) :
    Sys.Delays cfg s' clock x := by
  obtain ⟨m, r⟩ := x
  obtain ⟨i, fault, env, id, t, rfl, hop, effect, publishes, row⟩ := Sys.publication_eq_some published
  obtain ⟨rfl, is⟩ := Task.publishes_eq_some publishes
  have here : Task.dispatch (.publishing m.delay .publish) ∈ (s.note id).tasks :=
    List.mem_filterMap.mpr ⟨_, List.mem_of_getElem? hop, by simp [Op.taskOf]⟩
  refine ⟨(patient id).within _ here m.delay rfl r row, Or.inr ?_⟩
  simp only [Sys.step, hop, Option.map_some, Option.some.injEq] at h
  subst h
  simp only [Op.run, World.apply, Task.run_published, effect, if_true, publishes]
  exact List.mem_append_right _ (List.mem_singleton_self m)

/-- What a call adds to the history of published retries. -/
theorem Task.run_publication {id : Nat} {t : Task} {fault : Fault} {env : Env} {w : World} {m : RetryMessage}
    (effect : fault.effect = true) (publishes : t.publishes env id = some m) :
    (w.apply id (t.run cfg env id w.service (w.rows id) fault)).published = w.published ++ [id] := by
  simp [World.apply, Task.run_published, effect, publishes]

theorem Task.run_unpublished {id : Nat} {t : Task} {fault : Fault} {env : Env} {w : World}
    (silent : fault.effect = true → t.publishes env id = none) :
    (w.apply id (t.run cfg env id w.service (w.rows id) fault)).published = w.published := by
  simp only [World.apply, Task.run_published]
  cases effect : fault.effect with
  | false => rfl
  | true => simp [silent effect]

/-- While nothing hurries, every retry message is in the log. -/
theorem Sys.step_published {s s' : Sys} (patient : ∀ id, (s.note id).Patient cfg) (h : s.step cfg l = some s') :
    s'.world.published = s.world.published ++ (s.publication l).toList.map (·.1.notificationId) := by
  cases l with
  | run i fault env =>
    obtain ⟨op, hop, rfl⟩ := Option.map_eq_some_iff.mp h
    rcases Op.run_cases cfg env s.world fault op with ⟨id, t, own, ran⟩ | ⟨idle, rows, nextId, idemKeys, ran⟩
    · rcases taskOf_eq_some own with rfl | ⟨c, pc, rest, rfl, _, rfl⟩
      · by_cases publishes : fault.effect = true ∧ ∃ m, t.publishes env id = some m
        · obtain ⟨effect, m, publishes⟩ := publishes
          obtain ⟨rfl, is⟩ := Task.publishes_eq_some publishes
          have here : Task.dispatch (.publishing m.delay .publish) ∈ (s.note id).tasks :=
            List.mem_filterMap.mpr ⟨_, List.mem_of_getElem? hop, by simp [Op.taskOf]⟩
          obtain ⟨r, row, _⟩ := (patient id).single.coherent _ here
          have row : s.world.rows id = some r := row
          have about : m.notificationId = id := by rw [is]
          have logged : s.publication (.run i fault env) = some (m, r) := by
            simp [Sys.publication, hop, effect, publishes, row]
          simp only [ran, logged, Task.run_publication effect publishes, Option.toList_some, List.map_cons,
            List.map_nil, about]
        · have silent (effect : fault.effect = true) : t.publishes env id = none :=
            Option.eq_none_iff_forall_ne_some.mpr fun m is => publishes ⟨effect, m, is⟩
          have unlogged : s.publication (.run i fault env) = none := by
            simp only [Sys.publication, hop]
            split
            next effect => rw [silent effect]; rfl
            next => rfl
          simp only [ran, unlogged, Task.run_unpublished silent, Option.toList_none, List.map_nil, List.append_nil]
      · have silent (effect : fault.effect = true) : (Task.saving pc).publishes env id = none := rfl
        have unlogged : s.publication (.run i fault env) = none := by simp [Sys.publication, hop]
        simp only [ran, unlogged, Task.run_unpublished silent, Option.toList_none, List.map_nil, List.append_nil]
    · have unlogged : s.publication (.run i fault env) = none := by
        cases op with
        | task id t => cases (if_pos rfl).symm.trans (idle id)
        | _ => simp [Sys.publication, hop]
      simp only [ran, unlogged, Option.toList_none, List.map_nil, List.append_nil]
  | _ =>
    obtain ⟨_, _, _, _, _, world⟩ := Sys.step_parks h fun _ _ _ is => by cases is
    rw [world]
    exact (List.append_nil _).symm

/-- When the provider of a notification is called, none of its retries still waits. -/
theorem Sys.attempt_unparked {s : Sys} {id : Nat} {now : Int} (patient : (s.note id).Patient cfg)
    (attempt : s.attempt l = some (id, now)) :
    l.instant = some now ∧ ∀ m ∈ s.world.retryQueue, m.notificationId ≠ id := by
  unfold Sys.attempt at attempt
  split at attempt
  next i fault env =>
    split at attempt
    next own t hop =>
      split at attempt
      next provider =>
        cases attempt
        have here : t ∈ (s.note id).tasks :=
          List.mem_filterMap.mpr ⟨_, List.mem_of_getElem? hop, by simp [Op.taskOf]⟩
        obtain ⟨rest, tasks⟩ := Multiset.exists_cons_of_mem here
        obtain ⟨_, waiting, _, _⟩ := patient.single.alone tasks (Task.carries_of_callsProvider provider)
        exact ⟨rfl, fun m mem about => List.countP_eq_zero.mp waiting m mem (decide_eq_true about)⟩
      next => cases attempt
    next => cases attempt
  next => cases attempt

end Runs

/-- As long as no infrastructure call fails and manual retries are made on their own: no provider is asked
about a notification again before the backoff of each of its retries has passed since it was published. -/
theorem backoff_respected {cfg : Config} {start : Int} {a : Transition.Logged Sys (RetryMessage × Notification)}
    (run : (Sys.retries cfg).Reach (fun a l => Sys.unhurried cfg a l = true) ⟨.initial, start, []⟩ a) :
    a.log.map (·.1.notificationId) = a.state.world.published ∧
      ∀ l id now, Sys.unhurried cfg a l = true → a.state.attempt l = some (id, now) →
        ∀ m r, (m, r) ∈ a.log → m.notificationId = id → m.publishedAt + 1000 * cfg.backoff r ≤ now := by
  constructor
  · induction run with
    | start => rfl
    | @next a b l reached ok step ih =>
      obtain ⟨step, _, log⟩ := Transition.Recorder.next_eq_some step
      rw [log, List.map_append, ih, Sys.step_published (fun id => reach_patient id reached) step]
      rfl
  · intro l id now ok attempt m r mem about
    have delays : Sys.Delays cfg a.state a.clock (m, r) := by
      refine run.entries rfl ?_ ?_ (m, r) mem
      · intro b l c x reached _ step entry
        exact Sys.publication_delays c.clock (fun id => reach_patient id reached)
          (Transition.Recorder.next_eq_some step).1 entry
      · intro b l c x _ ok step delays
        obtain ⟨step, clock, _⟩ := Transition.Recorder.next_eq_some step
        have later := Transition.Recorder.clock_le (Bool.and_eq_true_iff.mp ok).2
        refine ⟨delays.1, ?_⟩
        rcases delays.2 with past | waits
        · exact Or.inl (by omega)
        · rcases Sys.step_waiting step waits with still | ⟨now, rfl, due⟩
          · exact Or.inr still
          · rw [clock]
            exact Or.inl due
    obtain ⟨instant, gone⟩ := Sys.attempt_unparked (reach_patient id run) attempt
    have later := Transition.Recorder.clock_le (Bool.and_eq_true_iff.mp ok).2
    have read : (Sys.retries cfg).instant l = some now := instant
    rw [read, Option.getD_some] at later
    rcases delays.2 with past | waits
    · have enough : (cfg.backoff r : Int) ≤ m.delay := Int.ofNat_le.mpr delays.1
      have past : m.publishedAt + 1000 * m.delay ≤ a.clock := past
      omega
    · exact absurd about (gone m waits)

/-- The second attempt of an OTP whose provider was down, five seconds after the first. -/
def secondAttempt : List Label :=
  firstRetry ++ [.expire 105000, .deliver] ++ calls 2 3 { accepting true with now := 105000 } ++ [.dequeue .none] ++
    calls 3 3 { accepting true with now := 105000 }

theorem backoff_respected_secondAttempt : ∃ a m r,
    (Sys.retries defaultConfig).Reach (fun a l => Sys.unhurried defaultConfig a l = true) ⟨.initial, 0, []⟩ a ∧
      a.log = [(m, r)] ∧ m.publishedAt = 100000 ∧ defaultConfig.backoff r = 5 ∧
      a.state.attempt (.run 3 .none { accepting true with now := 105000 }) = some (1, 105000) ∧
      m.publishedAt + 1000 * defaultConfig.backoff r ≤ 105000 := by
  have ran : (Transition.trace (Sys.retries defaultConfig).next (Sys.unhurried defaultConfig) ⟨.initial, 0, []⟩
      secondAttempt).map (fun a =>
        (a.log.map fun x => (x.1.notificationId, x.1.publishedAt, defaultConfig.backoff x.2),
          a.state.attempt (.run 3 .none { accepting true with now := 105000 }),
          Sys.unhurried defaultConfig a (.run 3 .none { accepting true with now := 105000 }))) =
      some ([(1, 100000, 5)], some (1, 105000), true) := by decide +kernel
  obtain ⟨a, reached, facts⟩ := Option.map_eq_some_iff.mp ran
  simp only [Prod.mk.injEq] at facts
  obtain ⟨logged, attempt, ok⟩ := facts
  obtain ⟨⟨m, r⟩, log, about⟩ := List.map_eq_singleton_iff.mp logged
  simp only [Prod.mk.injEq] at about
  obtain ⟨own, published, backoff⟩ := about
  have run : (Sys.retries defaultConfig).Reach (fun a l => Sys.unhurried defaultConfig a l = true)
      ⟨.initial, 0, []⟩ a := Transition.trace_reach .start reached
  have mem : (m, r) ∈ a.log := by
    rw [log]
    exact List.mem_singleton_self _
  exact ⟨a, m, r, run, log, published, backoff, attempt,
    (backoff_respected run).2 _ 1 105000 ok attempt m r mem own⟩

end NotificationEngine
