import NotificationEngine.Clocked

namespace NotificationEngine

open SnapshotWrite

/-- No call fails and no process stops. -/
def Label.faultless : Label → Bool
  | dequeue fault => fault = .none
  | restart => false
  | run _ fault _ => fault = .none
  | _ => true

/-- A run of the service without failures, by a clock that does not go back. -/
def Clocked.regular (c : Clocked) (l : Label) : Bool := l.faultless && c.ticks l

/-- The awaited call does not ask what the deployment fixes. -/
def Task.unconfigured (env : Env) : Task → Bool
  | dispatch (.health _) => env.healthy
  | dispatch (.send _) => env.result.success
  | dispatch (.commitSent _ _ _) => false
  | dispatch (.refreshRetrying _) => false
  | _ => true

def Sys.unconfigured (s : Sys) : Label → Bool
  | .run i _ env => match s.ops[i]? with
    | some (.task _ t) => t.unconfigured env
    | _ => true
  | _ => true

section Deployments

variable (cfg cfg' : Config) {env : Env}

theorem Task.act_unconfigured {t : Task} (free : t.unconfigured env = true) (id : Nat) (q : QueueService)
    (db : Option Notification) : t.act cfg env id q db = t.act cfg' env id q db := by
  rcases t with pc | pc | pc | pc
  · cases pc with
    | health n =>
      have healthy : env.healthy = true := free
      simp [Task.act, DispatchPc.act, healthy]
    | send n =>
      have success : env.result.success = true := free
      simp [Task.act, DispatchPc.act, afterSend, success]
    | commitSent n externalId now => cases free
    | refreshRetrying delay => cases free
    | _ => rfl
  · rfl
  · rfl
  · rfl

theorem CreateOp.act_unconfigured (c : CreateOp) (w : World) : c.act cfg env w = c.act cfg' env w := by
  cases pc : c.pc with
  | saving id saving rest => simp only [CreateOp.act, pc, Task.act]
  | _ => simp only [CreateOp.act, pc]

theorem Sys.step_unconfigured {s : Sys} {l : Label} (free : s.unconfigured l = true) :
    s.step cfg l = s.step cfg' l := by
  cases l with
  | run i fault env =>
    simp only [Sys.step]
    cases hop : s.ops[i]? with
    | none => rfl
    | some op =>
      have same : op.run cfg env s.world fault = op.run cfg' env s.world fault := by
        cases op with
        | create c =>
          cases fault <;> simp only [Op.run, CreateOp.run, CreateOp.act_unconfigured cfg cfg']
        | task id t =>
          simp only [Sys.unconfigured, hop] at free
          cases fault <;> simp only [Op.run, Task.run, Task.unanswered, Task.act_unconfigured cfg cfg' free]
        | done => rfl
      rw [Option.map_some, Option.map_some, same]
  | _ => rfl

/-- What happens before the first call that asks for it, happens in every deployment. -/
theorem Clocked.reach_unconfigured {ok : Clocked → Label → Prop} {c c' : Clocked}
    (free : ∀ c l, ok c l → c.sys.unconfigured l = true) (h : Clocked.Reach cfg ok c c') :
    Clocked.Reach cfg' ok c c' := by
  refine h.project id fun c l c' _ admitted step => Or.inr ⟨l, admitted, ?_⟩
  have same := Sys.step_unconfigured cfg cfg' (free c l admitted)
  simpa [Clocked.step, same] using step

end Deployments

/-- The commit of `_mark_sent` that an operation awaits: the row, its `stime` as loaded, and the
instant at which `_mark_sent` ran. -/
def Op.sending : Op → Option (Nat × Option Int × Int)
  | task id (.dispatch (.commitSent n _ now)) => some (id, n.stime, now)
  | _ => none

theorem Op.sending_eq_some {op : Op} {id : Nat} {loaded : Option Int} {now : Int}
    (h : op.sending = some (id, loaded, now)) :
    ∃ n externalId, op = .task id (.dispatch (.commitSent n externalId now)) ∧ n.stime = loaded := by
  unfold Op.sending at h
  split at h
  next id n externalId now =>
    cases h
    exact ⟨n, externalId, rfl, rfl⟩
  next => cases h

theorem Clocked.step_sending (cfg : Config) (env : Env) {c : Clocked} {i id : Nat} {r n : Notification}
    {externalId : Option String} {now : Int}
    (hop : c.sys.ops[i]? = some (.task id (.dispatch (.commitSent n externalId now))))
    (row : c.sys.world.rows id = some r) (unset : n.stime = none) :
    ∃ c' r', c.step cfg (.run i .none env) = some c' ∧ c'.sys.world.rows id = some r' ∧
      r'.stime = some (cfg.storedStime now) ∧ c'.marks = c.marks := by
  let o := (Task.dispatch (.commitSent n externalId now)).run cfg env id c.sys.world.service
    (c.sys.world.rows id) .none
  have stored : (c.sys.world.apply id o).rows id = some (n.flush (n.markSent cfg externalId now) r) := by
    simp [World.apply, o, Task.run, Task.act, DispatchPc.act, commit, row]
  have unmarked : c.sys.marksSent (.run i .none env) = none := by
    simp [Sys.marksSent, hop, Task.marksSent]
  refine ⟨⟨⟨c.sys.world.apply id o, c.sys.ops.set i (.ofNext id o.next)⟩, env.now, c.marks⟩, _, ?_, stored,
    column_of_ne (by simp [Notification.markSent, unset]), rfl⟩
  simp only [Clocked.step, Sys.step, hop, unmarked, Option.map_some, Option.toList_none, List.append_nil]
  rfl

/-- An OTP created at 100000 whose `_mark_sent` runs at 160000, up to its commit. -/
def otpSending : List Label :=
  [.createNotification otpRequest] ++ calls 0 5 (accepting true) ++ [.dequeue .none] ++
    calls 1 5 { accepting true with now := 160000 }

theorem otpSending_reached (cfg : Config) : ∃ c r n externalId,
    Clocked.Reach cfg (fun c l => c.regular l = true) (.initial 0) c ∧ c.sys.world.rows 1 = some r ∧
      c.sys.ops[1]? = some (.task 1 (.dispatch (.commitSent n externalId 160000))) ∧ n.stime = none ∧
      c.clock = 160000 ∧ c.marks = [(1, 160000)] := by
  have ran : ((Transition.trace (Clocked.step defaultConfig)
      (fun c l => c.regular l && c.sys.unconfigured l) (.initial 0) otpSending).bind fun c =>
        (c.sys.world.rows 1).bind fun _ => (c.sys.ops[1]?.bind Op.sending).map fun sending =>
          (sending, c.clock, c.marks)) = some ((1, none, 160000), 160000, [(1, 160000)]) := by
    decide +kernel
  obtain ⟨c, hc, ran⟩ := Option.bind_eq_some_iff.mp ran
  obtain ⟨r, row, ran⟩ := Option.bind_eq_some_iff.mp ran
  obtain ⟨sending, found, facts⟩ := Option.map_eq_some_iff.mp ran
  obtain ⟨op, hop, awaits⟩ := Option.bind_eq_some_iff.mp found
  simp only [Prod.mk.injEq] at facts
  obtain ⟨rfl, clock, marks⟩ := facts
  obtain ⟨n, externalId, rfl, unset⟩ := Op.sending_eq_some awaits
  have both (c : Clocked) (l : Label) (ok : (c.regular l && c.sys.unconfigured l) = true) :
      c.regular l = true ∧ c.sys.unconfigured l = true := Bool.and_eq_true_iff.mp ok
  have reached := Clocked.reach_unconfigured defaultConfig cfg (fun c l ok => (both c l ok).2)
    (Transition.trace_reach .start hc)
  exact ⟨c, r, n, externalId, reached.mono fun c l ok => (both c l ok).1, row, hop, unset, clock, marks⟩

/-- On a host in UTC, and on no other, every run without failures by a clock that does not go back
stores consistent times. -/
theorem sent_times_iff (cfg : Config) :
    (∀ start c, Clocked.Reach cfg (fun c l => c.regular l = true) (.initial start) c → c.Consistent) ↔
      cfg.hostOffset = 0 := by
  constructor
  · intro consistent
    obtain ⟨c, r, n, externalId, reached, row, hop, unset, clock, marks⟩ := otpSending_reached cfg
    obtain ⟨c', r', step, row', stime, marks'⟩ :=
      Clocked.step_sending cfg { accepting true with now := 160000 } hop row unset
    have regular : c.regular (.run 1 .none { accepting true with now := 160000 }) = true := by
      simp [Clocked.regular, Label.faultless, Clocked.ticks, Label.instant, clock]
    have marked := (consistent 0 c' (reached.next regular step)).instant 1 r' _ row' stime
    rw [marks', marks, Config.storedStime] at marked
    have same := (Prod.mk.inj (List.mem_singleton.mp marked)).2
    omega
  · intro utc start c run
    have ticking (c : Clocked) (l : Label) (ok : c.regular l = true) : c.ticks l = true :=
      (Bool.and_eq_true_iff.mp ok).2
    exact (Clocked.reach_timely ticking run).consistent utc

/-- The configured deployment on a host one hour east of UTC. -/
def eastConfig : Config := { defaultConfig with hostOffset := 3600000 }

/-- There an OTP is stored as sent an hour before `_mark_sent` ran, and before it was created. -/
theorem sent_before_created : ∃ c r stime,
    Clocked.Reach eastConfig (fun c l => c.regular l = true) (.initial 0) c ∧
      c.sys.world.rows 1 = some r ∧ r.status = .sent ∧ r.stime = some stime ∧
      c.marks = [(1, 160000)] ∧ stime = 160000 - 3600000 ∧ (1, stime) ∉ c.marks ∧ stime < r.ctime ∧
      ¬c.Consistent := by
  have ran : ((Transition.trace (Clocked.step eastConfig) Clocked.regular (.initial 0)
      (otpSending ++ calls 1 1 { accepting true with now := 160000 })).bind fun c =>
        (c.sys.world.rows 1).map fun r => (r.status, r.ctime, r.stime, c.marks)) =
      some (.sent, 100000, some (160000 - 3600000), [(1, 160000)]) := by decide +kernel
  obtain ⟨c, hc, ran⟩ := Option.bind_eq_some_iff.mp ran
  obtain ⟨r, row, facts⟩ := Option.map_eq_some_iff.mp ran
  simp only [Prod.mk.injEq] at facts
  obtain ⟨sent, ctime, at_, marks⟩ := facts
  have unmarked : (1, (160000 - 3600000 : Int)) ∉ c.marks := by
    rw [marks]
    decide
  exact ⟨c, r, _, Transition.trace_reach .start hc, row, sent, at_, marks, rfl, unmarked,
    by rw [ctime]; decide, fun consistent => unmarked (consistent.instant 1 r _ row at_)⟩

end NotificationEngine
