import NotificationEngine.QueuedRows

namespace NotificationEngine

/-- Nothing holds the id, and no operation on the row is in progress. -/
def Sys.stranded (s : Sys) (id : Nat) : Bool :=
  !s.world.heldBy Task.holds id s.ops && s.ops.all fun op => (op.taskOf id).isNone

/-- One `retry_notification` whose calls all succeed, undisturbed. -/
def Sys.retried (cfg : Config) (env : Nat → Env) (id : Nat) (s : Sys) : Option Sys :=
  Transition.trace (Sys.step cfg) (fun _ _ => true) s
    [.retryNotification id, .run s.ops.length .none (env 0), .run s.ops.length .none (env 1),
      .run s.ops.length .none (env 2), .run s.ops.length .none (env 3)]

/-- The request is accepted, and leaves the row PENDING with its id in the sorted set. -/
def Sys.Recovers (cfg : Config) (env : Nat → Env) (id : Nat) (s : Sys) : Prop :=
  ∃ s', s.retried cfg env id = some s' ∧ s'.ops[s.ops.length]? = some (.task id (.retry (.returned ""))) ∧
    RowIs (· = .pending) (s'.world.rows id) ∧ id ∈ s'.world.queue

theorem trace_last (cfg : Config) (w : World) (ops : List Op) (id : Nat) (pc : RetryPc) (env : Env)
    (labels : List Label) :
    Transition.trace (Sys.step cfg) (fun _ _ => true) ⟨w, ops ++ [.task id (.retry pc)]⟩
        (.run ops.length .none env :: labels) =
      Transition.trace (Sys.step cfg) (fun _ _ => true)
        ⟨w.apply id (pc.act env w.service (w.rows id)),
          ops ++ [.ofNext id (pc.act env w.service (w.rows id)).next]⟩ labels := by
  have step : Sys.step cfg ⟨w, ops ++ [.task id (.retry pc)]⟩ (.run ops.length .none env) =
      some ⟨w.apply id (pc.act env w.service (w.rows id)),
        ops ++ [.ofNext id (pc.act env w.service (w.rows id)).next]⟩ := by
    simp [Sys.step, Op.run, Task.run, Task.act]
  simp only [Transition.trace, step, if_pos, Option.bind_some]

@[simp] theorem World.apply_rows (w : World) (id : Nat) (o : Outcome) : (w.apply id o).rows id = o.db := by
  simp [World.apply]

/-- `retry_notification` recovers every row that is neither SENT nor QUEUED. -/
theorem recovers_of_status {cfg : Config} {s : Sys} {id : Nat} {r : Notification} (env : Nat → Env)
    (row : s.world.rows id = some r) (unsent : r.status ≠ .sent) (unqueued : r.status ≠ .queued) :
    s.Recovers cfg env id := by
  obtain ⟨w, ops⟩ := s
  have select : RetryPc.select.act (env 0) w.service (w.rows id) =
      { db := some r, service := w.service, next := some (.retry (.commitPending r)) } := by
    have row : w.rows id = some r := row
    simp [RetryPc.act, row, unsent, unqueued]
  have run : Sys.retried cfg env id ⟨w, ops⟩ = Transition.trace (Sys.step cfg) (fun _ _ => true)
      ⟨w, ops ++ [.task id (.retry .select)]⟩ [.run ops.length .none (env 0), .run ops.length .none (env 1),
        .run ops.length .none (env 2), .run ops.length .none (env 3)] := rfl
  rw [trace_last, select] at run
  simp only [Op.ofNext, trace_last, World.apply_rows, RetryPc.act, commit_markPending,
    Option.map_some] at run
  refine ⟨_, run, ?_, ?_, ?_⟩
  · simp
  · exact ⟨r.markPending, by simp, rfl⟩
  · simp [World.apply]

theorem trace_done (cfg : Config) (w : World) (ops : List Op) (env : Env) (labels : List Label) :
    Transition.trace (Sys.step cfg) (fun _ _ => true) ⟨w, ops ++ [.done]⟩
        (.run ops.length .none env :: labels) =
      Transition.trace (Sys.step cfg) (fun _ _ => true) ⟨w, ops ++ [.done]⟩ labels := by
  have step : Sys.step cfg ⟨w, ops ++ [.done]⟩ (.run ops.length .none env) = some ⟨w, ops ++ [.done]⟩ := by
    simp [Sys.step, Op.run]
  simp only [Transition.trace, step, if_pos, Option.bind_some]

theorem not_recovers_queued {cfg : Config} {s : Sys} {id : Nat} {r : Notification} (env : Nat → Env)
    (row : s.world.rows id = some r) (queued : r.status = .queued) : ¬s.Recovers cfg env id := by
  obtain ⟨w, ops⟩ := s
  have select : RetryPc.select.act (env 0) w.service (w.rows id) =
      { db := some r, service := w.service,
        next := some (.retry (.returned "Notification is already queued")) } := by
    have row : w.rows id = some r := row
    simp [RetryPc.act, row, queued]
  have run : Sys.retried cfg env id ⟨w, ops⟩ = Transition.trace (Sys.step cfg) (fun _ _ => true)
      ⟨w, ops ++ [.task id (.retry .select)]⟩ [.run ops.length .none (env 0), .run ops.length .none (env 1),
        .run ops.length .none (env 2), .run ops.length .none (env 3)] := rfl
  rw [trace_last, select] at run
  simp only [Op.ofNext, trace_last, World.apply_rows, RetryPc.act, trace_done] at run
  rintro ⟨s', hs', _, pending, _⟩
  cases (run.symm.trans hs' : some _ = some s')
  rw [World.apply_rows, rowIs_some, queued] at pending
  cases pending

/-- A dispatch that is cut short between its two commits leaves another one behind. -/
def Sys.notCut (s : Sys) : Label → Bool
  | .run i fault env => match s.ops[i]?.bind Op.current with
    | none => true
    | some (id, t) => !t.strands env fault ||
      !((s.world.rows id).any (fun r => r.status = .queued) || t.commitsQueued) ||
      (s.ops.eraseIdx i).any fun op => (op.taskOf id).any Task.finishing
  | _ => true

theorem seen_notCut {s : Sys} {l : Label} {j : Nat} {e : NoteLabel} (ok : s.notCut l = true)
    (seen : s.Seen j l e) : (s.note j).NotCut e := by
  cases seen with
  | @ran i fault env op t hop ht =>
    intro strands risk rest tasks
    have others := note_tasks_erase hop ht
    rw [tasks] at others
    cases (Multiset.cons_inj_right t).mp others
    have danger : ((s.world.rows j).any (fun r => r.status = .queued) || t.commitsQueued) = true := by
      rw [Bool.or_eq_true]
      refine risk.imp_left ?_
      rintro ⟨r, row, queued⟩
      have row : s.world.rows j = some r := row
      simp [row, queued]
    simp only [Sys.notCut, hop, Option.bind_some, current_of_taskOf ht, strands, danger, Bool.not_true,
      Bool.false_or] at ok
    exact ops_any_iff.mp ok
  | _ => trivial

/-- Whatever fails or stops: unless a dispatch is cut short between its commit of QUEUED and that
of its outcome, every stranded row that is not SENT is recovered by a manual retry. -/
theorem stranded_recoverable {cfg : Config} {s : Sys} {id : Nat} {r : Notification} (env : Nat → Env)
    (run : Sys.Reach cfg (fun s l => s.notCut l = true) .initial s) (row : s.world.rows id = some r)
    (unsent : r.status ≠ .sent) (stranded : s.stranded id = true) : s.Recovers cfg env id := by
  have life : Transition.Reach (Note.Step cfg id) Note.NotCut .absent (s.note id) :=
    note_reach (fun _ _ _ ok seen => seen_notCut ok seen) run
  have followed : (s.note id).Followed :=
    life.invariant Note.absent_followed fun n e n' followed ok step => followed.step ok step
  refine recovers_of_status env row unsent fun queued => ?_
  obtain ⟨t, ht, _⟩ := followed ⟨r, row, queued⟩
  obtain ⟨op, hop, hj⟩ := List.mem_filterMap.mp ht
  rw [Sys.stranded, Bool.and_eq_true] at stranded
  have idle := List.all_eq_true.mp stranded.2 op hop
  rw [hj] at idle
  cases idle

/-- A retry that cannot be published, and the request that recovers its row. -/
theorem stranded_recoverable_retrying : ∃ s r, Sys.Reach defaultConfig (fun s l => s.notCut l = true) .initial s ∧
    s.world.rows 1 = some r ∧ r.status = .retrying ∧ s.stranded 1 = true ∧
    s.Recovers defaultConfig (fun _ => accepting true) 1 := by
  have ran : ((Transition.trace (Sys.step defaultConfig) Sys.notCut .initial
      ([.createNotification otpRequest] ++ calls 0 5 (accepting true) ++ [.dequeue .none] ++
        calls 1 6 (accepting false) ++ [.run 1 (.raised false) (accepting false)])).bind
      fun s => (s.world.rows 1).map fun r => (r.status, s.stranded 1)) = some (.retrying, true) := by
    decide +kernel
  obtain ⟨s, hs, ran⟩ := Option.bind_eq_some_iff.mp ran
  obtain ⟨r, row, facts⟩ := Option.map_eq_some_iff.mp ran
  obtain ⟨retrying, stranded⟩ := Prod.mk.inj facts
  have run := Transition.trace_reach Transition.Reach.start hs
  have unsent : r.status ≠ .sent := by
    rw [retrying]
    decide
  exact ⟨s, r, run, row, retrying, stranded, stranded_recoverable _ run row unsent stranded⟩

/-- `health_check` raises: the row stays QUEUED for good. -/
theorem queued_unrecoverable : ∃ s r, Sys.Reach defaultConfig (fun _ _ => True) .initial s ∧
    s.world.rows 1 = some r ∧ r.status ≠ .sent ∧ s.stranded 1 = true ∧
    ¬s.Recovers defaultConfig (fun _ => accepting true) 1 := by
  have ran : ((Transition.trace (Sys.step defaultConfig) (fun _ _ => true) .initial
      ([.createNotification otpRequest] ++ calls 0 5 (accepting true) ++ [.dequeue .none] ++
        calls 1 3 (accepting true) ++ [.run 1 (.raised false) (accepting true)])).bind
      fun s => (s.world.rows 1).map fun r => (r.status, s.stranded 1)) = some (.queued, true) := by
    decide +kernel
  obtain ⟨s, hs, ran⟩ := Option.bind_eq_some_iff.mp ran
  obtain ⟨r, row, facts⟩ := Option.map_eq_some_iff.mp ran
  obtain ⟨queued, stranded⟩ := Prod.mk.inj facts
  have run := (Transition.trace_reach Transition.Reach.start hs).mono fun _ _ _ => trivial
  refine ⟨s, r, run, row, ?_, stranded, not_recovers_queued _ row queued⟩
  rw [queued]
  decide

end NotificationEngine
