import NotificationEngine.Recoverable

namespace NotificationEngine

/-- A manual retry that has not read the row yet, or was told that it is queued. -/
def Task.refusedQueued (t : Task) : Prop :=
  t = .retry .select ∨ t = .retry (.returned "Notification is already queued")

/-- A QUEUED row that nothing holds, and that nobody works on but manual retries which are refused. -/
structure Note.Stuck (n : Note) : Prop where
  row : RowIs (· = .queued) n.row
  queued : n.queued = false
  waiting : n.waiting = 0
  ready : n.ready = 0
  refused : ∀ t ∈ n.tasks, t.refusedQueued

section Steps

variable {cfg : Config} {j : Nat} {n n' : Note} {e : NoteLabel} {rest : Multiset Task} {t : Task}
  {fault : Fault} {env : Env} {q : QueueService}

theorem Note.Stuck.of_tasks (stuck : n.Stuck) {tasks : Multiset Task} (refused : ∀ t ∈ tasks, t.refusedQueued) :
    ({ n with tasks } : Note).Stuck := ⟨stuck.row, stuck.queued, stuck.waiting, stuck.ready, refused⟩

/-- A call of a manual retry that is refused leaves everything as it is. -/
theorem Note.Stuck.ran (stuck : n.Stuck) (tasks : n.tasks = t ::ₘ rest) :
    ∃ tasks', n.after rest (t.run cfg env j q n.row fault) = { n with tasks := tasks' } ∧
      ∀ u ∈ tasks', u.refusedQueued := by
  obtain ⟨r, row, queued⟩ := stuck.row
  have idle (o : Outcome) (frame : o = { db := n.row, service := o.service, next := o.next })
      (next : ∀ u, o.next = some u → u.refusedQueued) :
      ∃ tasks', n.after rest o = { n with tasks := tasks' } ∧ ∀ u ∈ tasks', u.refusedQueued := by
    refine ⟨Holders.put o.next rest, ?_, fun u mem => ?_⟩
    · rw [frame]
      simp [Note.after]
    · rcases Holders.mem_put.mp mem with here | there
      · exact next u here
      · exact stuck.refused u (Note.mem_resting tasks there)
  rcases stuck.refused t (Note.mem_running tasks) with rfl | rfl
  · have act : (Task.retry .select).act cfg env j q n.row =
        { db := n.row, service := q, next := some (.retry (.returned "Notification is already queued")) } := by
      simp [Task.act, RetryPc.act, row, queued]
    cases fault with
    | none =>
      refine idle _ (by rw [Task.run, act]) fun u next => ?_
      rw [Task.run, act] at next
      exact Or.inr (Option.some.inj next).symm
    | raised effect =>
      refine idle _ ?_ fun u next => by cases next
      cases effect <;> simp [Task.run, Task.unanswered, act, Task.afterRaise]
    | stopped effect =>
      refine idle _ ?_ fun u next => by cases next
      cases effect <;> simp [Task.run, Task.unanswered, act, Task.unacked]
  · refine idle _ ?_ fun u next => ?_
    · cases fault with
      | none => rfl
      | raised effect => cases effect <;> rfl
      | stopped effect => cases effect <;> rfl
    · cases fault <;> cases next

/-- No step moves a stuck row. -/
theorem Note.Stuck.step (stuck : n.Stuck) (h : Note.Step cfg j n e n') :
    ∃ tasks, n' = { n with tasks } ∧ ∀ t ∈ tasks, t.refusedQueued := by
  cases h with
  | requested =>
    refine ⟨_, rfl, fun t mem => ?_⟩
    rcases Multiset.mem_cons.mp mem with rfl | there
    · exact Or.inl rfl
    · exact stuck.refused t there
  | dequeued lost queued => cases stuck.queued.symm.trans queued
  | expired waiting => cases stuck.waiting.symm.trans waiting
  | delivered ready => cases stuck.ready.symm.trans ready
  | inserted lost payload channel ctime unborn =>
    obtain ⟨r, row, _⟩ := stuck.row
    cases row.symm.trans unborn
  | ran t fault env q tasks => exact stuck.ran tasks

theorem Note.Stuck.run {ok : Note → NoteLabel → Prop} (stuck : n.Stuck)
    (run : Transition.Reach (Note.Step cfg j) ok n n') :
    ∃ tasks, n' = { n with tasks } ∧ ∀ t ∈ tasks, t.refusedQueued := by
  induction run with
  | start => exact ⟨n.tasks, rfl, stuck.refused⟩
  | next _ _ step ih =>
    obtain ⟨tasks, rfl, refused⟩ := ih
    exact (stuck.of_tasks refused).step step

end Steps

theorem Sys.note_stuck {s : Sys} {id : Nat} {r : Notification} (row : s.world.rows id = some r)
    (queued : r.status = .queued) (stranded : s.stranded id = true) : (s.note id).Stuck := by
  obtain ⟨unheld, idle⟩ := Bool.and_eq_true_iff.mp stranded
  simp only [World.heldBy, Bool.not_eq_true', Bool.or_eq_false_iff] at unheld
  obtain ⟨⟨⟨queue, retryQueue⟩, retryResult⟩, _⟩ := unheld
  refine ⟨⟨r, row, queued⟩, queue, ?_, ?_, fun t mem => ?_⟩
  · refine List.countP_eq_zero.mpr fun m there own => ?_
    exact absurd (List.any_eq_true.mpr ⟨m, there, own⟩) (Bool.eq_false_iff.mp retryQueue)
  · refine List.count_eq_zero.mpr fun there => ?_
    exact absurd (List.contains_iff_mem.mpr there) (Bool.eq_false_iff.mp retryResult)
  · obtain ⟨op, there, own⟩ := List.mem_filterMap.mp mem
    have free := List.all_eq_true.mp idle op there
    rw [own] at free
    cases free

/-- Stuck for good: a QUEUED row that has lost its carrier, however that came about, stays as it is in every
continuation. It is not delivered, retried or buried any more, and every manual retry is refused. -/
theorem stuck_for_good {cfg : Config} {s s' : Sys} {id : Nat} {r : Notification}
    (run : Sys.Reach cfg (fun _ _ => True) .initial s) (row : s.world.rows id = some r)
    (queued : r.status = .queued) (stranded : s.stranded id = true) (later : Sys.Reach cfg (fun _ _ => True) s s') :
    s'.world.rows id = some r ∧ s'.heldId id = false ∧
      s'.world.deliveries.count id = s.world.deliveries.count id ∧
      s'.world.published.count id = s.world.published.count id ∧
      s'.world.deadLetters.filter (fun d => d.notificationId = id) =
        s.world.deadLetters.filter (fun d => d.notificationId = id) ∧
      ∀ op ∈ s'.ops, ∀ t, op.taskOf id = some t →
        t = .retry .select ∨ t = .retry (.returned "Notification is already queued") := by
  have stuck := Sys.note_stuck row queued stranded
  have life : Transition.Reach (Note.Step cfg id) (fun _ _ => True) (s.note id) (s'.note id) :=
    note_reach_from (reach_fresh (fun _ _ => rfl) run) (fun _ _ _ _ _ => trivial) later
  obtain ⟨tasks, same, refused⟩ := stuck.run life
  have tasks_eq : (s'.note id).tasks = tasks := congrArg Note.tasks same
  have refuses : ∀ op ∈ s'.ops, ∀ t, op.taskOf id = some t → t.refusedQueued := fun op there t own =>
    refused t (tasks_eq ▸ List.mem_filterMap.mpr ⟨op, there, own⟩)
  refine ⟨(congrArg Note.row same).trans row, ?_, congrArg Note.deliveries same, congrArg Note.published same,
    congrArg Note.deadLetters same, refuses⟩
  have queue : decide (id ∈ s'.world.queue) = false := (congrArg Note.queued same).trans stuck.queued
  have waiting : s'.world.retryQueue.countP (fun m => m.notificationId = id) = 0 :=
    (congrArg Note.waiting same).trans stuck.waiting
  have ready : s'.world.retryResult.count id = 0 := (congrArg Note.ready same).trans stuck.ready
  simp only [Sys.heldId, World.heldBy, queue, Bool.false_or, Bool.or_eq_false_iff]
  refine ⟨⟨?_, ?_⟩, ?_⟩
  · exact Bool.eq_false_iff.mpr fun some => by
      obtain ⟨m, there, own⟩ := List.any_eq_true.mp some
      exact List.countP_eq_zero.mp waiting m there own
  · exact Bool.eq_false_iff.mpr fun some => List.count_eq_zero.mp ready (List.contains_iff_mem.mp some)
  · refine Bool.eq_false_iff.mpr fun some => ?_
    obtain ⟨op, there, holds⟩ := List.any_eq_true.mp some
    obtain ⟨t, own, holds⟩ := (Option.any_eq_true _ _).mp holds
    rcases refuses op there t own with rfl | rfl <;> cases holds

/-- A health check raises after the commit of QUEUED. -/
def healthRaised : List Label :=
  [.createNotification otpRequest] ++ calls 0 5 (accepting true) ++ [.dequeue .none] ++
    calls 1 3 (accepting true) ++ [.run 1 (.raised false) (accepting true)]

/-- A manual retry does not help. -/
theorem stuck_for_good_refused : ∃ s s' r, Sys.Reach defaultConfig (fun _ _ => True) .initial s ∧
    s.world.rows 1 = some r ∧ Sys.Reach defaultConfig (fun _ _ => True) s s' ∧
      s'.ops.length = 3 ∧ s'.world.rows 1 = some r ∧ s'.heldId 1 = false := by
  have ran : ((Transition.trace (Sys.step defaultConfig) (fun _ _ => true) .initial healthRaised).bind
      fun s => (s.world.rows 1).map fun r => (r.status, s.stranded 1)) = some (.queued, true) := by
    decide +kernel
  obtain ⟨s, hs, ran⟩ := Option.bind_eq_some_iff.mp ran
  obtain ⟨r, row, facts⟩ := Option.map_eq_some_iff.mp ran
  obtain ⟨queued, stranded⟩ := Prod.mk.inj facts
  have refused : ((Transition.trace (Sys.step defaultConfig) (fun _ _ => true) .initial healthRaised).bind
      fun s => (Transition.trace (Sys.step defaultConfig) (fun _ _ => true) s
        [.retryNotification 1, .run 2 .none (accepting true)]).map (·.ops.length)) = some 3 := by decide +kernel
  rw [hs, Option.bind_some] at refused
  obtain ⟨s', hs', answer⟩ := Option.map_eq_some_iff.mp refused
  have run : Sys.Reach defaultConfig (fun _ _ => True) .initial s :=
    (Transition.trace_reach .start hs).mono fun _ _ _ => trivial
  have later : Sys.Reach defaultConfig (fun _ _ => True) s s' :=
    (Transition.trace_reach .start hs').mono fun _ _ _ => trivial
  have stays := stuck_for_good run row queued stranded later
  exact ⟨s, s', r, run, row, later, answer, stays.1, stays.2.1⟩

end NotificationEngine
