import NotificationEngine.Drain
import NotificationEngine.StuckRows

namespace NotificationEngine

open Holders SnapshotWrite

/-- The tasks that count an attempt or publish one, and the manual retries that may still. -/
def Task.unsteady : Task → Bool
  | dispatch (.commitRetrying _ _ _ _) => true
  | dispatch (.refreshRetrying _) => true
  | dispatch (.publishing _ _) => true
  | retry .select => true
  | retry (.commitPending _) => true
  | _ => false

def Note.Steady (n : Note) : Prop := ∀ t ∈ n.tasks, t.unsteady = false

def Sys.Steady (s : Sys) : Prop := ∀ id, (s.note id).Steady

/-- What a mending step is for a notification. -/
def NoteLabel.Mends : NoteLabel → Prop
  | requested => False
  | dequeued lost => lost = false
  | inserted lost => lost = false
  | ran _ fault env _ => fault = .none ∧ env.accepts = true
  | _ => True

theorem seen_mends {s : Sys} {l : Label} {j : Nat} {e : NoteLabel} (mends : l.mends = true)
    (seen : s.Seen j l e) : e.Mends := by
  cases seen with
  | requested => cases mends
  | popped _ => rfl
  | popLost _ fault _ => exact absurd (of_decide_eq_true mends) fault
  | inserted _ _ => rfl
  | insertLost _ _ _ fault _ => simp [Label.mends, fault] at mends
  | ran _ _ => simpa [Label.mends, NoteLabel.Mends] using mends
  | _ => trivial

section Tasks

variable {cfg : Config} {env : Env} {j : Nat} {q : QueueService} {db : Option Notification} {t u : Task}
  {n n' : Note} {e : NoteLabel}

/-- Where no provider refuses, no attempt is counted any more. -/
theorem Task.act_steady (accepts : env.accepts = true) (steady : t.unsteady = false)
    (next : (t.act cfg env j q db).next = some u) : u.unsteady = false := by
  simp only [Env.accepts, Bool.and_eq_true] at accepts
  obtain ⟨_, healthy, success⟩ := accepts
  have goes := Task.act_goes next
  cases goes with
  | scheduled own _ _ =>
    rcases own with rfl | rfl
    · simp [Task.act, DispatchPc.act, healthy] at next
    · simp [Task.act, DispatchPc.act, afterSend, success] at next
  | retrying => cases steady
  | connecting _ => cases steady
  | publishing _ => cases steady
  | accepted _ _ _ => cases steady
  | _ => rfl

theorem Note.Steady.step (steady : n.Steady) (mends : e.Mends) (h : Note.Step cfg j n e n') : n'.Steady := by
  intro u mem
  rcases h.mem_tasks mem with there | start | ⟨t, fault, env, q, rfl, here, next⟩
  · exact steady u there
  · cases start with
    | requested => exact mends.elim
    | _ => rfl
  · obtain ⟨rfl, accepts⟩ := mends
    exact Task.act_steady accepts (steady t here) next

/-- A mending step of a steady notification is plain. -/
theorem NoteLabel.Mends.plain (mends : e.Mends) (steady : n.Steady) (h : Note.Step cfg j n e n') :
    e.Plain cfg := by
  cases h with
  | ran t fault env q tasks =>
    obtain ⟨rfl, accepts⟩ := mends
    refine ⟨rfl, ?_⟩
    simp only [Env.accepts, Bool.and_eq_true] at accepts
    obtain ⟨_, _, success⟩ := accepts
    have calm := steady t (Note.mem_running tasks)
    rcases t with pc | pc | pc | pc
    · cases pc with
      | send n => simp [Task.letsGo, success]
      | refreshRetrying delay => cases calm
      | _ => simp [Task.letsGo]
    · simp [Task.letsGo]
    · simp [Task.letsGo]
    · simp [Task.letsGo]
  | _ => exact mends

/-- A steady task leaves its row with the attempts it had. -/
theorem Task.remaining_run (steady : t.unsteady = false) :
    cfg.remaining (t.run cfg env j q db .none).db + (t.schedules && Fault.none.effect).toNat ≤
      cfg.remaining db := by
  have uncounted : t.schedules = false := by
    rcases t with pc | pc | pc | pc
    · cases pc <;> first | rfl | cases steady
    · rfl
    · rfl
    · rfl
  have kept (r : Notification) : (t.write cfg r).retryCount = r.retryCount := by
    rcases t with pc | pc | pc | pc
    · cases pc with
      | commitRetrying n code count delay => cases steady
      | commitQueued n => exact column_untouched _ _
      | commitSent n externalId now => exact column_untouched _ _
      | commitFailed n code exhausted => exact column_untouched _ _
      | _ => rfl
    · rfl
    · cases pc with
      | commitPending n => cases steady
      | _ => rfl
    · rfl
  rw [Task.run_db, uncounted]
  cases db with
  | none => exact le_rfl
  | some r => simp [Fault.effect, Config.remaining, t.write_eventType, kept]

end Tasks

section Drained

variable {cfg : Config} {s s' : Sys} {l : Label}

theorem Sys.Steady.step (steady : s.Steady) (fresh : s.world.Fresh) (mends : l.mends = true)
    (h : s.step cfg l = some s') : s'.Steady := by
  intro id
  have seen := step_seen id (fresh _ le_rfl) h
  cases he : s.seenAs id l with
  | none =>
    rw [he] at seen
    have same : s'.note id = s.note id := seen
    rw [same]
    exact steady id
  | some e =>
    rw [he] at seen
    exact (steady id).step (seen_mends mends (seen_of_seenAs he)) seen

theorem Sys.Steady.sole_step (steady : s.Steady) (fresh : s.world.Fresh) (mends : l.mends = true)
    (h : s.step cfg l = some s') {id : Nat} (sole : (s.note id).Sole) : (s'.note id).Sole := by
  have seen := step_seen id (fresh _ le_rfl) h
  cases he : s.seenAs id l with
  | none =>
    rw [he] at seen
    have same : s'.note id = s.note id := seen
    rw [same]
    exact sole
  | some e =>
    rw [he] at seen
    exact sole.step ((seen_mends mends (seen_of_seenAs he)).plain (steady id) seen) seen

theorem Sys.Steady.spends (steady : s.Steady) (mends : l.mends = true) : s.Spends cfg l := by
  cases l with
  | run i fault env =>
    intro op id t hop own
    have answered : fault = .none := by
      simp only [Label.mends, Bool.and_eq_true, decide_eq_true_eq] at mends
      exact mends.1
    subst answered
    exact Task.remaining_run (steady id t (note_task_mem hop own))
  | _ => trivial

variable (cfg) in
/-- A steady service comes to rest by mending steps, and what had one carrier keeps to it. -/
theorem Sys.Steady.rests (steady : s.Steady) (fresh : s.world.Fresh) :
    ∃ s', Sys.Reach cfg (fun _ l => l.mends = true) s s' ∧ s'.Quiet ∧ s'.world.Fresh ∧
      ∀ id, (s.note id).Sole → (s'.note id).Sole := by
  have rested : ∃ s', Sys.Reach cfg (fun _ l => l.mends = true) s s' ∧
      (s'.Steady ∧ s'.world.Fresh ∧ ∀ id, (s.note id).Sole → (s'.note id).Sole) ∧ s'.Quiet := by
    refine Transition.Reach.settles (Sys.rank cfg) (fun u kept busy => ?_) ⟨steady, fresh, fun _ sole => sole⟩
    obtain ⟨steady, fresh, kept⟩ := kept
    obtain ⟨l, u', mends, step, free⟩ := Sys.goes_on cfg busy
    have paid := Sys.step_pays fresh (steady.spends mends) step
    refine ⟨l, u', mends, step, ⟨steady.step fresh mends step, Sys.step_fresh fresh step, ?_⟩, by omega⟩
    exact fun id sole => steady.sole_step fresh mends step (kept id sole)
  obtain ⟨s', run, ⟨_, fresh', kept⟩, quiet⟩ := rested
  exact ⟨s', run, quiet, fresh', kept⟩

/-- The calls until an operation is steady. -/
def Op.unrest : Op → Nat
  | task _ t => if t.unsteady then t.rank + retryRank * t.schedules.toNat else 0
  | _ => 0

theorem Task.unrest_lt (cfg : Config) (env : Env) (id : Nat) (q : QueueService) (db : Option Notification)
    {t : Task} (unsteady : t.unsteady = true) :
    (Op.ofNext id (t.run cfg env id q db .none).next).unrest < (Op.task id t).unrest := by
  have now : (Op.task id t).unrest = t.rank + retryRank * t.schedules.toNat := if_pos unsteady
  rw [now]
  cases next : (t.run cfg env id q db .none).next with
  | none =>
    have ends := Task.rank_of_ends env id t
    simp only [Op.ofNext, Op.unrest]
    omega
  | some u =>
    have goes := Task.run_goes next
    have less := goes.rank_lt id
    have uncounted : u.schedules = false := by
      cases goes with
      | scheduled own _ _ => rcases own with rfl | rfl <;> cases unsteady
      | _ => rfl
    simp only [Op.ofNext, Op.unrest, uncounted, Bool.toNat_false, Nat.mul_zero, Nat.add_zero]
    split <;> omega

variable (cfg) in
/-- Whatever state the service is in, it becomes steady by calls of its own. -/
theorem Sys.steadies (fresh : s.world.Fresh) :
    ∃ s', Sys.Reach cfg (fun _ l => l.mends = true) s s' ∧ s'.world.Fresh ∧ s'.Steady := by
  refine Transition.Reach.settles (fun s => (s.ops.map Op.unrest).sum) (fun s fresh restless => ?_) fresh
  obtain ⟨id, t, mem, unsteady⟩ : ∃ id t, t ∈ (s.note id).tasks ∧ t.unsteady = true := by
    by_contra none
    refine restless fun id t mem => ?_
    by_contra some
    exact none ⟨id, t, mem, by simpa using some⟩
  obtain ⟨op, there, own⟩ := List.mem_filterMap.mp mem
  obtain ⟨i, hop⟩ := List.getElem?_of_mem there
  rcases taskOf_eq_some own with rfl | ⟨c, pc, rest, rfl, hc, rfl⟩
  · obtain ⟨s', step⟩ : ∃ s', s.step cfg (.run i .none (accepting true)) = some s' := by
      simp [Sys.step, hop]
    refine ⟨_, s', rfl, step, Sys.step_fresh fresh step, ?_⟩
    obtain ⟨op', hop', rfl⟩ := Option.map_eq_some_iff.mp step
    cases hop.symm.trans hop'
    have sum := sum_map_set Op.unrest hop
      (Op.ofNext id (t.run cfg (accepting true) id s.world.service (s.world.rows id) .none).next)
    have less := Task.unrest_lt cfg (accepting true) id s.world.service (s.world.rows id) unsteady
    simp only [Op.run]
    omega
  · cases unsteady

end Drained

/-- The steps of a service that is left to itself while nothing fails, and requests for manual retries. -/
def Label.repairs : Label → Bool
  | .retryNotification _ => true
  | l => l.mends

theorem Label.repairs_of_mends {l : Label} (mends : l.mends = true) : l.repairs = true := by
  cases l with
  | retryNotification id => rfl
  | _ => exact mends

section Quiet

variable {cfg : Config} {s s' : Sys} {id : Nat} {r : Notification}

theorem Sys.Quiet.stranded (quiet : s.Quiet) (id : Nat) : s.stranded id = true := by
  obtain ⟨queued, _, _⟩ := quiet.unheld id
  have idle : ∀ op ∈ s.ops, op.taskOf id = none := fun op mem => taskOf_finished (quiet.finished op mem) id
  have unqueued : decide (id ∈ s.world.queue) = false := queued
  have unworked : (s.ops.any fun op => (op.taskOf id).any Task.holds) = false :=
    List.any_eq_false.mpr fun op mem => by simp [idle op mem]
  simp only [Sys.stranded, World.heldBy, unqueued, quiet.retryQueue, quiet.retryResult, unworked,
    Bool.and_eq_true]
  exact ⟨rfl, List.all_eq_true.mpr fun op mem => by simp [idle op mem]⟩

/-- At rest, nothing is owed to a row that is not live. -/
theorem Sys.Quiet.sole (quiet : s.Quiet) (settled : ¬RowIs (·.Live) (s.note id).row) : (s.note id).Sole := by
  have none : ∀ t, t ∉ (s.note id).tasks := by
    rw [quiet.tasks id]
    exact Multiset.notMem_zero
  obtain ⟨queued, waiting, ready⟩ := quiet.unheld id
  refine ⟨⟨?_, ?_, ?_, ?_⟩, fun live => absurd live settled, fun t mem => absurd mem (none t)⟩
  · rw [quiet.carriers id]
    exact Nat.zero_le 1
  · rintro ⟨t, mem, _⟩
    exact absurd mem (none t)
  · rw [queued, waiting, ready]
    rintro (no | no | no) <;> cases no
  · exact fun t mem => absurd mem (none t)

theorem trace_call (cfg : Config) (w : World) (ops : List Op) (id : Nat) (pc : RetryPc) (labels : List Label) :
    Transition.trace (Sys.step cfg) (fun _ l => l.repairs) ⟨w, ops ++ [.task id (.retry pc)]⟩
        (.run ops.length .none (accepting true) :: labels) =
      Transition.trace (Sys.step cfg) (fun _ l => l.repairs)
        ⟨w.apply id (pc.act (accepting true) w.service (w.rows id)),
          ops ++ [.ofNext id (pc.act (accepting true) w.service (w.rows id)).next]⟩ labels := by
  have step : Sys.step cfg ⟨w, ops ++ [.task id (.retry pc)]⟩ (.run ops.length .none (accepting true)) =
      some ⟨w.apply id (pc.act (accepting true) w.service (w.rows id)),
        ops ++ [.ofNext id (pc.act (accepting true) w.service (w.rows id)).next]⟩ := by
    simp [Sys.step, Op.run, Task.run, Task.act]
  have admitted : (Label.run ops.length .none (accepting true)).repairs = true := rfl
  simp only [Transition.trace, step, admitted, if_pos, Option.bind_some]

/-- A manual retry of a row that is neither SENT nor QUEUED, from its request to its answer. -/
theorem trace_retried (cfg : Config) (w : World) (ops : List Op) (row : w.rows id = some r)
    (unsent : r.status ≠ .sent) (unqueued : r.status ≠ .queued) :
    Transition.trace (Sys.step cfg) (fun _ l => l.repairs) ⟨w, ops⟩
        (.retryNotification id :: List.replicate 5 (.run ops.length .none (accepting true))) =
      some ⟨{ w with
        rows := fun i => if i = id then some r.markPending else w.rows i
        queue := w.queue.addNX id (queueScore r.priority (accepting true).now)
        enqueued := w.enqueued ++ [id] }, ops ++ [.done]⟩ := by
  have select : RetryPc.select.act (accepting true) w.service (w.rows id) =
      { db := some r, service := w.service, next := some (.retry (.commitPending r)) } := by
    simp [RetryPc.act, row, unsent, unqueued]
  have asked : Transition.trace (Sys.step cfg) (fun _ l => l.repairs) ⟨w, ops⟩
      (.retryNotification id :: List.replicate 5 (.run ops.length .none (accepting true))) =
        Transition.trace (Sys.step cfg) (fun _ l => l.repairs) ⟨w, ops ++ [.task id (.retry .select)]⟩
          (List.replicate 5 (.run ops.length .none (accepting true))) := rfl
  rw [asked]
  simp only [List.replicate]
  rw [trace_call, select]
  simp only [Op.ofNext, trace_call, World.apply_rows, RetryPc.act, commit_markPending, Option.map_some]
  refine congrArg (fun w => some (Sys.mk w (ops ++ [.done]))) ?_
  simp only [World.apply, List.append_nil, Option.toList_none, Option.isSome_none, Option.isSome_some,
    Bool.false_eq_true, if_false, if_true, World.mk.injEq, and_true, true_and]
  refine ⟨funext fun i => ?_, rfl⟩
  by_cases same : i = id <;> simp [same]

variable (cfg) in
/-- A manual retry gives its row one carrier, and leaves the other notifications as they are. -/
theorem Sys.Quiet.retries (quiet : s.Quiet) (fresh : s.world.Fresh) (row : s.world.rows id = some r)
    (unsent : r.status ≠ .sent) (unqueued : r.status ≠ .queued) :
    ∃ s', Sys.Reach cfg (fun _ l => l.repairs = true) s s' ∧ s'.world.Fresh ∧ s'.Steady ∧ (s'.note id).Sole ∧
      ∀ j, j ≠ id → s'.note j = s.note j := by
  obtain ⟨w, ops⟩ := s
  have ran := trace_retried cfg w ops row unsent unqueued
  have run := Transition.trace_reach .start ran
  have idle (j : Nat) : ((ops ++ [Op.done]).filterMap (Op.taskOf j) : Multiset Task) = 0 := by
    rw [List.filterMap_append, show [Op.done].filterMap (Op.taskOf j) = [] from rfl, List.append_nil]
    exact quiet.tasks j
  refine ⟨_, run, reach_fresh fresh run, fun j t mem => ?_, ?_, fun j other => ?_⟩
  · have here : t ∈ ((ops ++ [Op.done]).filterMap (Op.taskOf j) : Multiset Task) := mem
    rw [idle j] at here
    exact absurd here (Multiset.notMem_zero t)
  · obtain ⟨_, waiting, ready⟩ := quiet.unheld id
    have waiting : w.retryQueue.countP (fun m => m.notificationId = id) = 0 := waiting
    have ready : w.retryResult.count id = 0 := ready
    have none : ∀ t, t ∉ ((ops ++ [Op.done]).filterMap (Op.taskOf id) : Multiset Task) := by
      rw [idle id]
      exact Multiset.notMem_zero
    have pending : RowIs (·.Live) (if id = id then some r.markPending else w.rows id) := by
      rw [if_pos rfl]
      exact ⟨_, rfl, trivial⟩
    refine ⟨⟨?_, ?_, fun _ => pending, fun t mem => absurd mem (none t)⟩, fun _ => Or.inl ?_,
      fun t mem => absurd mem (none t)⟩
    · simp only [Note.carriers, Sys.note, waiting, ready, idle id]
      exact Bool.toNat_le _
    · rintro ⟨t, mem, _⟩
      exact absurd mem (none t)
    · exact decide_eq_true (SortedSet.mem_addNX.mpr (Or.inl rfl))
  · have tasks : ((ops ++ [Op.done]).filterMap (Op.taskOf j) : Multiset Task) = ops.filterMap (Op.taskOf j) :=
      (idle j).trans (quiet.tasks j).symm
    simp only [Sys.note, tasks, SortedSet.mem_addNX, other, false_or, if_false]

/-- The notification is on its way or settled, or it is stuck. -/
def Sys.Decided (s : Sys) (id : Nat) : Prop := (s.note id).Sole ∨ (s.note id).Stuck

variable (cfg) in
/-- A service at rest can be brought to rest again with one more notification decided, and none undone. -/
theorem Sys.Quiet.decides (quiet : s.Quiet) (fresh : s.world.Fresh) (id : Nat) :
    ∃ s', Sys.Reach cfg (fun _ l => l.repairs = true) s s' ∧ s'.Quiet ∧ s'.world.Fresh ∧ s'.Decided id ∧
      ∀ j, s.Decided j → s'.Decided j := by
  by_cases live : RowIs (·.Live) (s.note id).row
  case neg => exact ⟨s, .start, quiet, fresh, Or.inl (quiet.sole live), fun _ decided => decided⟩
  obtain ⟨r, row, live⟩ := live
  by_cases queued : r.status = .queued
  · have stuck := Sys.note_stuck row queued (quiet.stranded id)
    exact ⟨s, .start, quiet, fresh, Or.inr stuck, fun _ decided => decided⟩
  have unsent : r.status ≠ .sent := fun sent => by
    rw [sent] at live
    exact live
  obtain ⟨s₁, asked, fresh₁, steady, sole, others⟩ := quiet.retries cfg fresh row unsent queued
  obtain ⟨s₂, rested, quiet₂, fresh₂, kept⟩ := steady.rests cfg fresh₁
  refine ⟨s₂, Transition.Reach.trans asked (rested.mono fun _ _ mends => Label.repairs_of_mends mends), quiet₂,
    fresh₂, Or.inl (kept id sole), fun j decided => ?_⟩
  by_cases own : j = id
  · exact Or.inl (kept j (own ▸ sole))
  · rcases decided with sole | stuck
    · exact Or.inl (kept j (others j own ▸ sole))
    · have life : Transition.Reach (Note.Step cfg j) (fun _ _ => True) (s₁.note j) (s₂.note j) :=
        note_reach_from fresh₁ (fun _ _ _ _ _ => trivial) rested
      have stuck : (s₁.note j).Stuck := others j own ▸ stuck
      obtain ⟨tasks, same, refused⟩ := stuck.run life
      exact Or.inr (same ▸ stuck.of_tasks refused)

variable (cfg) in
theorem Sys.Quiet.decides_all (quiet : s.Quiet) (fresh : s.world.Fresh) (ids : List Nat) :
    ∃ s', Sys.Reach cfg (fun _ l => l.repairs = true) s s' ∧ s'.Quiet ∧ s'.world.Fresh ∧
      (∀ id ∈ ids, s'.Decided id) ∧ ∀ j, s.Decided j → s'.Decided j := by
  induction ids generalizing s with
  | nil => exact ⟨s, .start, quiet, fresh, fun _ mem => absurd mem List.not_mem_nil, fun _ decided => decided⟩
  | cons id ids ih =>
    obtain ⟨s₁, run, quiet₁, fresh₁, decided, kept⟩ := quiet.decides cfg fresh id
    obtain ⟨s₂, run', quiet₂, fresh₂, decided', kept'⟩ := ih quiet₁ fresh₁
    refine ⟨s₂, Transition.Reach.trans run run', quiet₂, fresh₂, fun j mem => ?_,
      fun j known => kept' j (kept j known)⟩
    rcases List.mem_cons.mp mem with rfl | mem
    · exact kept' j decided
    · exact decided' j mem

end Quiet

/-- Nothing is beyond repair but what is stuck: whatever has failed, was lost or was stopped before, the service
can be brought to rest, with manual retries and without a further failure, so that each notification is SENT or
FAILED, or is QUEUED with nobody to dispatch it. -/
theorem all_mended {cfg : Config} {s : Sys} (run : Sys.Reach cfg (fun _ _ => True) .initial s) :
    ∃ s', Sys.Reach cfg (fun _ l => l.repairs = true) s s' ∧ s'.Quiet ∧
      (∀ id r, s.world.rows id = some r → (s'.world.rows id).isSome = true) ∧
      ∀ id r, s'.world.rows id = some r →
        r.status = .sent ∨ r.status = .failed ∨ r.status = .queued ∧ s'.stranded id = true := by
  have fresh : s.world.Fresh := reach_fresh (fun _ _ => rfl) run
  obtain ⟨s₁, steadied, fresh₁, steady⟩ := Sys.steadies cfg fresh
  obtain ⟨s₂, rested, quiet₂, fresh₂, _⟩ := steady.rests cfg fresh₁
  obtain ⟨s₃, repaired, quiet₃, fresh₃, decided, kept⟩ :=
    quiet₂.decides_all cfg fresh₂ (List.range s₂.world.nextId)
  have mended : Sys.Reach cfg (fun _ l => l.repairs = true) s s₂ :=
    (Transition.Reach.trans steadied rested).mono fun _ _ mends => Label.repairs_of_mends mends
  have whole := Transition.Reach.trans mended repaired
  refine ⟨s₃, whole, quiet₃, fun id r row => ?_, fun id r row => ?_⟩
  · have kept : (s₃.world.rows id).map Notification.idempotencyKey = some r.idempotencyKey :=
      reach_column fresh (fun _ _ _ => rfl) whole (by rw [row]; rfl)
    obtain ⟨r', row', _⟩ := Option.map_eq_some_iff.mp kept
    rw [row']
    rfl
  have known : s₃.Decided id := by
    by_cases born : id < s₂.world.nextId
    · exact decided id (List.mem_range.mpr born)
    · refine kept id (Or.inl (quiet₂.sole ?_))
      rintro ⟨r', row', _⟩
      cases (fresh₂ id (Nat.le_of_not_lt born)).symm.trans row'
  rcases known with sole | stuck
  · exact (quiet₃.settled sole row).imp_right Or.inl
  · obtain ⟨r', row', queued⟩ := stuck.row
    cases row.symm.trans row'
    exact Or.inr (Or.inr ⟨queued, quiet₃.stranded id⟩)

/-- The commit of RETRYING is the last thing that a dispatch gets done. -/
def retryLost : List Label :=
  [.createNotification otpRequest] ++ calls 0 5 (accepting true) ++ [.dequeue .none] ++
    calls 1 6 (accepting false) ++ [.run 1 (.raised false) (accepting false)]

theorem all_mended_retryLost : ∃ s, Sys.Reach defaultConfig (fun _ _ => True) .initial s ∧
    (s.world.rows 1).map (·.status) = some .retrying ∧ s.stranded 1 = true ∧
      ∃ s', Sys.Reach defaultConfig (fun _ l => l.repairs = true) s s' ∧ s'.Quiet ∧
        (∀ id r, s.world.rows id = some r → (s'.world.rows id).isSome = true) ∧
        ∀ id r, s'.world.rows id = some r →
          r.status = .sent ∨ r.status = .failed ∨ r.status = .queued ∧ s'.stranded id = true := by
  have ran : (Transition.trace (Sys.step defaultConfig) (fun _ _ => true) .initial retryLost).map
      (fun s => ((s.world.rows 1).map (·.status), s.stranded 1)) = some (some .retrying, true) := by
    decide +kernel
  obtain ⟨s, hs, facts⟩ := Option.map_eq_some_iff.mp ran
  simp only [Prod.mk.injEq] at facts
  have run : Sys.Reach defaultConfig (fun _ _ => True) .initial s :=
    (Transition.trace_reach .start hs).mono fun _ _ _ => trivial
  exact ⟨s, run, facts.1, facts.2, all_mended run⟩

end NotificationEngine
