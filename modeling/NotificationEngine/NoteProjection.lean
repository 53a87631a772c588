import NotificationEngine.NoteSteps

namespace NotificationEngine

open Holders

/-- What a step is for notification `j`, as `seenAs` says it. -/
def Sys.SeenStep (cfg : Config) (j : Nat) (s s' : Sys) : Option NoteLabel → Prop
  | none => s'.note j = s.note j
  | some e => Note.Step cfg j (s.note j) e (s'.note j)

theorem taskOf_append (j : Nat) (ops : List Op) (op : Op) :
    ((ops ++ [op]).filterMap (Op.taskOf j) : Multiset Task) =
      put (op.taskOf j) (ops.filterMap (Op.taskOf j) : List Task) := by
  cases h : op.taskOf j with
  | none => simp [h]
  | some t =>
    simp only [List.filterMap_append, List.filterMap_cons, h, List.filterMap_nil, put_some,
      Multiset.cons_coe]
    exact Multiset.coe_eq_coe.mpr (List.perm_append_singleton _ _)

@[simp] theorem taskOf_ofNext (j id : Nat) (next : Option Task) :
    (Op.ofNext id next).taskOf j = if id = j then next else none := by
  cases next <;> simp [Op.ofNext, Op.taskOf]

theorem note_ops {j : Nat} {w : World} {ops ops' : List Op}
    (tasks : (ops'.filterMap (Op.taskOf j) : Multiset Task) = ops.filterMap (Op.taskOf j)) :
    Sys.note j ⟨w, ops'⟩ = Sys.note j ⟨w, ops⟩ := by
  simp only [Sys.note, tasks]

theorem note_append (j : Nat) (w : World) (ops : List Op) (op : Op) :
    Sys.note j ⟨w, ops ++ [op]⟩ =
      { Sys.note j ⟨w, ops⟩ with tasks := put (op.taskOf j) (Sys.note j ⟨w, ops⟩).tasks } := by
  have tasks := taskOf_append j ops op
  simp only [Sys.note, tasks]

theorem run_seen_task {cfg : Config} {s : Sys} {i j id : Nat} {fault : Fault} {env : Env} {t : Task}
    (hop : s.ops[i]? = some (.task id t)) :
    Sys.SeenStep cfg j s
      ⟨((Op.task id t).run cfg env s.world fault).1, s.ops.set i ((Op.task id t).run cfg env s.world fault).2⟩
      (s.seenAs j (.run i fault env)) := by
  obtain ⟨rest, before, after⟩ := filterMap_set (Op.taskOf j) hop
  have addressed := t.run_addressed cfg env id s.world.service (s.world.rows id) fault
  have tasks := after ((Op.task id t).run cfg env s.world fault).2
  by_cases h : id = j
  · subst h
    simp only [Op.run, taskOf_ofNext, if_pos] at tasks
    simp only [Op.taskOf, if_pos] at before
    simp only [Sys.seenAs, hop, Op.taskOf, if_pos, Sys.SeenStep, Op.run]
    rw [note_apply_self s.ops addressed tasks]
    exact Note.Step.ran t fault env s.world.service before
  · simp only [Op.run, taskOf_ofNext, if_neg h, put_none] at tasks
    simp only [Op.taskOf, if_neg h, put_none] at before
    simp only [Sys.seenAs, hop, Op.taskOf, if_neg h, Sys.SeenStep, Op.run]
    exact note_apply_other addressed h (tasks.trans before.symm)

theorem run_seen_saving {cfg : Config} {s : Sys} {i j id : Nat} {fault : Fault} {env : Env}
    {c : CreateOp} {pc : SavingPc} {rest : List NotificationChannel}
    (hop : s.ops[i]? = some (.create c)) (hc : c.pc = .saving id pc rest) :
    Sys.SeenStep cfg j s
      ⟨(c.run cfg env s.world fault).1, s.ops.set i (c.run cfg env s.world fault).2⟩
      (s.seenAs j (.run i fault env)) := by
  obtain ⟨others, before, after⟩ := filterMap_set (Op.taskOf j) hop
  obtain ⟨world, task⟩ := create_run_saving cfg env s.world fault hc
  have addressed := (Task.saving pc).run_addressed cfg env id s.world.service (s.world.rows id) fault
  have tasks := after (c.run cfg env s.world fault).2
  rw [task j] at tasks
  have own : (Op.create c).taskOf j = if id = j then some (.saving pc) else none := by
    simp [Op.taskOf, hc]
  rw [own] at before
  rw [world]
  by_cases h : id = j
  · subst h
    simp only [Sys.seenAs, hop, own, if_pos, Sys.SeenStep]
    simp only [if_pos] at tasks before
    rw [note_apply_self s.ops addressed tasks]
    exact Note.Step.ran _ fault env s.world.service before
  · simp only [if_neg h, put_none] at tasks before
    have unseen : s.seenAs j (.run i fault env) = none := by
      simp [Sys.seenAs, hop, own, h, hc]
    rw [unseen]
    exact note_apply_other addressed h (tasks.trans before.symm)

theorem run_seen_insert {cfg : Config} {s : Sys} {i j : Nat} {fault : Fault} {env : Env}
    {c : CreateOp} {channel : NotificationChannel} {rest : List NotificationChannel}
    (free : s.world.rows s.world.nextId = none)
    (hop : s.ops[i]? = some (.create c)) (hc : c.pc = .insert channel rest)
    (hr : s.world.insertResult (c.newRow env channel) = .inserted) :
    Sys.SeenStep cfg j s
      ⟨(c.run cfg env s.world fault).1, s.ops.set i (c.run cfg env s.world fault).2⟩
      (s.seenAs j (.run i fault env)) := by
  obtain ⟨others, before, after⟩ := filterMap_set (Op.taskOf j) hop
  have own : (Op.create c).taskOf j = none := by simp [Op.taskOf, hc]
  rw [own, put_none] at before
  have tasks := after (c.run cfg env s.world fault).2
  rw [← before] at tasks
  obtain ⟨world, unseen⟩ := create_run_insert cfg fault hc hr
  by_cases h : s.world.nextId = j
  · subst h
    simp only [Sys.seenAs, hop, own, hc, hr, true_and]
    have born (lost : Bool) (world : (c.run cfg env s.world fault).1 = s.world.insert (c.newRow env channel))
        (task : (c.run cfg env s.world fault).2.taskOf s.world.nextId =
          if lost then none else some (.saving .refresh)) :
        Note.Step cfg s.world.nextId (s.note s.world.nextId) (.inserted lost)
          (Sys.note s.world.nextId
            ⟨(c.run cfg env s.world fault).1, s.ops.set i (c.run cfg env s.world fault).2⟩) := by
      rw [task] at tasks
      rw [world, note_insert_self s.ops tasks]
      exact Note.Step.inserted lost c.payload channel env.now free
    have lost (hw : (c.run cfg env s.world fault).1 = s.world)
        (task : (c.run cfg env s.world fault).2.taskOf s.world.nextId = none) :
        Sys.note s.world.nextId
          ⟨(c.run cfg env s.world fault).1, s.ops.set i (c.run cfg env s.world fault).2⟩ =
            s.note s.world.nextId := by
      rw [task, put_none] at tasks
      rw [hw]
      exact note_ops tasks
    cases fault with
    | none =>
      exact born false (by simp [CreateOp.run, CreateOp.act, hc, hr])
        (by simp [CreateOp.run, CreateOp.act, hc, hr, Op.taskOf])
    | raised effect =>
      have task : (c.run cfg env s.world (.raised effect)).2.taskOf s.world.nextId = none := by
        simp [CreateOp.run, CreateOp.afterRaise, hc, Op.taskOf]
      cases effect with
      | false => exact lost (by simp [CreateOp.run]) task
      | true => exact born true (by simp [CreateOp.run, CreateOp.act, hc, hr]) task
    | stopped effect =>
      cases effect with
      | false => exact lost (by simp [CreateOp.run]) rfl
      | true => exact born true (by simp [CreateOp.run, CreateOp.act, hc, hr]) rfl
  · have nothing : s.seenAs j (.run i fault env) = none := by
      simp [Sys.seenAs, hop, own, hc, h]
    rw [unseen j h, put_none] at tasks
    rw [nothing]
    rcases world with world | world
    · rw [world]
      exact note_ops tasks
    · rw [world]
      exact note_insert_other h tasks

theorem run_seen_create {cfg : Config} {s : Sys} {i j : Nat} {fault : Fault} {env : Env}
    {c : CreateOp} (free : s.world.rows s.world.nextId = none) (hop : s.ops[i]? = some (.create c)) :
    Sys.SeenStep cfg j s
      ⟨(c.run cfg env s.world fault).1, s.ops.set i (c.run cfg env s.world fault).2⟩
      (s.seenAs j (.run i fault env)) := by
  by_cases saving : ∃ id pc rest, c.pc = .saving id pc rest
  · obtain ⟨id, pc, rest, hc⟩ := saving
    exact run_seen_saving hop hc
  by_cases insert : ∃ channel rest, c.pc = .insert channel rest ∧
      s.world.insertResult (c.newRow env channel) = .inserted
  · obtain ⟨channel, rest, hc, hr⟩ := insert
    exact run_seen_insert free hop hc hr
  have hc : ∀ id pc rest, c.pc ≠ .saving id pc rest := fun id pc rest h => saving ⟨id, pc, rest, h⟩
  have hi : ∀ channel rest, c.pc = .insert channel rest →
      s.world.insertResult (c.newRow env channel) ≠ .inserted :=
    fun channel rest h hr => insert ⟨channel, rest, h, hr⟩
  have own := create_taskOf j c hc
  have nothing : s.seenAs j (.run i fault env) = none := by
    simp only [Sys.seenAs, hop, own]
    cases h : c.pc with
    | insert channel rest => simp [hi channel rest h]
    | _ => rfl
  obtain ⟨others, before, after⟩ := filterMap_set (Op.taskOf j) hop
  have tasks := after (c.run cfg env s.world fault).2
  obtain ⟨world, task⟩ := create_run_other cfg fault hc hi j
    (s.ops.set i (c.run cfg env s.world fault).2)
  rw [task, put_none] at tasks
  rw [own, put_none] at before
  rw [nothing]
  exact world.trans (note_ops (tasks.trans before.symm))

theorem dequeue_note {s : Sys} {j id : Nat} {queue : SortedSet Nat} {ops : List Op}
    {task : Option Task} (hp : s.world.queue.popMin memberKey = some (id, queue))
    (tasks : (ops.filterMap (Op.taskOf j) : Multiset Task) =
      put (if id = j then task else none) (s.ops.filterMap (Op.taskOf j) : List Task)) :
    Sys.note j ⟨{ s.world with queue := queue }, ops⟩ =
      if id = j then { s.note j with queued := false, tasks := put task (s.note j).tasks }
      else s.note j := by
  by_cases h : id = j
  · subst h
    have gone : decide (id ∈ queue) = false := by simp [SortedSet.mem_of_popMin hp]
    simp only [if_pos] at tasks
    simp [Sys.note, tasks, gone]
  · have same : decide (j ∈ queue) = decide (j ∈ s.world.queue) := by
      simp [SortedSet.mem_of_popMin hp, Ne.symm h]
    simp only [if_neg h, put_none] at tasks
    simp [Sys.note, tasks, same, h]

theorem dequeue_seen {cfg : Config} {s s' : Sys} {j : Nat} {fault : Fault}
    (h : s.step cfg (.dequeue fault) = some s') :
    Sys.SeenStep cfg j s s' (s.seenAs j (.dequeue fault)) := by
  cases hp : s.world.queue.popMin memberKey with
  | none =>
    simp only [Sys.step, hp, Option.some.injEq] at h
    subst h
    simp [Sys.seenAs, hp, Sys.SeenStep]
  | some popped =>
    obtain ⟨id, queue⟩ := popped
    have queued : id = j → (s.note j).queued = true := by
      rintro rfl
      simpa [Sys.note] using SortedSet.popMin_mem hp
    have unheard : Sys.note j ⟨{ s.world with queue := queue }, s.ops⟩ =
        if id = j then { s.note j with queued := false, tasks := put none (s.note j).tasks }
        else s.note j := dequeue_note hp (by simp)
    by_cases hf : fault = .none
    · subst hf
      simp only [Sys.step, hp, if_pos, Option.some.injEq] at h
      subst h
      have heard : Sys.note j ⟨{ s.world with queue := queue }, s.ops ++ [.task id (.dispatch .select)]⟩ =
          if id = j then { s.note j with
            queued := false, tasks := put (some (.dispatch .select)) (s.note j).tasks }
          else s.note j := dequeue_note hp (by rw [taskOf_append]; rfl)
      by_cases hj : id = j
      · simp only [hj, if_pos] at heard
        simp only [Sys.seenAs, hp, hj, Fault.effect, and_self, if_pos, Sys.SeenStep]
        rw [heard]
        exact Note.Step.dequeued false (queued hj)
      · simpa [Sys.seenAs, hp, hj, Sys.SeenStep] using heard
    · simp only [Sys.step, hp, if_neg hf, Option.some.injEq] at h
      subst h
      by_cases hj : id = j ∧ fault.effect = true
      · simp only [hj.1, if_pos] at unheard
        simp only [Sys.seenAs, hp, hj, and_self, if_pos, Sys.SeenStep, ne_eq, hf, not_false_eq_true,
          decide_true]
        rw [unheard]
        exact Note.Step.dequeued true (queued hj.1)
      · have nothing : s.seenAs j (.dequeue fault) = none := by simp [Sys.seenAs, hp, hj]
        rw [nothing]
        cases he : fault.effect with
        | false => simp [Sys.SeenStep]
        | true => simpa [Sys.SeenStep, show id ≠ j from fun same => hj ⟨same, he⟩] using unheard

/-- Every step of the service is, for each notification, a step of its life or nothing. -/
theorem step_seen {cfg : Config} {s s' : Sys} {l : Label} (j : Nat)
    (free : s.world.rows s.world.nextId = none) (h : s.step cfg l = some s') :
    Sys.SeenStep cfg j s s' (s.seenAs j l) := by
  cases l with
  | createNotification payload =>
    cases Option.some.inj h
    exact note_append j s.world s.ops _
  | retryNotification id =>
    cases Option.some.inj h
    have note := note_append j s.world s.ops (.task id (.retry .select))
    by_cases hj : id = j
    · simp only [Sys.seenAs, hj, if_pos, Sys.SeenStep]
      simp only [Op.taskOf, hj, if_pos] at note
      rw [note]
      exact Note.Step.requested
    · simpa [Sys.seenAs, hj, Sys.SeenStep, Op.taskOf] using note
  | dequeue fault => exact dequeue_seen h
  | expire now =>
    cases hq : s.world.retryQueue with
    | nil => simp [Sys.step, hq] at h
    | cons m rest =>
      simp only [Sys.step, hq] at h
      split at h
      next =>
        cases Option.some.inj h
        by_cases hj : m.notificationId = j
        · simp only [Sys.seenAs, hq, hj, if_pos, Sys.SeenStep]
          have step : Note.Step cfg j (s.note j) .expired { s.note j with
              waiting := rest.countP fun m => m.notificationId = j, ready := (s.note j).ready + 1 } :=
            Note.Step.expired (by simp [Sys.note, hq, hj])
          simpa [Sys.note] using step
        · simp [Sys.seenAs, hq, hj, Sys.SeenStep, Sys.note]
      next => simp at h
  | deliver =>
    cases hq : s.world.retryResult with
    | nil => simp [Sys.step, hq] at h
    | cons id rest =>
      simp only [Sys.step, hq, Option.some.injEq] at h
      subst h
      have note := note_append j { s.world with retryResult := rest } s.ops (.task id (.event .select))
      by_cases hj : id = j
      · simp only [Sys.seenAs, hq, hj, if_pos, Sys.SeenStep]
        simp only [Op.taskOf, hj, if_pos] at note
        rw [note]
        exact Note.Step.delivered (n := s.note j) (by simp [Sys.note, hq, hj])
      · simp only [Sys.seenAs, hq, hj, if_neg, Sys.SeenStep, not_false_eq_true]
        simp only [Op.taskOf, if_neg hj, put_none] at note
        rw [note]
        simp [Sys.note, hq, hj]
  | forget key =>
    cases Option.some.inj h
    simp [Sys.seenAs, Sys.SeenStep, Sys.note]
  | restart =>
    cases Option.some.inj h
    simp [Sys.seenAs, Sys.SeenStep, Sys.note]
  | run i fault env =>
    obtain ⟨op, hop, rfl⟩ := Option.map_eq_some_iff.mp h
    cases op with
    | task id t => exact run_seen_task hop
    | create c => exact run_seen_create free hop
    | done =>
      obtain ⟨others, before, after⟩ := filterMap_set (Op.taskOf j) hop
      simp only [Sys.seenAs, hop, Op.taskOf]
      exact note_ops ((after .done).trans before.symm)

end NotificationEngine
