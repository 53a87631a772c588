import NotificationEngine.NoteRuns
import NotificationEngine.TaskSteps

namespace NotificationEngine

/-- Where a `_worker_loop` stands: not begun, at the answer of `dequeue`, at an awaited call of the
dispatch that is operation `i`, or left. -/
inductive WorkerPc
  | created
  | dequeue
  | dispatching (i : Nat)
  | returned
  deriving DecidableEq

/-- A `NotificationWorker` in its process: `_running` and the loops in `_tasks`. -/
structure NotificationWorker where
  sys : Sys
  running : Bool
  tasks : List WorkerPc

/-- `concurrency or settings.worker_count`. -/
def concurrencyOf (concurrency : Option Nat) (workerCount : Nat) : Nat :=
  match concurrency with
  | none => workerCount
  | some n => if n = 0 then workerCount else n

/-- The pool after `start`. -/
def NotificationWorker.start (concurrency : Nat) (s : Sys) : NotificationWorker :=
  ⟨s, true, List.replicate concurrency .created⟩

/-- The test of `while self._running` and, if it holds, the call of `dequeue`. -/
def loopHead (running : Bool) : WorkerPc := if running then .dequeue else .returned

/-- What happens in the process: `stop` is called, a loop begins, worker `k` gets the answer of its `dequeue`
or of a call of its dispatch, or something else makes a step. -/
inductive WorkerLabel
  | stop
  | enter (k : Nat)
  | dequeue (k : Nat) (fault : Fault)
  | dispatch (k : Nat) (fault : Fault) (env : Env)
  | other (l : Label)

def Fault.isStopped : Fault → Bool
  | stopped _ => true
  | _ => false

/-- A dispatch that has not ended. -/
def Op.dispatches : Op → Bool
  | task _ (.dispatch _) => true
  | _ => false

/-- The steps of the process that are none of a worker: no dispatch is among them, and the process lives on. -/
def NotificationWorker.elsewhere (p : NotificationWorker) : Label → Bool
  | .dequeue _ => false
  | .restart => false
  | .run i fault _ => !fault.isStopped && p.tasks.all (· ≠ .dispatching i)
  | _ => true

/-- One step. `dequeue` answers `None` when nothing waits or its call raised, and whatever `dispatch` raises is
logged: both lead back to the head of the loop. -/
def NotificationWorker.step (cfg : Config) (p : NotificationWorker) : WorkerLabel → Option NotificationWorker
  | .stop => some { p with running := false }
  | .enter k => match p.tasks[k]? with
    | some .created => some { p with tasks := p.tasks.set k (loopHead p.running) }
    | _ => none
  | .dequeue k fault => match p.tasks[k]? with
    | some .dequeue =>
      if fault.isStopped then none
      else (p.sys.step cfg (.dequeue fault)).map fun s =>
        { p with
          sys := s
          tasks := p.tasks.set k
            (if p.sys.ops.length < s.ops.length then .dispatching p.sys.ops.length
              else loopHead p.running) }
    | _ => none
  | .dispatch k fault env => match p.tasks[k]? with
    | some (.dispatching i) =>
      if fault.isStopped then none
      else (p.sys.step cfg (.run i fault env)).map fun s =>
        { p with
          sys := s
          tasks := p.tasks.set k
            (if s.ops[i]?.any Op.dispatches then .dispatching i else loopHead p.running) }
    | _ => none
  | .other l => if p.elsewhere l then (p.sys.step cfg l).map fun s => { p with sys := s } else none

abbrev NotificationWorker.Reach (cfg : Config) (ok : NotificationWorker → WorkerLabel → Prop) :
    NotificationWorker → NotificationWorker → Prop :=
  Transition.Reach (fun p l p' => p.step cfg l = some p') ok

/-- The step of the service that a step of the pool is, if it is one. -/
def NotificationWorker.sees (p : NotificationWorker) : WorkerLabel → Option Label
  | .stop => none
  | .enter _ => none
  | .dequeue _ fault => some (.dequeue fault)
  | .dispatch k fault env => match p.tasks[k]? with
    | some (.dispatching i) => some (.run i fault env)
    | _ => none
  | .other l => some l

/-- `stop` has returned: every loop has been left. -/
def NotificationWorker.Stopped (p : NotificationWorker) : Prop :=
  p.running = false ∧ ∀ w ∈ p.tasks, w = .returned

section Steps

variable {cfg : Config} {p p' : NotificationWorker} {l : WorkerLabel}

/-- All that a step of the pool can be. -/
inductive NotificationWorker.Step (cfg : Config) (p : NotificationWorker) :
    WorkerLabel → NotificationWorker → Prop
  | stop : Step cfg p .stop { p with running := false }
  | enter {k} : p.tasks[k]? = some .created →
      Step cfg p (.enter k) { p with tasks := p.tasks.set k (loopHead p.running) }
  | popped {k id queue} : p.tasks[k]? = some .dequeue → p.sys.world.queue.popMin memberKey = some (id, queue) →
      Step cfg p (.dequeue k .none)
        ⟨⟨{ p.sys.world with queue := queue }, p.sys.ops ++ [.task id (.dispatch .select)]⟩, p.running,
          p.tasks.set k (.dispatching p.sys.ops.length)⟩
  | unpopped {k fault s} : p.tasks[k]? = some .dequeue → p.sys.step cfg (.dequeue fault) = some s →
      s.ops = p.sys.ops → Step cfg p (.dequeue k fault) ⟨s, p.running, p.tasks.set k (loopHead p.running)⟩
  | dispatch {k i fault env op} : p.tasks[k]? = some (.dispatching i) → fault.isStopped = false →
      p.sys.ops[i]? = some op →
      Step cfg p (.dispatch k fault env)
        ⟨⟨(op.run cfg env p.sys.world fault).1, p.sys.ops.set i (op.run cfg env p.sys.world fault).2⟩, p.running,
          p.tasks.set k (if (op.run cfg env p.sys.world fault).2.dispatches then .dispatching i
            else loopHead p.running)⟩
  | other {l s} : p.elsewhere l = true → p.sys.step cfg l = some s →
      Step cfg p (.other l) { p with sys := s }

theorem NotificationWorker.step_cases (h : p.step cfg l = some p') : NotificationWorker.Step cfg p l p' := by
  cases l with
  | stop =>
    cases Option.some.inj h
    exact .stop
  | enter k =>
    simp only [NotificationWorker.step] at h
    split at h
    next at_ =>
      cases Option.some.inj h
      exact .enter at_
    next => cases h
  | dequeue k fault =>
    simp only [NotificationWorker.step] at h
    split at h
    next at_ =>
      split at h
      next => cases h
      next lives =>
        obtain ⟨s, step, rfl⟩ := Option.map_eq_some_iff.mp h
        by_cases served : ∃ found, fault = .none ∧ p.sys.world.queue.popMin memberKey = some found
        · obtain ⟨⟨id, queue⟩, rfl, popped⟩ := served
          simp only [Sys.step, popped, if_true, Option.some.injEq] at step
          subst step
          have made : NotificationWorker.Step cfg _ _ _ := .popped at_ popped
          simpa using made
        · have same : s.ops = p.sys.ops := by
            have stepped := step
            simp only [Sys.step] at stepped
            split at stepped
            next => cases Option.some.inj stepped; rfl
            next popped =>
              split at stepped
              next none => exact absurd ⟨_, none, popped⟩ served
              next => split at stepped <;> cases Option.some.inj stepped <;> rfl
          simpa [same] using NotificationWorker.Step.unpopped at_ step same
    next => cases h
  | dispatch k fault env =>
    simp only [NotificationWorker.step] at h
    split at h
    next i at_ =>
      split at h
      next => cases h
      next lives =>
        obtain ⟨s, step, rfl⟩ := Option.map_eq_some_iff.mp h
        obtain ⟨op, hop, rfl⟩ := Option.map_eq_some_iff.mp step
        have inside : i < p.sys.ops.length := (List.getElem?_eq_some_iff.mp hop).1
        have stays : (p.sys.ops.set i (op.run cfg env p.sys.world fault).2)[i]? =
            some (op.run cfg env p.sys.world fault).2 := List.getElem?_set_self inside
        have made : NotificationWorker.Step cfg p (.dispatch k fault env) _ :=
          .dispatch at_ (by simpa using lives) hop
        simpa only [stays, Option.any_some] using made
    next => cases h
  | other l =>
    simp only [NotificationWorker.step] at h
    split at h
    next outside =>
      obtain ⟨s, step, rfl⟩ := Option.map_eq_some_iff.mp h
      exact .other outside step
    next => cases h

/-- A run of the pool is a run of the service. -/
theorem NotificationWorker.refines {okPool : NotificationWorker → WorkerLabel → Prop} {ok : Sys → Label → Prop}
    (sees : ∀ p l m, okPool p l → p.sees l = some m → ok p.sys m) (run : NotificationWorker.Reach cfg okPool p p') :
    Sys.Reach cfg ok p.sys p'.sys := by
  refine run.project NotificationWorker.sys fun a l b _ admitted step => ?_
  cases NotificationWorker.step_cases step with
  | stop => exact Or.inl rfl
  | enter _ => exact Or.inl rfl
  | popped at_ popped =>
    exact Or.inr ⟨.dequeue .none, sees a _ _ admitted rfl, by simp only [Sys.step, popped, if_true]⟩
  | unpopped at_ stepped _ => exact Or.inr ⟨_, sees a _ _ admitted rfl, stepped⟩
  | @dispatch k i fault env op at_ _ hop =>
    refine Or.inr ⟨.run i fault env, sees a _ _ admitted ?_, ?_⟩
    · simp only [NotificationWorker.sees, at_]
    · simp only [Sys.step, hop, Option.map_some]
  | other _ stepped => exact Or.inr ⟨_, sees a _ _ admitted rfl, stepped⟩

/-- A loop that has a dispatch in progress. -/
def WorkerPc.busy : WorkerPc → Bool
  | dispatching _ => true
  | _ => false

@[simp] theorem busy_loopHead (running : Bool) : (loopHead running).busy = false := by cases running <;> rfl

theorem loopHead_ne_dispatching (running : Bool) (i : Nat) : loopHead running ≠ .dispatching i := by
  cases running <;> exact WorkerPc.noConfusion

/-- Each dispatch in progress is that of exactly one worker, and no worker gives up while the pool runs. -/
structure NotificationWorker.Sound (concurrency : Nat) (p : NotificationWorker) : Prop where
  size : p.tasks.length = concurrency
  owned : ∀ k i : Nat, p.tasks[k]? = some (.dispatching i) → ∃ op, p.sys.ops[i]? = some op ∧ op.dispatches = true
  distinct : ∀ k k' i : Nat, p.tasks[k]? = some (.dispatching i) → p.tasks[k']? = some (.dispatching i) → k = k'
  served : ∀ i op, p.sys.ops[i]? = some op → op.dispatches = true → ∃ k : Nat, p.tasks[k]? = some (.dispatching i)
  count : p.sys.ops.countP Op.dispatches = p.tasks.countP WorkerPc.busy
  alive : p.running = true → ∀ w ∈ p.tasks, w ≠ .returned

theorem Op.run_dispatches {cfg : Config} {env : Env} {w : World} {fault : Fault} {op : Op}
    (h : (op.run cfg env w fault).2.dispatches = true) : op.dispatches = true := by
  cases op with
  | create c => cases fault <;> cases h
  | done => cases h
  | task id t =>
    simp only [Op.run] at h
    cases next : (t.run cfg env id w.service (w.rows id) fault).next with
    | none =>
      rw [next] at h
      cases h
    | some u =>
      rw [next] at h
      cases Task.run_goes next <;> first | rfl | cases h

variable {concurrency : Nat}

/-- A worker without a dispatch that comes to the head of its loop leaves the others as they are. -/
theorem NotificationWorker.Sound.freed (sound : p.Sound concurrency) {k : Nat} {w : WorkerPc} {s : Sys}
    (at_ : p.tasks[k]? = some w) (idle : w.busy = false) (ops : s.ops = p.sys.ops) :
    NotificationWorker.Sound concurrency ⟨s, p.running, p.tasks.set k (loopHead p.running)⟩ := by
  have inside : k < p.tasks.length := (List.getElem?_eq_some_iff.mp at_).1
  have kept (k' i : Nat) : (p.tasks.set k (loopHead p.running))[k']? = some (.dispatching i) ↔
      p.tasks[k']? = some (.dispatching i) := by
    by_cases own : k = k'
    · subst own
      rw [List.getElem?_set_self inside]
      constructor
      · intro there
        exact absurd (Option.some.inj there) (loopHead_ne_dispatching _ _)
      · intro there
        cases at_.symm.trans there
        cases idle
    · rw [List.getElem?_set_ne own]
  refine ⟨by simpa using sound.size, fun k' i there => ?_, fun a b i ha hb => ?_, fun i op hop own => ?_,
    ?_, fun runs v mem => ?_⟩
  · exact ops ▸ sound.owned k' i ((kept k' i).mp there)
  · exact sound.distinct a b i ((kept a i).mp ha) ((kept b i).mp hb)
  · obtain ⟨k', there⟩ := sound.served i op (ops ▸ hop) own
    exact ⟨k', (kept k' i).mpr there⟩
  · have set := Holders.countP_set WorkerPc.busy at_ (loopHead p.running)
    rw [idle, busy_loopHead] at set
    have count := sound.count
    dsimp only
    rw [ops]
    omega
  · rcases List.mem_or_eq_of_mem_set mem with old | rfl
    · exact sound.alive runs v old
    · rw [loopHead, show p.running = true from runs]
      exact WorkerPc.noConfusion

/-- Only a `dequeue` starts a dispatch. -/
theorem Sys.step_undispatched {s s' : Sys} {m : Label} (other : ∀ fault, m ≠ .dequeue fault)
    (h : s.step cfg m = some s') :
    (∃ i fault env op, m = .run i fault env ∧ s.ops[i]? = some op ∧
      s'.ops = s.ops.set i (op.run cfg env s.world fault).2) ∨
    s'.ops = s.ops ∨ ∃ op, s'.ops = s.ops ++ [op] ∧ op.dispatches = false := by
  cases m with
  | run i fault env =>
    obtain ⟨op, hop, rfl⟩ := Option.map_eq_some_iff.mp h
    exact Or.inl ⟨i, fault, env, op, rfl, hop, rfl⟩
  | createNotification payload =>
    cases Option.some.inj h
    exact Or.inr (Or.inr ⟨_, rfl, rfl⟩)
  | retryNotification id =>
    cases Option.some.inj h
    exact Or.inr (Or.inr ⟨_, rfl, rfl⟩)
  | dequeue fault => exact absurd rfl (other fault)
  | expire now =>
    simp only [Sys.step] at h
    split at h
    next => cases h
    next =>
      split at h
      next => cases Option.some.inj h; exact Or.inr (Or.inl rfl)
      next => cases h
  | deliver =>
    simp only [Sys.step] at h
    split at h
    next => cases h
    next => cases Option.some.inj h; exact Or.inr (Or.inr ⟨_, rfl, rfl⟩)
  | forget key => cases Option.some.inj h; exact Or.inr (Or.inl rfl)
  | restart => cases Option.some.inj h; exact Or.inr (Or.inl rfl)

/-- A step outside the workers neither starts nor ends a dispatch, and leaves theirs where they are. -/
theorem NotificationWorker.Sound.elsewhere_ops (sound : p.Sound concurrency) {m : Label} {s : Sys}
    (outside : p.elsewhere m = true) (step : p.sys.step cfg m = some s) :
    (∀ (i : Nat) (op : Op), p.sys.ops[i]? = some op → op.dispatches = true → s.ops[i]? = some op) ∧
      (∀ (i : Nat) (op : Op), s.ops[i]? = some op → op.dispatches = true → p.sys.ops[i]? = some op) ∧
      s.ops.countP Op.dispatches = p.sys.ops.countP Op.dispatches := by
  have popless : ∀ fault, m ≠ .dequeue fault := by
    rintro fault rfl
    cases outside
  rcases Sys.step_undispatched popless step with
    ⟨i, fault, env, op, rfl, hop, ops⟩ | same | ⟨op, ops, idle⟩
  · have foreign : op.dispatches = false := by
      cases own : op.dispatches with
      | false => rfl
      | true =>
        obtain ⟨k, there⟩ := sound.served i op hop own
        simp only [NotificationWorker.elsewhere, Bool.and_eq_true, List.all_eq_true] at outside
        exact absurd rfl (of_decide_eq_true (outside.2 _ (List.mem_of_getElem? there)))
    have after : (op.run cfg env p.sys.world fault).2.dispatches = false := by
      cases ran : (op.run cfg env p.sys.world fault).2.dispatches with
      | false => rfl
      | true =>
        rw [Op.run_dispatches ran] at foreign
        cases foreign
    rw [ops]
    refine ⟨fun i' op' hop' own => ?_, fun i' op' hop' own => ?_, ?_⟩
    · have ne : i ≠ i' := by
        rintro rfl
        cases hop.symm.trans hop'
        rw [foreign] at own
        cases own
      rwa [List.getElem?_set_ne ne]
    · by_cases same : i = i'
      · subst same
        rw [List.getElem?_set_self (List.getElem?_eq_some_iff.mp hop).1] at hop'
        cases Option.some.inj hop'
        rw [after] at own
        cases own
      · rwa [List.getElem?_set_ne same] at hop'
    · have set := Holders.countP_set Op.dispatches hop (op.run cfg env p.sys.world fault).2
      rw [foreign, after] at set
      simpa using set
  · rw [same]
    exact ⟨fun _ _ hop _ => hop, fun _ _ hop _ => hop, rfl⟩
  · rw [ops]
    refine ⟨fun i op' hop _ => ?_, fun i op' hop own => ?_, ?_⟩
    · rwa [List.getElem?_append_left (List.getElem?_eq_some_iff.mp hop).1]
    · by_cases old : i < p.sys.ops.length
      · rwa [List.getElem?_append_left old] at hop
      · rw [List.getElem?_append_right (by omega)] at hop
        have new : op' = op := List.mem_singleton.mp (List.mem_of_getElem? hop)
        rw [new, idle] at own
        cases own
    · simp [idle]

theorem NotificationWorker.Sound.other (sound : p.Sound concurrency) {m : Label} {s : Sys}
    (outside : p.elsewhere m = true) (step : p.sys.step cfg m = some s) :
    NotificationWorker.Sound concurrency { p with sys := s } := by
  obtain ⟨kept, old, count⟩ := sound.elsewhere_ops outside step
  refine ⟨sound.size, fun k i there => ?_, sound.distinct, fun i op hop own => ?_,
    count.trans sound.count, sound.alive⟩
  · obtain ⟨op, hop, own⟩ := sound.owned k i there
    exact ⟨op, kept i op hop own, own⟩
  · exact sound.served i op (old i op hop own) own

/-- A worker that has popped an id has its dispatch to itself. -/
theorem NotificationWorker.Sound.popped (sound : p.Sound concurrency) {k : Nat} (w : World) (id : Nat)
    (at_ : p.tasks[k]? = some .dequeue) :
    NotificationWorker.Sound concurrency ⟨⟨w, p.sys.ops ++ [.task id (.dispatch .select)]⟩, p.running,
      p.tasks.set k (.dispatching p.sys.ops.length)⟩ := by
  have inside : k < p.tasks.length := (List.getElem?_eq_some_iff.mp at_).1
  have last : (p.sys.ops ++ [.task id (.dispatch .select)])[p.sys.ops.length]? =
      some (.task id (.dispatch .select)) := by simp
  have within {k' i : Nat} (there : p.tasks[k']? = some (.dispatching i)) : i < p.sys.ops.length := by
    obtain ⟨op, hop, _⟩ := sound.owned k' i there
    exact (List.getElem?_eq_some_iff.mp hop).1
  have cases_ {k' i : Nat} (there : (p.tasks.set k (.dispatching p.sys.ops.length))[k']? =
      some (.dispatching i)) : k' = k ∧ i = p.sys.ops.length ∨
        k' ≠ k ∧ p.tasks[k']? = some (.dispatching i) := by
    by_cases own : k = k'
    · subst own
      rw [List.getElem?_set_self inside] at there
      cases there
      exact Or.inl ⟨rfl, rfl⟩
    · rw [List.getElem?_set_ne own] at there
      exact Or.inr ⟨Ne.symm own, there⟩
  refine ⟨by simpa using sound.size, fun k' i there => ?_, fun a b i ha hb => ?_, fun i op hop own => ?_,
    ?_, fun runs v mem => ?_⟩
  · rcases cases_ there with ⟨rfl, rfl⟩ | ⟨_, before⟩
    · exact ⟨_, last, rfl⟩
    · obtain ⟨op, hop, own⟩ := sound.owned k' i before
      refine ⟨op, ?_, own⟩
      rwa [List.getElem?_append_left (within before)]
  · rcases cases_ ha with ⟨rfl, rfl⟩ | ⟨_, ha⟩
    · rcases cases_ hb with ⟨rfl, _⟩ | ⟨_, hb⟩
      · rfl
      · exact absurd (within hb) (Nat.lt_irrefl _)
    · rcases cases_ hb with ⟨_, rfl⟩ | ⟨_, hb⟩
      · exact absurd (within ha) (Nat.lt_irrefl _)
      · exact sound.distinct a b i ha hb
  · by_cases old : i < p.sys.ops.length
    · rw [List.getElem?_append_left old] at hop
      obtain ⟨k', there⟩ := sound.served i op hop own
      have ne : k ≠ k' := by
        rintro rfl
        cases at_.symm.trans there
      exact ⟨k', by rwa [List.getElem?_set_ne ne]⟩
    · have new : i = p.sys.ops.length := by
        have bound := (List.getElem?_eq_some_iff.mp hop).1
        simp only [List.length_append, List.length_singleton] at bound
        omega
      exact ⟨k, by rw [List.getElem?_set_self inside, new]⟩
  · have set := Holders.countP_set WorkerPc.busy at_ (.dispatching p.sys.ops.length)
    have one : [Op.task id (.dispatch .select)].countP Op.dispatches = 1 := rfl
    have idle : WorkerPc.dequeue.busy.toNat = 0 := rfl
    have busy : (WorkerPc.dispatching p.sys.ops.length).busy.toNat = 1 := rfl
    rw [idle, busy] at set
    simp only [List.countP_append, one, sound.count]
    omega
  · rcases List.mem_or_eq_of_mem_set mem with old | rfl
    · exact sound.alive runs v old
    · exact WorkerPc.noConfusion

/-- A call of a dispatch leaves it with its worker, or ends it and frees the worker. -/
theorem NotificationWorker.Sound.dispatched (sound : p.Sound concurrency) {k i : Nat} {op op' : Op} (w : World)
    (at_ : p.tasks[k]? = some (.dispatching i)) (hop : p.sys.ops[i]? = some op) :
    NotificationWorker.Sound concurrency ⟨⟨w, p.sys.ops.set i op'⟩, p.running,
      p.tasks.set k (if op'.dispatches then .dispatching i else loopHead p.running)⟩ := by
  have inside : k < p.tasks.length := (List.getElem?_eq_some_iff.mp at_).1
  have within : i < p.sys.ops.length := (List.getElem?_eq_some_iff.mp hop).1
  have own : op.dispatches = true := by
    obtain ⟨op₀, hop₀, own⟩ := sound.owned k i at_
    cases hop.symm.trans hop₀
    exact own
  have cases_ {k' i' : Nat} (there : (p.tasks.set k (if op'.dispatches then .dispatching i
      else loopHead p.running))[k']? = some (.dispatching i')) :
      k' = k ∧ i' = i ∧ op'.dispatches = true ∨ k' ≠ k ∧ i' ≠ i ∧ p.tasks[k']? = some (.dispatching i') := by
    by_cases same : k = k'
    · subst same
      rw [List.getElem?_set_self inside] at there
      split at there
      next goes =>
        cases there
        exact Or.inl ⟨rfl, rfl, goes⟩
      next => exact absurd (Option.some.inj there) (loopHead_ne_dispatching _ _)
    · rw [List.getElem?_set_ne same] at there
      refine Or.inr ⟨Ne.symm same, ?_, there⟩
      rintro rfl
      exact same (sound.distinct k k' i' at_ there)
  refine ⟨by simpa using sound.size, fun k' i' there => ?_, fun a b i' ha hb => ?_, fun i' op₁ hop₁ own₁ => ?_,
    ?_, fun runs v mem => ?_⟩
  · rcases cases_ there with ⟨rfl, rfl, goes⟩ | ⟨_, ne, before⟩
    · exact ⟨op', List.getElem?_set_self within, goes⟩
    · rw [List.getElem?_set_ne (Ne.symm ne)]
      exact sound.owned k' i' before
  · rcases cases_ ha with ⟨rfl, rfl, _⟩ | ⟨_, ne, ha⟩
    · rcases cases_ hb with ⟨rfl, _, _⟩ | ⟨_, ne, _⟩
      · rfl
      · exact absurd rfl ne
    · rcases cases_ hb with ⟨_, rfl, _⟩ | ⟨_, _, hb⟩
      · exact absurd rfl ne
      · exact sound.distinct a b i' ha hb
  · by_cases same : i = i'
    · subst same
      rw [List.getElem?_set_self within] at hop₁
      cases Option.some.inj hop₁
      exact ⟨k, by rw [List.getElem?_set_self inside, if_pos own₁]⟩
    · rw [List.getElem?_set_ne same] at hop₁
      obtain ⟨k', there⟩ := sound.served i' op₁ hop₁ own₁
      have ne : k ≠ k' := by
        rintro rfl
        cases at_.symm.trans there
        exact same rfl
      exact ⟨k', by rwa [List.getElem?_set_ne ne]⟩
  · have ops := Holders.countP_set Op.dispatches hop op'
    have tasks := Holders.countP_set WorkerPc.busy at_ (if op'.dispatches then .dispatching i
      else loopHead p.running)
    have busy : (WorkerPc.dispatching i).busy = true := rfl
    have next : (if op'.dispatches then WorkerPc.dispatching i else loopHead p.running).busy = op'.dispatches := by
      cases op'.dispatches <;> simp [busy]
    rw [next, busy] at tasks
    rw [own] at ops
    have count := sound.count
    dsimp only
    omega
  · rcases List.mem_or_eq_of_mem_set mem with old | rfl
    · exact sound.alive runs v old
    · split
      next => exact WorkerPc.noConfusion
      next =>
        rw [loopHead, show p.running = true from runs]
        exact WorkerPc.noConfusion

theorem NotificationWorker.Sound.step (sound : p.Sound concurrency) (h : p.step cfg l = some p') :
    p'.Sound concurrency := by
  cases NotificationWorker.step_cases h with
  | stop => exact ⟨sound.size, sound.owned, sound.distinct, sound.served, sound.count, fun runs => by cases runs⟩
  | enter at_ => exact sound.freed at_ rfl rfl
  | popped at_ _ => exact sound.popped _ _ at_
  | unpopped at_ _ ops => exact sound.freed at_ rfl ops
  | dispatch at_ _ hop => exact sound.dispatched _ at_ hop
  | other outside step => exact sound.other outside step

end Steps

theorem NotificationWorker.start_sound (concurrency : Nat) {s : Sys} (idle : ∀ op ∈ s.ops, op.dispatches = false) :
    (NotificationWorker.start concurrency s).Sound concurrency := by
  have created {k : Nat} {w : WorkerPc} (there : (List.replicate concurrency WorkerPc.created)[k]? = some w) :
      w = .created := List.eq_of_mem_replicate (List.mem_of_getElem? there)
  refine ⟨List.length_replicate, fun k i there => ?_, fun k k' i there _ => ?_, fun i op hop own => ?_, ?_,
    fun _ w mem => ?_⟩
  · cases created there
  · cases created there
  · rw [idle op (List.mem_of_getElem? hop)] at own
    cases own
  · have none : s.ops.countP Op.dispatches = 0 :=
      List.countP_eq_zero.mpr fun op mem => by simp [idle op mem]
    have nobody : (List.replicate concurrency WorkerPc.created).countP WorkerPc.busy = 0 :=
      List.countP_eq_zero.mpr fun w mem => by
        rw [List.eq_of_mem_replicate mem]
        exact Bool.false_ne_true
    exact none.trans nobody.symm
  · rw [List.eq_of_mem_replicate mem]
    exact WorkerPc.noConfusion

theorem NotificationWorker.reach_sound {cfg : Config} {ok : NotificationWorker → WorkerLabel → Prop}
    {concurrency : Nat} {p p' : NotificationWorker} (sound : p.Sound concurrency)
    (run : NotificationWorker.Reach cfg ok p p') : p'.Sound concurrency :=
  run.invariant sound fun _ _ _ sound _ step => sound.step step

/-- Started in a process without dispatches, a pool is a run of the service with at most `concurrency`
dispatches at a time, each of one worker; and whatever the dispatches raise, no worker is lost. -/
theorem workers_bounded {cfg : Config} {ok : NotificationWorker → WorkerLabel → Prop} {concurrency : Nat} {s : Sys}
    {p : NotificationWorker} (idle : ∀ op ∈ s.ops, op.dispatches = false)
    (run : NotificationWorker.Reach cfg ok (.start concurrency s) p) :
    Sys.Reach cfg (fun _ _ => True) s p.sys ∧
      p.sys.ops.countP Op.dispatches ≤ concurrency ∧
      (∀ (i : Nat) (op : Op), p.sys.ops[i]? = some op → op.dispatches = true →
        ∃! k : Nat, p.tasks[k]? = some (.dispatching i)) ∧
      (p.running = true → p.tasks.length = concurrency ∧ ∀ w ∈ p.tasks, w ≠ .returned) := by
  have sound := NotificationWorker.reach_sound (NotificationWorker.start_sound concurrency idle) run
  refine ⟨NotificationWorker.refines (fun _ _ _ _ _ => trivial) run, ?_, fun i op hop own => ?_,
    fun runs => ⟨sound.size, sound.alive runs⟩⟩
  · rw [sound.count, ← sound.size]
    exact List.countP_le_length
  · obtain ⟨k, there⟩ := sound.served i op hop own
    exact ⟨k, there, fun k' there' => sound.distinct k' k i there' there⟩

/-- Two workers, of which one has popped the id of an OTP and the other has found nothing. -/
def twoWorkers : List WorkerLabel :=
  [.enter 0, .enter 1, .other (.createNotification otpRequest)] ++
    (calls 0 5 (accepting true)).map .other ++ [.dequeue 0 .none, .dequeue 1 .none]

theorem workers_bounded_two : ∃ p,
    NotificationWorker.Reach defaultConfig (fun _ _ => true = true) (.start 2 .initial) p ∧
      p.sys.ops.countP Op.dispatches = 1 ∧ p.sys.ops.countP Op.dispatches ≤ 2 := by
  have ran : (Transition.trace (NotificationWorker.step defaultConfig) (fun _ _ => true) (.start 2 .initial)
      twoWorkers).map (fun p => p.sys.ops.countP Op.dispatches) = some 1 := by decide +kernel
  obtain ⟨p, hp, one⟩ := Option.map_eq_some_iff.mp ran
  have run : NotificationWorker.Reach defaultConfig (fun _ _ => true = true) (.start 2 .initial) p :=
    Transition.trace_reach .start hp
  have none : ∀ op ∈ Sys.initial.ops, op.dispatches = false := fun op mem => absurd mem List.not_mem_nil
  exact ⟨p, run, one, (workers_bounded none run).2.1⟩

end NotificationEngine
