import NotificationEngine.Drain
import NotificationEngine.WorkerPool

namespace NotificationEngine

/-- The calls a dispatch itself still awaits at most. -/
def DispatchPc.awaits : DispatchPc → Nat
  | select => 11
  | commitQueued _ => 10
  | refreshQueued => 9
  | health _ => 8
  | send _ => 7
  | commitRetrying _ _ _ _ => 6
  | refreshRetrying _ => 5
  | publishing _ pc => pc.rank
  | commitFailed _ _ _ => 3
  | refreshFailed _ _ => 2
  | sendToDlq _ _ => 1
  | commitSent _ _ _ => 2
  | refreshSent => 1

def Op.awaits : Op → Nat
  | task _ (.dispatch pc) => pc.awaits
  | _ => 0

/-- The answers a worker still waits for when it is told to stop. -/
def WorkerPc.left (ops : List Op) : WorkerPc → Nat
  | created => 1
  | dequeue => 12
  | dispatching i => (ops[i]?).elim 0 Op.awaits
  | returned => 0

def NotificationWorker.left (p : NotificationWorker) : Nat := (p.tasks.map (WorkerPc.left p.sys.ops)).sum

/-- The steps of the workers. -/
def WorkerLabel.isWorker : WorkerLabel → Bool
  | enter _ => true
  | dequeue _ _ => true
  | dispatch _ _ _ => true
  | _ => false

structure NotificationWorker.Stopping (concurrency : Nat) (p : NotificationWorker) : Prop where
  sound : p.Sound concurrency
  told : p.running = false

section Steps

variable {cfg : Config} {p p' : NotificationWorker} {l : WorkerLabel} {concurrency : Nat}

theorem Op.awaits_pos {op : Op} (own : op.dispatches = true) : 0 < op.awaits := by
  cases op with
  | task id t =>
    cases t with
    | dispatch pc =>
      cases pc with
      | publishing delay pc => cases pc <;> exact Nat.le_of_ble_eq_true rfl
      | _ => exact Nat.le_of_ble_eq_true rfl
    | _ => cases own
  | _ => cases own

theorem Op.run_awaits {env : Env} {w : World} {fault : Fault} {op : Op}
    (goes : (op.run cfg env w fault).2.dispatches = true) : (op.run cfg env w fault).2.awaits < op.awaits := by
  have own := Op.run_dispatches goes
  cases op with
  | create c => cases own
  | done => cases own
  | task id t =>
    simp only [Op.run] at goes ⊢
    cases next : (t.run cfg env id w.service (w.rows id) fault).next with
    | none => exact Op.awaits_pos own
    | some u =>
      cases Task.run_goes next with
      | exhausted pc _ => rcases pc with rfl | rfl <;> exact Nat.le_of_ble_eq_true rfl
      | scheduled pc _ _ => rcases pc with rfl | rfl <;> exact Nat.le_of_ble_eq_true rfl
      | @connecting delay pc _ => cases pc <;> exact Nat.le_of_ble_eq_true rfl
      | publishing rest => exact PublishPc.step_rank rest
      | _ => first | exact Nat.le_of_ble_eq_true rfl | cases own

/-- A worker that moves replaces its term, if the dispatches of the others stay where they are. -/
theorem NotificationWorker.left_set {k : Nat} {w v : WorkerPc} {s : Sys} (at_ : p.tasks[k]? = some w)
    (others : ∀ k' i : Nat, k' ≠ k → p.tasks[k']? = some (.dispatching i) → s.ops[i]? = p.sys.ops[i]?) :
    NotificationWorker.left ⟨s, p.running, p.tasks.set k v⟩ + w.left p.sys.ops = p.left + v.left s.ops := by
  have inside : k < p.tasks.length := (List.getElem?_eq_some_iff.mp at_).1
  have same : ((p.tasks.set k v).map (WorkerPc.left s.ops)) =
      (p.tasks.map (WorkerPc.left p.sys.ops)).set k (v.left s.ops) := by
    apply List.ext_getElem?
    intro k'
    by_cases own : k = k'
    · subst own
      rw [List.getElem?_map, List.getElem?_set_self inside, List.getElem?_set_self (by simpa using inside)]
      rfl
    · rw [List.getElem?_map, List.getElem?_set_ne own, List.getElem?_set_ne own, List.getElem?_map]
      cases there : p.tasks[k']? with
      | none => rfl
      | some u =>
        cases u with
        | dispatching i =>
          simp only [Option.map_some, WorkerPc.left, others k' i (Ne.symm own) there]
        | _ => rfl
  have there : (p.tasks.map (WorkerPc.left p.sys.ops))[k]? = some (w.left p.sys.ops) := by
    rw [List.getElem?_map, at_]
    rfl
  have sum := Holders.sum_map_set (fun n : Nat => n) there (v.left s.ops)
  simp only [List.map_id'] at sum
  simp only [NotificationWorker.left, same]
  exact sum

theorem NotificationWorker.Step.running_le (h : NotificationWorker.Step cfg p l p') (told : p.running = false) :
    p'.running = false := by
  cases h with
  | stop => rfl
  | _ => exact told

theorem left_loopHead (ops : List Op) : (loopHead false).left ops = 0 := rfl

/-- A worker's step takes one of the answers it waits for, and no other step adds one. -/
theorem NotificationWorker.Stopping.pays (stopping : p.Stopping concurrency) (h : p.step cfg l = some p') :
    l.isWorker.toNat + p'.left ≤ p.left := by
  obtain ⟨sound, told⟩ := stopping
  cases NotificationWorker.step_cases h with
  | stop => exact Nat.le_of_eq (Nat.zero_add _)
  | @enter k at_ =>
    have set := NotificationWorker.left_set (v := loopHead p.running) (s := p.sys) at_ fun _ _ _ _ => rfl
    rw [told, left_loopHead] at set
    rw [told]
    exact Nat.le_of_eq ((Nat.add_comm _ _).trans set)
  | @popped k id queue at_ _ =>
    have within (k' i : Nat) (_ : k' ≠ k) (there : p.tasks[k']? = some (.dispatching i)) :
        (p.sys.ops ++ [.task id (.dispatch .select)])[i]? = p.sys.ops[i]? := by
      obtain ⟨op, hop, _⟩ := sound.owned k' i there
      exact List.getElem?_append_left (List.getElem?_eq_some_iff.mp hop).1
    have set := NotificationWorker.left_set (v := .dispatching p.sys.ops.length)
      (s := ⟨{ p.sys.world with queue := queue }, p.sys.ops ++ [.task id (.dispatch .select)]⟩) at_ within
    have before : WorkerPc.dequeue.left p.sys.ops = 12 := rfl
    have after : (WorkerPc.dispatching p.sys.ops.length).left
        (p.sys.ops ++ [.task id (.dispatch .select)]) = 11 := by
      simp [WorkerPc.left, Op.awaits, DispatchPc.awaits]
    dsimp only at set
    rw [before, after] at set
    simp only [WorkerLabel.isWorker, Bool.toNat_true]
    omega
  | @unpopped k fault s at_ _ ops =>
    have set := NotificationWorker.left_set (v := loopHead p.running) (s := s) at_ fun _ _ _ _ => by rw [ops]
    have before : WorkerPc.dequeue.left p.sys.ops = 12 := rfl
    rw [told, left_loopHead, before] at set
    rw [told]
    simp only [WorkerLabel.isWorker, Bool.toNat_true]
    omega
  | @dispatch k i fault env op at_ _ hop =>
    have inside : i < p.sys.ops.length := (List.getElem?_eq_some_iff.mp hop).1
    have apart (k' i' : Nat) (other : k' ≠ k) (there : p.tasks[k']? = some (.dispatching i')) :
        (p.sys.ops.set i (op.run cfg env p.sys.world fault).2)[i']? = p.sys.ops[i']? := by
      refine List.getElem?_set_ne ?_
      rintro rfl
      exact other (sound.distinct k' k i there at_)
    have set := NotificationWorker.left_set (v := if (op.run cfg env p.sys.world fault).2.dispatches then
        .dispatching i else loopHead p.running)
      (s := ⟨(op.run cfg env p.sys.world fault).1, p.sys.ops.set i (op.run cfg env p.sys.world fault).2⟩) at_ apart
    have own : op.dispatches = true := by
      obtain ⟨op₀, hop₀, own⟩ := sound.owned k i at_
      cases hop.symm.trans hop₀
      exact own
    have before : (WorkerPc.dispatching i).left p.sys.ops = op.awaits := by simp [WorkerPc.left, hop]
    have after : (if (op.run cfg env p.sys.world fault).2.dispatches then WorkerPc.dispatching i
        else loopHead p.running).left (p.sys.ops.set i (op.run cfg env p.sys.world fault).2) < op.awaits := by
      split
      next goes =>
        simp only [WorkerPc.left, List.getElem?_set_self inside, Option.elim_some]
        exact Op.run_awaits goes
      next =>
        rw [told]
        exact Op.awaits_pos own
    dsimp only at set
    rw [before] at set
    simp only [WorkerLabel.isWorker, Bool.toNat_true]
    omega
  | @other m s outside step =>
    obtain ⟨kept, _, _⟩ := sound.elsewhere_ops outside step
    have same : p.tasks.map (WorkerPc.left s.ops) = p.tasks.map (WorkerPc.left p.sys.ops) := by
      refine List.map_congr_left fun w mem => ?_
      cases w with
      | dispatching i =>
        obtain ⟨k, there⟩ := List.getElem?_of_mem mem
        obtain ⟨op, hop, own⟩ := sound.owned k i there
        simp only [WorkerPc.left, kept i op hop own, hop]
      | _ => rfl
    simp only [WorkerLabel.isWorker, Bool.toNat_false, NotificationWorker.left, same, Nat.zero_add]
    exact le_rfl

theorem NotificationWorker.Stopping.step (stopping : p.Stopping concurrency) (h : p.step cfg l = some p') :
    p'.Stopping concurrency :=
  ⟨stopping.sound.step h, (NotificationWorker.step_cases h).running_le stopping.told⟩

/-- A worker that has not left its loop waits for an answer, and it can come. -/
theorem NotificationWorker.Stopping.progress (cfg : Config) (stopping : p.Stopping concurrency)
    (waits : ¬p.Stopped) : ∃ l p', l.isWorker = true ∧ p.step cfg l = some p' := by
  have unfinished : ∃ w ∈ p.tasks, w ≠ .returned := by
    by_contra none
    refine waits ⟨stopping.told, fun w mem => ?_⟩
    by_contra other
    exact none ⟨w, mem, other⟩
  obtain ⟨w, mem, other⟩ := unfinished
  obtain ⟨k, at_⟩ := List.getElem?_of_mem mem
  cases w with
  | created =>
    obtain ⟨p', made⟩ : ∃ p', p.step cfg (.enter k) = some p' := by simp [NotificationWorker.step, at_]
    exact ⟨.enter k, p', rfl, made⟩
  | dequeue =>
    obtain ⟨s, step⟩ : ∃ s, p.sys.step cfg (.dequeue .none) = some s := by
      cases popped : p.sys.world.queue.popMin memberKey <;> simp [Sys.step, popped]
    obtain ⟨p', made⟩ : ∃ p', p.step cfg (.dequeue k .none) = some p' := by
      simp [NotificationWorker.step, at_, step, Fault.isStopped]
    exact ⟨.dequeue k .none, p', rfl, made⟩
  | dispatching i =>
    obtain ⟨op, hop, _⟩ := stopping.sound.owned k i at_
    obtain ⟨p', made⟩ : ∃ p', p.step cfg (.dispatch k .none (accepting true)) = some p' := by
      simp [NotificationWorker.step, at_, Sys.step, hop, Fault.isStopped]
    exact ⟨.dispatch k .none (accepting true), p', rfl, made⟩
  | returned => exact absurd rfl other

end Steps

theorem Note.Step.stays_queued {cfg : Config} {j : Nat} {n n' : Note} {e : NoteLabel}
    (h : Note.Step cfg j n e n') (kept : ∀ lost, e ≠ .dequeued lost) (queued : n.queued = true) :
    n'.queued = true := by
  cases h with
  | dequeued lost _ => exact absurd rfl (kept lost)
  | ran t fault env q tasks => simp [Note.after, queued]
  | _ => exact queued

/-- Only `dequeue` takes an id out of the sorted set. -/
theorem Sys.stays_queued {cfg : Config} {s s' : Sys} {l : Label} {id : Nat} (fresh : s.world.Fresh)
    (other : ∀ fault, l ≠ .dequeue fault) (h : s.step cfg l = some s') (queued : id ∈ s.world.queue) :
    id ∈ s'.world.queue := by
  have noted : (s.note id).queued = true := decide_eq_true queued
  have seen := step_seen id (fresh _ le_rfl) h
  cases he : s.seenAs id l with
  | none =>
    rw [he] at seen
    have same : s'.note id = s.note id := seen
    rw [← same] at noted
    exact of_decide_eq_true noted
  | some e =>
    rw [he] at seen
    refine of_decide_eq_true (seen.stays_queued ?_ noted)
    rintro lost rfl
    generalize is : NoteLabel.dequeued lost = e at he
    cases seen_of_seenAs he with
    | popped _ => exact other _ rfl
    | popLost _ _ _ => exact other _ rfl
    | _ => cases is

theorem NotificationWorker.Stopped.step {cfg : Config} {p p' : NotificationWorker} {l : WorkerLabel}
    (stopped : p.Stopped) (h : p.step cfg l = some p') : p'.Stopped ∧
      (p'.sys = p.sys ∨ ∃ m, p.elsewhere m = true ∧ p.sys.step cfg m = some p'.sys) := by
  have nobody {k : Nat} {w : WorkerPc} (at_ : p.tasks[k]? = some w) : w = .returned :=
    stopped.2 w (List.mem_of_getElem? at_)
  cases NotificationWorker.step_cases h with
  | stop => exact ⟨⟨rfl, stopped.2⟩, Or.inl rfl⟩
  | enter at_ => cases nobody at_
  | popped at_ _ => cases nobody at_
  | unpopped at_ _ _ => cases nobody at_
  | dispatch at_ _ _ => cases nobody at_
  | other outside step => exact ⟨stopped, Or.inr ⟨_, outside, step⟩⟩

theorem NotificationWorker.Sound.idle {concurrency : Nat} {p : NotificationWorker} (sound : p.Sound concurrency)
    (stopped : p.Stopped) : ∀ op ∈ p.sys.ops, op.dispatches = false := by
  intro op mem
  cases own : op.dispatches with
  | false => rfl
  | true =>
    obtain ⟨i, hop⟩ := List.getElem?_of_mem mem
    obtain ⟨k, there⟩ := sound.served i op hop own
    cases stopped.2 _ (List.mem_of_getElem? there)

/-- What the stopped workers leave behind: no dispatch, and what waited in Redis. -/
def NotificationWorker.Left (ids : SortedSet Nat) (p : NotificationWorker) : Prop :=
  p.Stopped ∧ p.sys.world.Fresh ∧ ∀ id ∈ ids, id ∈ p.sys.world.queue

/-- When `stop` has returned, no dispatch is cut off: each live notification waits in Redis or RabbitMQ or is
with a request or a consumer, and what waits in Redis waits for the next process. -/
theorem stopped_leaves_nothing {cfg : Config} {concurrency : Nat} {p : NotificationWorker}
    (run : NotificationWorker.Reach cfg (fun p l => (p.sees l).all (p.sys.smooth cfg) = true)
      (.start concurrency .initial) p) (stopped : p.Stopped) :
    (∀ op ∈ p.sys.ops, op.dispatches = false) ∧
    (∀ id r, p.sys.world.rows id = some r → r.status.Live → p.sys.carriers id = 1) ∧
    ∀ p', NotificationWorker.Reach cfg (fun _ _ => True) p p' → p'.Stopped ∧
      (∀ op ∈ p'.sys.ops, op.dispatches = false) ∧ ∀ id ∈ p.sys.world.queue, id ∈ p'.sys.world.queue := by
  have none : ∀ op ∈ Sys.initial.ops, op.dispatches = false := fun op mem => absurd mem List.not_mem_nil
  have sound := NotificationWorker.reach_sound (NotificationWorker.start_sound concurrency none) run
  have smooth : Sys.Reach cfg (fun s l => s.smooth cfg l = true) .initial p.sys :=
    NotificationWorker.refines (fun p l m ok sees => by rw [sees] at ok; exact ok) run
  have orderly := smooth_run_orderly smooth
  refine ⟨sound.idle stopped, fun id r row live => ?_, fun p' later => ?_⟩
  · rw [note_carriers]
    exact (orderly.sole id).live_one ⟨r, row, live⟩
  · have sound' := NotificationWorker.reach_sound sound later
    have left : p'.Left p.sys.world.queue := by
      refine later.invariant ⟨stopped, orderly.accounted.fresh, fun _ mem => mem⟩ ?_
      rintro a l b ⟨stopped, fresh, kept⟩ _ step
      obtain ⟨stopped', same | ⟨m, outside, moved⟩⟩ := stopped.step step
      · rw [← same] at fresh kept
        exact ⟨stopped', fresh, kept⟩
      · refine ⟨stopped', Sys.step_fresh fresh moved, fun id mem => ?_⟩
        refine Sys.stays_queued fresh ?_ moved (kept id mem)
        rintro fault rfl
        cases outside
    exact ⟨left.1, sound'.idle left.1, left.2.2⟩

/-- `stop` while one worker dispatches an OTP and the other waits for an id: both finish. -/
def stopTwo : List WorkerLabel :=
  twoWorkers ++ [.stop] ++ List.replicate 7 (.dispatch 0 .none (accepting true)) ++ [.dequeue 1 .none]

theorem stopped_leaves_nothing_two : ∃ p,
    NotificationWorker.Reach defaultConfig (fun p l => (p.sees l).all (p.sys.smooth defaultConfig) = true)
      (.start 2 .initial) p ∧ p.Stopped ∧ ∀ op ∈ p.sys.ops, op.dispatches = false := by
  have ran : (Transition.trace (NotificationWorker.step defaultConfig)
      (fun p l => (p.sees l).all (p.sys.smooth defaultConfig)) (.start 2 .initial) stopTwo).map
        (fun p => decide (p.running = false ∧ ∀ w ∈ p.tasks, w = .returned)) = some true := by decide +kernel
  obtain ⟨p, hp, facts⟩ := Option.map_eq_some_iff.mp ran
  obtain ⟨told, returned⟩ := of_decide_eq_true facts
  have stopped : p.Stopped := ⟨told, returned⟩
  have run := Transition.trace_reach Transition.Reach.start hp
  exact ⟨p, run, stopped, (stopped_leaves_nothing run stopped).1⟩

end NotificationEngine
