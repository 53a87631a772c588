import Mathlib.Algebra.BigOperators.Group.List.Basic
import NotificationEngine.ChargedRuns
import NotificationEngine.Workload

namespace NotificationEngine

open Holders

/-- The calls for one channel of a request: the insert, those that save the row, and those of all the
attempts its event type allows. -/
def CreateOp.channelRank (cfg : Config) (c : CreateOp) : Nat :=
  12 + retryRank * (cfg.retryConfigFor c.payload.eventType).maxRetries

def CreateOp.weight (cfg : Config) (c : CreateOp) : Nat :=
  match c.pc with
  | .setnx => 2 + c.channelRank cfg * (eventChannelMap c.payload.eventType).length
  | .expire => 1 + c.channelRank cfg * (eventChannelMap c.payload.eventType).length
  | .insert _ rest => c.channelRank cfg * (rest.length + 1)
  | .rollback rest => 1 + c.channelRank cfg * rest.length
  | .saving _ pc rest => pc.rank + c.channelRank cfg * rest.length
  | .returned _ => 0
  | .raised => 0

def Op.rank (cfg : Config) : Op → Nat
  | create c => c.weight cfg
  | task _ t => t.rank
  | done => 0

def World.remaining (cfg : Config) (w : World) : Nat :=
  Finset.sum (Finset.range w.nextId) fun i => cfg.remaining (w.rows i)

/-- The calls for the ids that wait somewhere, and for the attempts the rows have left. -/
def World.rank (cfg : Config) (w : World) : Nat :=
  queuedRank * w.queue.entries.length + waitingRank * w.retryQueue.length +
    readyRank * w.retryResult.length + retryRank * w.remaining cfg

/-- The calls the service still has to make when nothing more is asked of it. -/
def Sys.rank (cfg : Config) (s : Sys) : Nat := s.world.rank cfg + (s.ops.map (Op.rank cfg)).sum

/-- Operations that have returned or stopped. -/
def Op.finished : Op → Bool
  | create c => match c.pc with
    | .returned _ => true
    | .raised => true
    | _ => false
  | task _ _ => false
  | done => true

/-- Whether a step gets the service any further. -/
def Sys.works (s : Sys) : Label → Bool
  | .dequeue fault => s.world.queue.entries ≠ [] && fault.effect
  | .forget _ => false
  | .restart => false
  | .run i _ _ => s.ops[i]?.any fun op => !op.finished
  | _ => true

/-- What is asked of the service from outside: a new request, a manual retry, and the second delivery of
a retry message whose consumer has stopped. -/
def Sys.charge (cfg : Config) (s : Sys) : Label → Nat
  | .createNotification payload => 1 + CreateOp.weight cfg ⟨payload, [], .setnx⟩
  | .retryNotification _ => 1 + (Task.retry .select).rank
  | .run i fault _ => match s.ops[i]? with
    | some (.task _ t) => fault.redelivery t
    | _ => 0
  | _ => 0

section Rows

variable {cfg : Config} {w : World} {id : Nat} {o : Outcome}

variable (cfg) in
theorem World.remaining_apply (fresh : w.Fresh) (keeps : o.db.isSome = (w.rows id).isSome) :
    (w.apply id o).remaining cfg + cfg.remaining (w.rows id) = w.remaining cfg + cfg.remaining o.db := by
  by_cases known : id < w.nextId
  · have mem : id ∈ Finset.range w.nextId := Finset.mem_range.mpr known
    have others : Finset.sum ((Finset.range w.nextId).erase id)
        (fun i => cfg.remaining ((w.apply id o).rows i)) =
          Finset.sum ((Finset.range w.nextId).erase id) fun i => cfg.remaining (w.rows i) :=
      Finset.sum_congr rfl fun i hi => by simp [World.apply, Finset.ne_of_mem_erase hi]
    have here : (w.apply id o).rows id = o.db := if_pos rfl
    have before := Finset.add_sum_erase _ (fun i => cfg.remaining (w.rows i)) mem
    have after := Finset.add_sum_erase _ (fun i => cfg.remaining ((w.apply id o).rows i)) mem
    simp only [here, others] at after
    change Finset.sum (Finset.range w.nextId) (fun i => cfg.remaining ((w.apply id o).rows i)) + _ =
      Finset.sum (Finset.range w.nextId) (fun i => cfg.remaining (w.rows i)) + _
    omega
  · have unborn : w.rows id = none := fresh id (Nat.le_of_not_lt known)
    have unborn' : o.db = none := by simpa [unborn] using keeps
    rw [unborn, unborn']
    refine congrArg (· + 0) (Finset.sum_congr rfl fun i hi => ?_)
    have ne : i ≠ id := fun same => known (same ▸ Finset.mem_range.mp hi)
    simp [World.apply, ne]

theorem World.remaining_insert (n : Notification) :
    (w.insert n).remaining cfg = w.remaining cfg + cfg.remaining (some n) := by
  have last : (w.insert n).rows w.nextId = some n := if_pos rfl
  have others : Finset.sum (Finset.range w.nextId) (fun i => cfg.remaining ((w.insert n).rows i)) =
      w.remaining cfg :=
    Finset.sum_congr rfl fun i hi => by
      have ne : i ≠ w.nextId := (Finset.mem_range.mp hi).ne
      simp [World.insert, ne]
  calc (w.insert n).remaining cfg
      = Finset.sum (Finset.range w.nextId) (fun i => cfg.remaining ((w.insert n).rows i)) +
          cfg.remaining ((w.insert n).rows w.nextId) := Finset.sum_range_succ _ _
    _ = w.remaining cfg + cfg.remaining (some n) := by rw [others, last]

theorem World.remaining_skipId (fresh : w.Fresh) : w.skipId.remaining cfg = w.remaining cfg := by
  have last : cfg.remaining (w.skipId.rows w.nextId) = 0 := congrArg cfg.remaining (fresh w.nextId le_rfl)
  exact (Finset.sum_range_succ _ _).trans (by rw [last]; rfl)

variable (cfg o) in
/-- What a call parks and what it does to its row, on the scale of the calls that are left. -/
theorem World.rank_apply (fresh : w.Fresh) (keeps : o.db.isSome = (w.rows id).isSome) :
    (w.apply id o).rank cfg + o.next.elim 0 Task.rank + retryRank * cfg.remaining (w.rows id) ≤
      w.rank cfg + o.rank + retryRank * cfg.remaining o.db := by
  have rows := World.remaining_apply cfg fresh keeps
  have queue : (w.apply id o).queue.entries.length ≤ w.queue.entries.length + o.enqueued.isSome.toNat := by
    cases h : o.enqueued with
    | none => simp [World.apply, h]
    | some score => simpa [World.apply, h] using SortedSet.length_addNX w.queue id score
  have waiting : (w.apply id o).retryQueue.length = w.retryQueue.length + o.published.isSome.toNat := by
    cases h : o.published <;> simp [World.apply, h]
  have ready : (w.apply id o).retryResult.length = w.retryResult.length + o.redelivered.toNat := by
    cases h : o.redelivered <;> simp [World.apply, h]
  simp only [World.rank, Outcome.rank, queuedRank, waitingRank, readyRank, retryRank, waiting, ready]
  omega

theorem World.rank_insert (n : Notification) :
    (w.insert n).rank cfg = w.rank cfg + retryRank * cfg.remaining (some n) := by
  simp only [World.rank, World.remaining_insert, Nat.mul_add, Nat.add_assoc]
  rfl

theorem World.rank_skipId (fresh : w.Fresh) : w.skipId.rank cfg = w.rank cfg := by
  simp only [World.rank, World.remaining_skipId fresh]
  rfl

end Rows

section Requests

variable {cfg : Config} {env : Env} {w : World} {fault : Fault} {c : CreateOp}

theorem CreateOp.weight_nextChannel (cfg : Config) (c : CreateOp) (rest : List NotificationChannel) :
    (c.nextChannel rest).weight cfg = c.channelRank cfg * rest.length := by
  cases rest <;> rfl

theorem CreateOp.weight_saved (cfg : Config) (c : CreateOp) (id : Nat) (rest : List NotificationChannel)
    (pc : Option SavingPc) : (c.saved id rest (pc.map .saving)).weight cfg =
      pc.elim 0 SavingPc.rank + c.channelRank cfg * rest.length := by
  cases pc with
  | none =>
    have next := CreateOp.weight_nextChannel cfg { c with created := c.created ++ [id] } rest
    exact next.trans (Nat.zero_add _).symm
  | some pc => rfl

theorem remaining_row (cfg : Config) (payload : NotificationCreate) (channel : NotificationChannel) (ctime : Int) :
    cfg.remaining (some (payload.row channel ctime)) = (cfg.retryConfigFor payload.eventType).maxRetries :=
  Nat.sub_zero _

/-- An insert leaves a row to be saved, with all its attempts, or another round of the loop. -/
theorem CreateOp.act_weight_insert (fresh : w.Fresh) {channel : NotificationChannel}
    {rest : List NotificationChannel} (hc : c.pc = .insert channel rest) :
    (c.act cfg env w).1.rank cfg + (c.act cfg env w).2.weight cfg + 1 ≤ w.rank cfg + c.weight cfg := by
  have before : c.weight cfg = c.channelRank cfg * (rest.length + 1) := by simp [CreateOp.weight, hc]
  have channels : c.channelRank cfg = 12 + retryRank * (cfg.retryConfigFor c.payload.eventType).maxRetries := rfl
  rw [before, Nat.mul_add, Nat.mul_one]
  cases hr : w.insertResult (c.newRow env channel) with
  | inserted =>
    simp only [CreateOp.act, hc, hr]
    have row := remaining_row cfg c.payload channel env.now
    have inserted : (w.insert (c.newRow env channel)).rank cfg = _ := World.rank_insert _
    have after : CreateOp.weight cfg { c with pc := .saving w.nextId .refresh rest } =
      11 + c.channelRank cfg * rest.length := rfl
    rw [inserted, after, CreateOp.newRow, row]
    omega
  | uniqueViolation =>
    simp only [CreateOp.act, hc, hr]
    have after : CreateOp.weight cfg { c with pc := .rollback rest } = 1 + c.channelRank cfg * rest.length := rfl
    rw [World.rank_skipId fresh, after]
    omega
  | tooLong =>
    simp only [CreateOp.act, hc, hr]
    have after : CreateOp.weight cfg { c with pc := .raised } = 0 := rfl
    rw [World.rank_skipId fresh, after]
    omega

variable (cfg env) in
/-- While no row is being saved, a call of `create_notification` does one of the calls it had left. -/
theorem CreateOp.act_weight (fresh : w.Fresh) (unsaved : ∀ id pc rest, c.pc ≠ .saving id pc rest)
    (working : (Op.create c).finished = false) :
    (c.act cfg env w).1.rank cfg + (c.act cfg env w).2.weight cfg + 1 ≤ w.rank cfg + c.weight cfg := by
  cases hc : c.pc with
  | setnx =>
    by_cases taken : c.payload.redisKey ∈ w.idemKeys
    · simp only [CreateOp.act, hc, taken, if_true, CreateOp.weight]
      omega
    · simp only [CreateOp.act, hc, taken, if_false, CreateOp.weight, World.rank]
      have same : World.remaining cfg { w with idemKeys := c.payload.redisKey :: w.idemKeys } =
        w.remaining cfg := rfl
      rw [same]
      change _ + (1 + c.channelRank cfg * _) + 1 ≤ _
      omega
  | expire =>
    have before : c.weight cfg = 1 + c.channelRank cfg * (eventChannelMap c.payload.eventType).length := by
      simp [CreateOp.weight, hc]
    simp only [CreateOp.act, hc, CreateOp.weight_nextChannel, before]
    omega
  | insert channel rest => exact CreateOp.act_weight_insert fresh hc
  | rollback rest =>
    have before : c.weight cfg = 1 + c.channelRank cfg * rest.length := by simp [CreateOp.weight, hc]
    simp only [CreateOp.act, hc, CreateOp.weight_nextChannel, before]
    omega
  | saving id pc rest => exact absurd hc (unsaved id pc rest)
  | returned dup => simp [Op.finished, hc] at working
  | raised => simp [Op.finished, hc] at working

variable (cfg env) in
theorem CreateOp.run_rank (fresh : w.Fresh) (unsaved : ∀ id pc rest, c.pc ≠ .saving id pc rest)
    (working : (Op.create c).finished = false) (fault : Fault) :
    (c.run cfg env w fault).1.rank cfg + (c.run cfg env w fault).2.rank cfg + 1 ≤ w.rank cfg + c.weight cfg := by
  have acted := CreateOp.act_weight cfg env fresh unsaved working
  have landed : c.afterRaise.weight cfg = 0 := by
    cases hc : c.pc with
    | saving id pc rest => exact absurd hc (unsaved id pc rest)
    | _ => simp [CreateOp.afterRaise, hc, CreateOp.weight]
  have some_left : 1 ≤ c.weight cfg := by
    cases hc : c.pc with
    | saving id pc rest => exact absurd hc (unsaved id pc rest)
    | returned dup => simp [Op.finished, hc] at working
    | raised => simp [Op.finished, hc] at working
    | insert channel rest =>
      have channels : 1 ≤ c.channelRank cfg := by
        unfold CreateOp.channelRank
        omega
      simp only [CreateOp.weight, hc]
      exact Nat.mul_pos channels (Nat.succ_pos _)
    | _ =>
      simp only [CreateOp.weight, hc]
      omega
  cases fault with
  | none => exact acted
  | raised effect =>
    have stops : Op.rank cfg (.create c.afterRaise) = 0 := landed
    cases effect <;> simp only [CreateOp.run, stops, if_true, Bool.false_eq_true, if_false] <;> omega
  | stopped effect =>
    have stops : Op.rank cfg .done = 0 := rfl
    cases effect <;> simp only [CreateOp.run, stops, if_true, Bool.false_eq_true, if_false] <;> omega

variable (cfg env w) in
/-- While a row is being saved, the request has the calls of that task left and the other channels. -/
theorem CreateOp.run_rank_saving {id : Nat} {pc : SavingPc} {rest : List NotificationChannel}
    (hc : c.pc = .saving id pc rest) (fault : Fault) : (c.run cfg env w fault).2.rank cfg ≤
      ((Task.saving pc).run cfg env id w.service (w.rows id) fault).next.elim 0 Task.rank +
        c.channelRank cfg * rest.length := by
  cases fault with
  | none =>
    cases pc with
    | refresh =>
      cases row : w.rows id with
      | none => simp [CreateOp.run, CreateOp.act, hc, row, Task.act, SavingPc.act, Op.rank, CreateOp.weight]
      | some n =>
        simp only [CreateOp.run, CreateOp.act, hc, row, Task.act, SavingPc.act, Op.rank, Task.run,
          Option.map_some, Option.elim_some]
        exact (CreateOp.weight_saved cfg c id rest (some _)).le
    | enqueue score =>
      simp only [CreateOp.run, CreateOp.act, hc, Task.act, SavingPc.act, Op.rank, Task.run, Option.elim_none]
      exact (CreateOp.weight_saved cfg c id rest none).le
  | raised effect =>
    cases pc with
    | refresh => simp [CreateOp.run, CreateOp.afterRaise, hc, Op.rank, CreateOp.weight]
    | enqueue score =>
      simp only [CreateOp.run, CreateOp.afterRaise, hc, Op.rank, Task.run, Task.afterRaise, Option.elim_none]
      exact (CreateOp.weight_saved cfg c id rest none).le
  | stopped effect => exact Nat.zero_le _

end Requests

section Attempts

variable {cfg : Config} {n : Note} {t : Task}

theorem Note.Budget.schedules (budget : n.Budget cfg) (here : t ∈ n.tasks)
    (current : ∀ r, n.row = some r → t.countsOn r = true) (schedules : t.schedules = true) :
    ∃ r, n.row = some r ∧ r.retryCount + 1 ≤ (cfg.retryConfigFor r.eventType).maxRetries := by
  obtain ⟨m, loaded⟩ := Task.snapshot_of_schedules schedules
  obtain ⟨r, row, same⟩ := budget.events t here m loaded
  refine ⟨r, row, Task.schedules_within (budget.scheduled t here) (current r row) ?_ schedules⟩
  intro m' loaded'
  cases loaded.symm.trans loaded'
  exact same

/-- The commit of RETRYING uses up one of the attempts the row has left. -/
theorem Note.Budget.remaining_run (budget : n.Budget cfg) (fault : Fault) (here : t ∈ n.tasks)
    (current : ∀ r, n.row = some r → t.countsOn r = true) :
    cfg.remaining (if fault.effect then n.row.map (t.write cfg) else n.row) +
      (t.schedules && fault.effect).toNat ≤ cfg.remaining n.row := by
  cases effect : fault.effect with
  | false => simp
  | true =>
    cases row : n.row with
    | none =>
      cases schedules : t.schedules with
      | false => exact le_rfl
      | true =>
        obtain ⟨r, there, _⟩ := budget.schedules here current schedules
        cases row.symm.trans there
    | some r =>
      have counted := Task.write_retryCount (budget.scheduled t here) (current r row)
      simp only [if_true, Option.map_some, Config.remaining, t.write_eventType, Bool.and_true, counted]
      cases schedules : t.schedules with
      | false =>
        rw [Bool.toNat_false]
        omega
      | true =>
        obtain ⟨r', there, within⟩ := budget.schedules here current schedules
        cases row.symm.trans there
        rw [Bool.toNat_true]
        omega

end Attempts

/-- What the steps preserve that keep the count of calls: no row before its id, and the budgets. -/
structure Sys.Accounted (cfg : Config) (s : Sys) : Prop where
  fresh : s.world.Fresh
  budget : ∀ id, (s.note id).Budget cfg

section Steps

variable {cfg : Config} {s s' : Sys} {l : Label}

theorem Sys.Accounted.step (accounted : s.Accounted cfg) (ok : s.countsOn l = true)
    (h : s.step cfg l = some s') : s'.Accounted cfg := by
  refine ⟨Sys.step_fresh accounted.fresh h, fun id => ?_⟩
  have seen := step_seen id (accounted.fresh _ le_rfl) h
  cases he : s.seenAs id l with
  | none =>
    rw [he] at seen
    have same : s'.note id = s.note id := seen
    rw [same]
    exact accounted.budget id
  | some e =>
    rw [he] at seen
    exact (accounted.budget id).step (seen_countsOn ok (seen_of_seenAs he)) seen

theorem Sys.initial_accounted (cfg : Config) : Sys.initial.Accounted cfg where
  fresh _ _ := rfl
  budget id := by
    rw [note_initial]
    exact Note.absent_budget cfg

theorem Sys.rank_start (cfg : Config) (w : World) (ops : List Op) (op : Op) :
    Sys.rank cfg ⟨w, ops ++ [op]⟩ = Sys.rank cfg ⟨w, ops⟩ + op.rank cfg := by
  simp only [Sys.rank, List.map_append, List.map_cons, List.map_nil, List.sum_append, List.sum_cons,
    List.sum_nil]
  omega

/-- A call that commits RETRYING uses up one of the attempts its row has left, and no call adds to these. -/
def Sys.Spends (cfg : Config) (s : Sys) : Label → Prop
  | .run i fault env => ∀ op id t, s.ops[i]? = some op → op.taskOf id = some t →
      cfg.remaining (t.run cfg env id s.world.service (s.world.rows id) fault).db +
        (t.schedules && fault.effect).toNat ≤ cfg.remaining (s.world.rows id)
  | _ => True

/-- A call of a task, with what its row has left and with what it parked. -/
theorem Sys.apply_rank (fresh : s.world.Fresh) {id : Nat} {t : Task} {env : Env} {fault : Fault}
    (spent : cfg.remaining (t.run cfg env id s.world.service (s.world.rows id) fault).db +
      (t.schedules && fault.effect).toNat ≤ cfg.remaining (s.world.rows id)) :
    let o := t.run cfg env id s.world.service (s.world.rows id) fault
    (s.world.apply id o).rank cfg + o.next.elim 0 Task.rank + 1 ≤
      s.world.rank cfg + t.rank + fault.redelivery t := by
  intro o
  have keeps := Task.run_isSome cfg env id s.world.service (s.world.rows id) fault t
  have applied := World.rank_apply cfg o fresh keeps
  have called : o.rank + 1 ≤ _ := Task.run_rank cfg env id s.world.service (s.world.rows id) fault t
  change cfg.remaining o.db + _ ≤ _ at spent
  have scaled := Nat.mul_le_mul_left retryRank spent
  rw [Nat.mul_add] at scaled
  omega

theorem note_task_mem {id i : Nat} {op : Op} {t : Task} (hop : s.ops[i]? = some op)
    (own : op.taskOf id = some t) : t ∈ (s.note id).tasks :=
  List.mem_filterMap.mpr ⟨op, List.mem_of_getElem? hop, own⟩

/-- With its budgets kept, an attempt that is counted on the stored count is one that the row had left. -/
theorem Sys.Accounted.spends (accounted : s.Accounted cfg) (ok : s.countsOn l = true) : s.Spends cfg l := by
  cases l with
  | run i fault env =>
    intro op id t hop own
    rw [Task.run_db]
    refine (accounted.budget id).remaining_run fault (note_task_mem hop own) fun r row => ?_
    rcases taskOf_eq_some own with rfl | ⟨c, pc, rest, rfl, hc, rfl⟩
    · simpa [Sys.countsOn, Sys.meets, hop, show s.world.rows id = some r from row] using ok
    · rfl
  | _ => trivial

variable (cfg) in
/-- A finished operation is left as it is. -/
theorem Op.run_finished {op : Op} (finished : op.finished = true) (env : Env) (w : World) :
    (op.run cfg env w .none).1 = w ∧ ∀ fault, (op.run cfg env w fault).1.rank cfg = w.rank cfg ∧
      (op.run cfg env w fault).2.rank cfg = 0 := by
  cases op with
  | task id t => cases finished
  | done => exact ⟨rfl, fun _ => ⟨rfl, rfl⟩⟩
  | create c =>
    cases hc : c.pc with
    | returned dup =>
      refine ⟨by simp [Op.run, CreateOp.run, CreateOp.act, hc], fun fault => ?_⟩
      cases fault <;>
        simp [Op.run, CreateOp.run, CreateOp.act, CreateOp.afterRaise, hc, Op.rank, CreateOp.weight]
    | raised =>
      refine ⟨by simp [Op.run, CreateOp.run, CreateOp.act, hc], fun fault => ?_⟩
      cases fault <;>
        simp [Op.run, CreateOp.run, CreateOp.act, CreateOp.afterRaise, hc, Op.rank, CreateOp.weight]
    | _ => simp [Op.finished, hc] at finished

theorem Sys.run_pays (fresh : s.world.Fresh) {i : Nat} {fault : Fault} {env : Env}
    (spends : s.Spends cfg (.run i fault env)) (h : s.step cfg (.run i fault env) = some s') :
    (s.works (.run i fault env)).toNat + s'.rank cfg ≤ s.rank cfg + s.charge cfg (.run i fault env) := by
  obtain ⟨op, hop, rfl⟩ := Option.map_eq_some_iff.mp h
  have sum := sum_map_set (Op.rank cfg) hop (op.run cfg env s.world fault).2
  suffices called : (!op.finished).toNat + (op.run cfg env s.world fault).1.rank cfg +
      (op.run cfg env s.world fault).2.rank cfg ≤
        s.world.rank cfg + op.rank cfg + s.charge cfg (.run i fault env) by
    simp only [Sys.works, hop, Option.any_some, Sys.rank]
    omega
  by_cases finished : op.finished = true
  · obtain ⟨_, idle⟩ := Op.run_finished cfg finished env s.world
    rw [finished, (idle fault).1, (idle fault).2]
    simp only [Bool.not_true, Bool.toNat_false]
    omega
  have working : op.finished = false := by simpa using finished
  rw [working, Bool.not_false, Bool.toNat_true]
  cases op with
  | done => cases working
  | task id t =>
    have called := Sys.apply_rank fresh (spends _ id t hop (if_pos rfl))
    have next : (Op.ofNext id (t.run cfg env id s.world.service (s.world.rows id) fault).next).rank cfg =
        (t.run cfg env id s.world.service (s.world.rows id) fault).next.elim 0 Task.rank := by
      cases (t.run cfg env id s.world.service (s.world.rows id) fault).next <;> rfl
    have before : (Op.task id t).rank cfg = t.rank := rfl
    simp only [Op.run, next, before, Sys.charge, hop]
    dsimp only at called
    omega
  | create c =>
    have whole : (Op.create c).rank cfg = c.weight cfg := rfl
    simp only [whole, Op.run]
    by_cases saves : ∃ id pc rest, c.pc = .saving id pc rest
    · obtain ⟨id, pc, rest, hc⟩ := saves
      have own : (Op.create c).taskOf id = some (.saving pc) := by simp [Op.taskOf, hc]
      have called := Sys.apply_rank fresh (spends _ id _ hop own)
      have rest_left := CreateOp.run_rank_saving cfg env s.world hc fault
      have before : c.weight cfg = pc.rank + c.channelRank cfg * rest.length := by simp [CreateOp.weight, hc]
      have free : fault.redelivery (.saving pc) = 0 := by cases fault <;> rfl
      have own_rank : (Task.saving pc).rank = pc.rank := rfl
      rw [(create_run_saving cfg env s.world fault hc).1, before]
      rw [free, own_rank] at called
      dsimp only at called
      omega
    · have unsaved : ∀ id pc rest, c.pc ≠ .saving id pc rest := fun id pc rest hc => saves ⟨id, pc, rest, hc⟩
      have called := CreateOp.run_rank cfg env fresh unsaved working fault
      omega

/-- Every step does one of the calls that are left, but for what it is charged. -/
theorem Sys.step_pays (fresh : s.world.Fresh) (spends : s.Spends cfg l) (h : s.step cfg l = some s') :
    (s.works l).toNat + s'.rank cfg ≤ s.rank cfg + s.charge cfg l := by
  cases l with
  | run i fault env => exact Sys.run_pays fresh spends h
  | createNotification payload =>
    cases Option.some.inj h
    rw [Sys.rank_start]
    exact Nat.le_of_eq (Nat.add_left_comm 1 (s.rank cfg) _)
  | retryNotification id =>
    cases Option.some.inj h
    rw [Sys.rank_start]
    exact Nat.le_of_eq (Nat.add_left_comm 1 (s.rank cfg) _)
  | dequeue fault =>
    cases popped : s.world.queue.popMin memberKey with
    | none =>
      simp only [Sys.step, popped, Option.some.injEq] at h
      subst h
      simp [Sys.works, SortedSet.popMin_eq_none.mp popped]
    | some found =>
      obtain ⟨id, queue⟩ := found
      obtain ⟨rfl, _⟩ := SortedSet.popMin_first popped
      have fewer := SortedSet.length_remove (SortedSet.popMin_mem popped)
      have less : World.rank cfg { s.world with queue := s.world.queue.remove id } + queuedRank ≤
          s.world.rank cfg := by
        simp only [World.rank, World.remaining, queuedRank]
        omega
      have worked : (s.works (.dequeue fault)).toNat ≤ 1 := Bool.toNat_le _
      simp only [Sys.step, popped] at h
      split at h
      next =>
        cases Option.some.inj h
        rw [Sys.rank_start]
        have popped_rank : (Op.task id (.dispatch .select)).rank cfg = 8 := rfl
        rw [popped_rank]
        simp only [Sys.rank, queuedRank] at less ⊢
        omega
      next =>
        split at h
        next =>
          cases Option.some.inj h
          simp only [Sys.rank, queuedRank] at less ⊢
          omega
        next ineffective =>
          cases Option.some.inj h
          simp [Sys.works, ineffective]
  | expire now =>
    simp only [Sys.step] at h
    split at h
    next => cases h
    next m rest waits =>
      split at h
      next =>
        cases Option.some.inj h
        simp only [Sys.works, Bool.toNat_true, Sys.rank, World.rank, World.remaining, waits,
          List.length_append, List.length_cons, List.length_nil, waitingRank, readyRank]
        omega
      next => cases h
  | deliver =>
    simp only [Sys.step] at h
    split at h
    next => cases h
    next id rest waits =>
      cases Option.some.inj h
      rw [Sys.rank_start]
      have delivered_rank : (Op.task id (.event .select)).rank cfg = 12 := rfl
      simp only [Sys.works, Bool.toNat_true, Sys.rank, World.rank, World.remaining, waits,
        List.length_cons, readyRank, delivered_rank]
      omega
  | forget key =>
    cases Option.some.inj h
    exact Nat.le_of_eq (Nat.zero_add _)
  | restart =>
    cases Option.some.inj h
    exact Nat.le_of_eq (Nat.zero_add _)

theorem Sys.Accounted.pays (accounted : s.Accounted cfg) (ok : s.countsOn l = true)
    (h : s.step cfg l = some s') : (s.works l).toNat + s'.rank cfg ≤ s.rank cfg + s.charge cfg l :=
  Sys.step_pays accounted.fresh (accounted.spends ok) h

end Steps

theorem Sys.pays (cfg : Config) : Transition.Pays (Sys.step cfg) Sys.countsOn (Sys.Accounted cfg) (Sys.rank cfg)
    (fun s l => (s.works l).toNat) (Sys.charge cfg) where
  kept _ _ _ accounted ok step := accounted.step ok step
  pays _ _ _ accounted ok step := accounted.pays ok step

/-- However a run interleaves and whatever fails in it, the work it does is bounded by what was asked of
the service, as long as no attempt is counted on a stale count. -/
theorem work_bounded {cfg : Config} {ls : List Label} {s : Sys}
    (run : Transition.trace (Sys.step cfg) Sys.countsOn .initial ls = some s) :
    Transition.total (Sys.step cfg) (fun s l => (s.works l).toNat) .initial ls ≤
      Transition.total (Sys.step cfg) (Sys.charge cfg) .initial ls := by
  have paid := (Sys.pays cfg).run (Sys.initial_accounted cfg) run
  have start : Sys.initial.rank cfg = 0 := by
    simp [Sys.rank, World.rank, World.remaining, Config.remaining, Sys.initial, World.initial, SortedSet.empty]
  omega

/-- One OTP request up to its first retry message: seventeen steps, of the seventy-two it is charged. -/
theorem work_bounded_firstRetry : ∃ s,
    Transition.trace (Sys.step defaultConfig) Sys.countsOn .initial firstRetry = some s ∧
      Transition.total (Sys.step defaultConfig) (fun s l => (s.works l).toNat) .initial firstRetry = 17 ∧
      Transition.total (Sys.step defaultConfig) (fun s l => (s.works l).toNat) .initial firstRetry ≤
        Transition.total (Sys.step defaultConfig) (Sys.charge defaultConfig) .initial firstRetry := by
  have ran : (Transition.trace (Sys.step defaultConfig) Sys.countsOn .initial firstRetry).isSome = true := by
    decide +kernel
  obtain ⟨s, run⟩ := Option.isSome_iff_exists.mp ran
  exact ⟨s, run, by decide +kernel, work_bounded run⟩

end NotificationEngine
