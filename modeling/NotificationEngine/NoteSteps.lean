import NotificationEngine.NoteView

namespace NotificationEngine

open Holders

theorem World.apply_idle (w : World) (id : Nat) (next : Option Task) :
    w.apply id { db := w.rows id, service := w.service, next := next } = w := by
  have rows : (fun i => if i = id then w.rows id else w.rows i) = w.rows := by
    funext i
    split
    next h => rw [h]
    next => rfl
  simp [World.apply, rows]

@[simp] theorem taskOf_nextChannel (j : Nat) (c : CreateOp) (rest : List NotificationChannel) :
    (Op.create (c.nextChannel rest)).taskOf j = none := by
  cases rest <;> rfl

@[simp] theorem taskOf_saved_none (j id : Nat) (c : CreateOp) (rest : List NotificationChannel) :
    (Op.create (c.saved id rest none)).taskOf j = none := by
  cases rest <;> rfl

theorem CreateOp.run_world (cfg : Config) (env : Env) (w : World) (fault : Fault) (c : CreateOp) :
    (c.run cfg env w fault).1 = if fault.effect then (c.act cfg env w).1 else w := by
  cases fault <;> rfl

/-- While a row is being saved, `create_notification` runs as a task on that row. -/
theorem create_run_saving (cfg : Config) (env : Env) (w : World) (fault : Fault) {c : CreateOp}
    {id : Nat} {pc : SavingPc} {rest : List NotificationChannel} (hc : c.pc = .saving id pc rest) :
    (c.run cfg env w fault).1 =
        w.apply id ((Task.saving pc).run cfg env id w.service (w.rows id) fault) ∧
      ∀ j, (c.run cfg env w fault).2.taskOf j = if id = j then
        ((Task.saving pc).run cfg env id w.service (w.rows id) fault).next else none := by
  have acted : (c.act cfg env w).1 =
      w.apply id ((Task.saving pc).act cfg env id w.service (w.rows id)) := by
    simp only [CreateOp.act, hc]
    split <;> rfl
  have landed (j : Nat) : (Op.create c.afterRaise).taskOf j = none := by
    cases pc with
    | refresh => simp [CreateOp.afterRaise, hc, Op.taskOf]
    | enqueue score => simp [CreateOp.afterRaise, hc]
  cases fault with
  | none =>
    refine ⟨acted, ?_⟩
    intro j
    cases pc with
    | refresh =>
      cases hr : w.rows id <;>
        simp [CreateOp.run, CreateOp.act, Task.run, Task.act, SavingPc.act, CreateOp.saved, Op.taskOf, hc, hr]
    | enqueue score =>
      simp [CreateOp.run, CreateOp.act, Task.run, Task.act, SavingPc.act, hc]
  | raised effect =>
    refine ⟨?_, fun j => by simp [CreateOp.run, landed, Task.run, Task.afterRaise]⟩
    cases effect with
    | false => exact (w.apply_idle id none).symm
    | true => exact acted.trans (by cases pc <;> rfl)
  | stopped effect =>
    refine ⟨?_, fun j => by simp [CreateOp.run, Op.taskOf, Task.run]⟩
    cases effect with
    | false => exact (w.apply_idle id none).symm
    | true => exact acted.trans (by cases pc <;> rfl)

/-- What `create_notification` does to the notifications it is not saving: nothing, unless it
inserts them. -/
theorem create_run_other (cfg : Config) {env : Env} {w : World} (fault : Fault) {c : CreateOp}
    (hc : ∀ id pc rest, c.pc ≠ .saving id pc rest)
    (hi : ∀ channel rest, c.pc = .insert channel rest →
      w.insertResult (c.newRow env channel) ≠ .inserted) (j : Nat) (ops : List Op) :
    Sys.note j ⟨(c.run cfg env w fault).1, ops⟩ = Sys.note j ⟨w, ops⟩ ∧
      (c.run cfg env w fault).2.taskOf j = none := by
  have acted : Sys.note j ⟨(c.act cfg env w).1, ops⟩ = Sys.note j ⟨w, ops⟩ ∧
      (Op.create (c.act cfg env w).2).taskOf j = none := by
    cases h : c.pc with
    | setnx =>
      by_cases hk : c.payload.redisKey ∈ w.idemKeys <;>
        simp [CreateOp.act, h, hk, Sys.note, Op.taskOf]
    | expire => simp [CreateOp.act, h]
    | insert channel rest =>
      have hne := hi channel rest h
      cases hr : w.insertResult (c.newRow env channel) with
      | inserted => exact absurd hr hne
      | uniqueViolation => simp [CreateOp.act, h, hr, Sys.note, World.skipId, Op.taskOf]
      | tooLong => simp [CreateOp.act, h, hr, Sys.note, World.skipId, Op.taskOf]
    | rollback rest => simp [CreateOp.act, h]
    | saving id pc rest => exact absurd h (hc id pc rest)
    | returned dup => simp [CreateOp.act, h, Op.taskOf]
    | raised => simp [CreateOp.act, h, Op.taskOf]
  have landed : (Op.create c.afterRaise).taskOf j = none := by
    cases h : c.pc with
    | saving id pc rest => exact absurd h (hc id pc rest)
    | _ => simp [CreateOp.afterRaise, h, Op.taskOf]
  cases fault with
  | none => exact acted
  | raised effect => cases effect <;> simp [CreateOp.run, acted, landed]
  | stopped effect => cases effect <;> simp [CreateOp.run, acted, Op.taskOf]

theorem create_taskOf (j : Nat) (c : CreateOp) (hc : ∀ id pc rest, c.pc ≠ .saving id pc rest) :
    (Op.create c).taskOf j = none := by
  cases h : c.pc with
  | saving id pc rest => exact absurd h (hc id pc rest)
  | _ => simp [Op.taskOf, h]

theorem note_insert_self {w : World} (ops : List Op) {ops' : List Op} {n : Notification} {next : Option Task}
    (tasks : (ops'.filterMap (Op.taskOf w.nextId) : Multiset Task) =
      put next (ops.filterMap (Op.taskOf w.nextId) : List Task)) :
    Sys.note w.nextId ⟨w.insert n, ops'⟩ =
      { Sys.note w.nextId ⟨w, ops⟩ with
        row := some n, tasks := put next (Sys.note w.nextId ⟨w, ops⟩).tasks } := by
  simp only [Sys.note, World.insert, tasks, if_pos]
  rfl

theorem note_insert_other {w : World} {ops ops' : List Op} {n : Notification} {j : Nat}
    (ne : w.nextId ≠ j)
    (tasks : (ops'.filterMap (Op.taskOf j) : Multiset Task) = ops.filterMap (Op.taskOf j)) :
    Sys.note j ⟨w.insert n, ops'⟩ = Sys.note j ⟨w, ops⟩ := by
  simp only [Sys.note, World.insert, tasks, if_neg ne.symm]
  rfl

theorem create_run_insert (cfg : Config) {env : Env} {w : World} (fault : Fault) {c : CreateOp}
    {channel : NotificationChannel} {rest : List NotificationChannel}
    (hc : c.pc = .insert channel rest)
    (hr : w.insertResult (c.newRow env channel) = .inserted) :
    ((c.run cfg env w fault).1 = w ∨ (c.run cfg env w fault).1 = w.insert (c.newRow env channel)) ∧
      ∀ j, w.nextId ≠ j → (c.run cfg env w fault).2.taskOf j = none := by
  have landed (j : Nat) : (Op.create c.afterRaise).taskOf j = none := by
    simp [CreateOp.afterRaise, hc, Op.taskOf]
  cases fault with
  | none => simp +contextual [CreateOp.run, CreateOp.act, hc, hr, Op.taskOf]
  | raised effect => cases effect <;> simp [CreateOp.run, CreateOp.act, hc, hr, landed]
  | stopped effect => cases effect <;> simp [CreateOp.run, CreateOp.act, hc, hr, Op.taskOf]

end NotificationEngine
