import NotificationEngine.NoteRuns
import NotificationEngine.TaskSteps

namespace NotificationEngine

/-- Every id about to be enqueued has a row. -/
def Note.Placed (n : Note) : Prop := ∀ t ∈ n.tasks, t.enqueues.isSome = true → n.row.isSome = true

/-- The next await is an enqueue only if the row was there to take its priority from. -/
theorem Task.run_placed {cfg : Config} {env : Env} {id : Nat} {q : QueueService}
    {db : Option Notification} {fault : Fault} {t next : Task}
    (h : (t.run cfg env id q db fault).next = some next) (enqueues : next.enqueues.isSome = true) :
    db.isSome = true := by
  cases Task.run_goes h with
  | known row => rw [row]; rfl
  | reloaded row => rw [row]; rfl
  | saved row => rw [row]; rfl
  | _ => cases enqueues

theorem Note.Placed.step {cfg : Config} {j : Nat} {n n' : Note} {e : NoteLabel} (placed : n.Placed)
    (h : Note.Step cfg j n e n') : n'.Placed := by
  intro u mem enqueues
  refine h.row_isSome ?_
  rcases h.mem_tasks mem with there | start | ⟨t, fault, env, q, _, _, next⟩
  · exact placed u there enqueues
  · cases start <;> cases enqueues
  · exact t.run_placed next enqueues

theorem reach_placed {cfg : Config} {ok : Sys → Label → Prop} {s : Sys} (id : Nat)
    (h : Sys.Reach cfg ok .initial s) : (s.note id).Placed := by
  have run : Transition.Reach (Note.Step cfg id) (fun _ _ => True) Note.absent (s.note id) :=
    note_reach (fun _ _ _ _ _ => trivial) h
  refine run.invariant ?_ fun _ _ _ placed _ step => placed.step step
  exact fun t ht => absurd ht (Multiset.notMem_zero t)

theorem Task.run_enqueued {cfg : Config} {env : Env} {id : Nat} {q : QueueService}
    {db : Option Notification} {fault : Fault} {t : Task}
    (h : (t.run cfg env id q db fault).enqueued.isSome = true) : t.enqueues.isSome = true := by
  rw [Task.run_part Outcome.enqueued fun _ _ _ _ _ => rfl] at h
  split at h
  next => rwa [(t.act_effects cfg env id q db).enqueued] at h
  next => cases h

/-- What a call can change of the rows that exist and the ids enqueued. -/
structure World.Grows (w w' : World) (id : Nat) (placed : Prop) : Prop where
  rows : ∀ i, (w.rows i).isSome = true → (w'.rows i).isSome = true
  enqueued : w'.enqueued = w.enqueued ∨ placed ∧ w'.enqueued = w.enqueued ++ [id]

theorem World.apply_grows {w : World} {id : Nat} {o : Outcome}
    (keeps : o.db.isSome = (w.rows id).isSome) :
    w.Grows (w.apply id o) id (o.enqueued.isSome = true) where
  rows i hi := by
    by_cases h : i = id
    · subst h
      simpa [World.apply, keeps] using hi
    · simpa [World.apply, h] using hi
  enqueued := by
    cases h : o.enqueued.isSome with
    | false => exact .inl (by simp [World.apply, h])
    | true => exact .inr ⟨rfl, by simp [World.apply, h]⟩

/-- The ids that were put into the sorted set have rows. -/
def World.EnqueuedRows (w : World) : Prop := ∀ id ∈ w.enqueued, (w.rows id).isSome = true

theorem World.EnqueuedRows.grow {w w' : World} {id : Nat} {placed : Prop} (known : w.EnqueuedRows)
    (grows : w.Grows w' id placed) (row : placed → (w.rows id).isSome = true) : w'.EnqueuedRows := by
  intro i hi
  refine grows.rows i ?_
  rcases grows.enqueued with same | ⟨there, more⟩
  · exact known i (same ▸ hi)
  · rw [more] at hi
    rcases List.mem_append.mp hi with old | new
    · exact known i old
    · rw [List.mem_singleton.mp new]
      exact row there

theorem World.EnqueuedRows.insert {w : World} (known : w.EnqueuedRows) (n : Notification) :
    (w.insert n).EnqueuedRows := by
  intro i hi
  by_cases h : i = w.nextId
  · simp [World.insert, h]
  · simpa [World.insert, h] using known i hi

theorem CreateOp.act_enqueuedRows {cfg : Config} {env : Env} {w : World} {c : CreateOp}
    (known : w.EnqueuedRows)
    (placed : ∀ id t, (Op.create c).taskOf id = some t → t.enqueues.isSome = true →
      (w.rows id).isSome = true) : (c.act cfg env w).1.EnqueuedRows := by
  cases h : c.pc with
  | setnx =>
    simp only [CreateOp.act, h]
    split <;> exact known
  | insert channel rest =>
    simp only [CreateOp.act, h]
    split
    next => exact known.insert _
    next => exact known
    next => exact known
  | saving id pc rest =>
    have applied : (w.apply id ((Task.saving pc).act cfg env id w.service (w.rows id))).EnqueuedRows := by
      refine known.grow (w.apply_grows (Task.run_isSome cfg env id w.service _ .none _)) fun there => ?_
      exact placed id (.saving pc) (by simp [Op.taskOf, h])
        ((Task.act_effects cfg env id w.service (w.rows id) (.saving pc)).enqueued ▸ there)
    simp only [CreateOp.act, h]
    split <;> exact applied
  | _ => simpa [CreateOp.act, h] using known

theorem Op.run_enqueuedRows {cfg : Config} {env : Env} {w : World} {fault : Fault} {op : Op}
    (known : w.EnqueuedRows)
    (placed : ∀ id t, op.taskOf id = some t → t.enqueues.isSome = true →
      (w.rows id).isSome = true) : (op.run cfg env w fault).1.EnqueuedRows := by
  cases op with
  | create c =>
    have acted : (c.act cfg env w).1.EnqueuedRows := CreateOp.act_enqueuedRows known placed
    simp only [Op.run, CreateOp.run_world]
    split
    next => exact acted
    next => exact known
  | task id t =>
    refine known.grow (w.apply_grows (t.run_isSome cfg env id w.service _ fault)) fun there => ?_
    exact placed id t (by simp [Op.taskOf]) (t.run_enqueued there)
  | done => exact known

theorem reach_enqueuedRows {cfg : Config} {ok : Sys → Label → Prop} {s : Sys}
    (h : Sys.Reach cfg ok .initial s) : s.world.EnqueuedRows := by
  induction h with
  | start => exact fun id hid => absurd hid List.not_mem_nil
  | @next s s' l reached _ step known =>
    rcases Sys.step_rows step with ⟨i, fault, env, op, _, hop, ran⟩ | ⟨rows, _, enqueued, _⟩
    · rw [ran]
      refine Op.run_enqueuedRows known fun id t ht enqueues => ?_
      refine reach_placed id reached t ?_ enqueues
      exact Multiset.mem_coe.mpr (List.mem_filterMap.mpr ⟨op, List.mem_of_getElem? hop, ht⟩)
    · intro id hid
      rw [rows]
      exact known id (enqueued ▸ hid)

end NotificationEngine
