import NotificationEngine.NoteProjection
import NotificationEngine.Sightings
import NotificationEngine.TaskEffects

namespace NotificationEngine

/-- No row has an id the sequence has not given out yet. -/
def World.Fresh (w : World) : Prop := ∀ i, w.nextId ≤ i → w.rows i = none

theorem World.Fresh.apply {w : World} {id : Nat} {o : Outcome} (fresh : w.Fresh)
    (keeps : o.db.isSome = (w.rows id).isSome) : (w.apply id o).Fresh := by
  intro i hi
  have old := fresh i hi
  by_cases h : i = id
  · subst h
    simpa [World.apply, old] using keeps
  · simpa [World.apply, h] using old

theorem World.Fresh.insert {w : World} (fresh : w.Fresh) (n : Notification) : (w.insert n).Fresh := by
  intro i hi
  have bound : w.nextId + 1 ≤ i := hi
  have ne : i ≠ w.nextId := by omega
  simpa [World.insert, ne] using fresh i (by omega)

theorem World.Fresh.skipId {w : World} (fresh : w.Fresh) : w.skipId.Fresh := by
  intro i hi
  have bound : w.nextId + 1 ≤ i := hi
  exact fresh i (by omega)

theorem CreateOp.act_fresh {cfg : Config} {env : Env} {w : World} {c : CreateOp} (fresh : w.Fresh) :
    (c.act cfg env w).1.Fresh := by
  cases h : c.pc with
  | setnx =>
    simp only [CreateOp.act, h]
    split
    next => exact fresh
    next => exact fresh
  | insert channel rest =>
    simp only [CreateOp.act, h]
    split
    next => exact fresh.insert _
    next => exact fresh.skipId
    next => exact fresh.skipId
  | saving id pc rest =>
    have applied : (w.apply id ((Task.saving pc).act cfg env id w.service (w.rows id))).Fresh :=
      fresh.apply (Task.run_isSome cfg env id w.service (w.rows id) .none _)
    simp only [CreateOp.act, h]
    split
    next => exact applied
    next => exact applied
  | _ => simpa [CreateOp.act, h] using fresh

theorem Op.run_fresh {cfg : Config} {env : Env} {w : World} {fault : Fault} {op : Op}
    (fresh : w.Fresh) : (op.run cfg env w fault).1.Fresh := by
  cases op with
  | create c =>
    have acted : (c.act cfg env w).1.Fresh := CreateOp.act_fresh fresh
    simp only [Op.run, CreateOp.run_world]
    split
    next => exact acted
    next => exact fresh
  | task id t =>
    exact fresh.apply (t.run_isSome cfg env id w.service (w.rows id) fault)
  | done => exact fresh

/-- Only the calls of operations touch the table. -/
theorem Sys.step_rows {cfg : Config} {s s' : Sys} {l : Label} (h : s.step cfg l = some s') :
    (∃ (i : Nat) (fault : Fault) (env : Env) (op : Op), l = .run i fault env ∧ s.ops[i]? = some op ∧
        s'.world = (op.run cfg env s.world fault).1) ∨
      s'.world.rows = s.world.rows ∧ s'.world.nextId = s.world.nextId ∧
        s'.world.enqueued = s.world.enqueued ∧
        (s'.world.idemKeys = s.world.idemKeys ∨
          ∃ key, l = .forget key ∧ s'.world.idemKeys = s.world.idemKeys.filter (· ≠ key)) := by
  cases l with
  | run i fault env =>
    obtain ⟨op, hop, rfl⟩ := Option.map_eq_some_iff.mp h
    exact Or.inl ⟨i, fault, env, op, rfl, hop, rfl⟩
  | dequeue fault =>
    simp only [Sys.step] at h
    split at h
    next => cases Option.some.inj h; exact Or.inr ⟨rfl, rfl, rfl, Or.inl rfl⟩
    next =>
      split at h
      next => cases Option.some.inj h; exact Or.inr ⟨rfl, rfl, rfl, Or.inl rfl⟩
      next => split at h <;> cases Option.some.inj h <;> exact Or.inr ⟨rfl, rfl, rfl, Or.inl rfl⟩
  | expire now =>
    simp only [Sys.step] at h
    split at h
    next => cases h
    next =>
      split at h
      next => cases Option.some.inj h; exact Or.inr ⟨rfl, rfl, rfl, Or.inl rfl⟩
      next => cases h
  | deliver =>
    simp only [Sys.step] at h
    split at h
    next => cases h
    next => cases Option.some.inj h; exact Or.inr ⟨rfl, rfl, rfl, Or.inl rfl⟩
  | forget key => cases Option.some.inj h; exact Or.inr ⟨rfl, rfl, rfl, Or.inr ⟨key, rfl, rfl⟩⟩
  | _ => cases Option.some.inj h; exact Or.inr ⟨rfl, rfl, rfl, Or.inl rfl⟩

/-- A step lets one operation make a call, or starts one operation at most. -/
theorem Sys.step_ops {cfg : Config} {s s' : Sys} {l : Label} (h : s.step cfg l = some s') :
    (∃ (i : Nat) (fault : Fault) (env : Env) (op : Op), l = .run i fault env ∧ s.ops[i]? = some op ∧
        s'.ops = s.ops.set i (op.run cfg env s.world fault).2) ∨
      s'.ops = s.ops ∨
      ∃ op, s'.ops = s.ops ++ [op] ∧
        ((∃ payload, op = .create ⟨payload, [], .setnx⟩) ∨ ∃ id t, op = .task id t) := by
  cases l with
  | run i fault env =>
    obtain ⟨op, hop, rfl⟩ := Option.map_eq_some_iff.mp h
    exact Or.inl ⟨i, fault, env, op, rfl, hop, rfl⟩
  | createNotification payload =>
    cases Option.some.inj h
    exact Or.inr (Or.inr ⟨_, rfl, Or.inl ⟨payload, rfl⟩⟩)
  | retryNotification id =>
    cases Option.some.inj h
    exact Or.inr (Or.inr ⟨_, rfl, Or.inr ⟨id, _, rfl⟩⟩)
  | dequeue fault =>
    simp only [Sys.step] at h
    split at h
    next => cases Option.some.inj h; exact Or.inr (Or.inl rfl)
    next id _ _ =>
      split at h
      next => cases Option.some.inj h; exact Or.inr (Or.inr ⟨_, rfl, Or.inr ⟨id, _, rfl⟩⟩)
      next => split at h <;> cases Option.some.inj h <;> exact Or.inr (Or.inl rfl)
  | expire now =>
    simp only [Sys.step] at h
    split at h
    next => cases h
    next =>
      split at h
      next => cases Option.some.inj h; exact Or.inr (Or.inl rfl)
      next => cases h
  | deliver =>
    simp only [Sys.step] at h
    split at h
    next => cases h
    next id _ _ => cases Option.some.inj h; exact Or.inr (Or.inr ⟨_, rfl, Or.inr ⟨id, _, rfl⟩⟩)
  | _ => cases Option.some.inj h; exact Or.inr (Or.inl rfl)

/-- Where a request in progress comes from: it was as it is, has just arrived, or made a call. -/
theorem Sys.step_create {cfg : Config} {s s' : Sys} {l : Label} {k : Nat} {c' : CreateOp}
    (h : s.step cfg l = some s') (there : s'.ops[k]? = some (.create c')) :
    s.ops[k]? = some (.create c') ∨ c'.pc = .setnx ∨ ∃ fault env c, l = .run k fault env ∧
      s.ops[k]? = some (.create c) ∧ (c.run cfg env s.world fault).2 = .create c' := by
  rcases Sys.step_ops h with ⟨i, fault, env, op, rfl, hop, ops⟩ | same | ⟨op, ops, started⟩
  · rw [ops] at there
    by_cases own : i = k
    · subst own
      obtain ⟨inside, _⟩ := List.getElem?_eq_some_iff.mp hop
      rw [List.getElem?_set_self inside] at there
      have ran := Option.some.inj there
      cases op with
      | create c => exact Or.inr (Or.inr ⟨fault, env, c, rfl, hop, ran⟩)
      | task id t =>
        simp only [Op.run] at ran
        cases next : (t.run cfg env id s.world.service (s.world.rows id) fault).next with
        | none =>
          rw [next] at ran
          cases ran
        | some u =>
          rw [next] at ran
          cases ran
      | done => cases ran
    · rw [List.getElem?_set_ne own] at there
      exact Or.inl there
  · rw [same] at there
    exact Or.inl there
  · rw [ops] at there
    by_cases old : k < s.ops.length
    · rw [List.getElem?_append_left old] at there
      exact Or.inl there
    · rw [List.getElem?_append_right (by omega)] at there
      have new : op = .create c' := List.mem_singleton.mp (List.mem_of_getElem? there) |>.symm
      rcases started with ⟨payload, rfl⟩ | ⟨id, t, rfl⟩
      · cases new
        exact Or.inr (Or.inl rfl)
      · cases new

theorem Sys.step_fresh {cfg : Config} {s s' : Sys} {l : Label} (fresh : s.world.Fresh)
    (h : s.step cfg l = some s') : s'.world.Fresh := by
  rcases Sys.step_rows h with ⟨i, fault, env, op, _, _, ran⟩ | ⟨rows, nextId, _⟩
  · rw [ran]
    exact Op.run_fresh fresh
  · intro i hi
    rw [rows]
    exact fresh i (nextId ▸ hi)

theorem reach_fresh {cfg : Config} {ok : Sys → Label → Prop} {s s' : Sys} (fresh : s.world.Fresh)
    (h : Sys.Reach cfg ok s s') : s'.world.Fresh := by
  induction h with
  | start => exact fresh
  | next _ _ step ih => exact Sys.step_fresh ih step

/-- The notification nobody has created yet. -/
def Note.absent : Note := ⟨none, false, 0, 0, 0, 0, 0, 0, []⟩

theorem note_initial (j : Nat) : Sys.initial.note j = Note.absent := by
  simp [Sys.note, Sys.initial, World.initial, Note.absent]

theorem note_reach_from {cfg : Config} {ok : Sys → Label → Prop} {ok' : Note → NoteLabel → Prop}
    {j : Nat} {s s' : Sys} (fresh : s.world.Fresh)
    (sees : ∀ s l e, ok s l → s.Seen j l e → ok' (s.note j) e)
    (h : Sys.Reach cfg ok s s') :
    Transition.Reach (Note.Step cfg j) ok' (s.note j) (s'.note j) := by
  apply h.project (Sys.note j)
  intro a l b reached hok step
  have seen := step_seen j (reach_fresh fresh reached a.world.nextId le_rfl) step
  cases he : a.seenAs j l with
  | none =>
    rw [he] at seen
    exact Or.inl seen
  | some e =>
    rw [he] at seen
    exact Or.inr ⟨e, sees a l e hok (seen_of_seenAs he), seen⟩

/-- Every run of the service is, for each notification, a run of its life. -/
theorem note_reach {cfg : Config} {ok : Sys → Label → Prop} {ok' : Note → NoteLabel → Prop}
    {j : Nat} {s : Sys} (sees : ∀ s l e, ok s l → s.Seen j l e → ok' (s.note j) e)
    (h : Sys.Reach cfg ok .initial s) :
    Transition.Reach (Note.Step cfg j) ok' Note.absent (s.note j) := by
  rw [← note_initial j]
  exact note_reach_from (fun _ _ => rfl) sees h

/-- A column that no call sets stays as the row was created. -/
theorem reach_column {α : Type} {column : Notification → α} {cfg : Config} {ok : Sys → Label → Prop}
    {s s' : Sys} {id : Nat} {a : α} (fresh : s.world.Fresh)
    (unset : ∀ loaded new stored, column (Notification.flush loaded new stored) = column stored)
    (h : Sys.Reach cfg ok s s') (row : (s.world.rows id).map column = some a) :
    (s'.world.rows id).map column = some a := by
  have noted : Transition.Reach (Note.Step cfg id) (fun _ _ => True) (s.note id) (s'.note id) :=
    note_reach_from fresh (fun _ _ _ _ _ => trivial) h
  change (s'.note id).row.map column = some a
  generalize s'.note id = n at noted
  induction noted with
  | start => exact row
  | next _ _ step ih => exact step.row_column unset ih

/-- The same with a count of steps, each of which the notification sees. -/
theorem note_reach_counting {cfg : Config} (ok : Sys → Label → Prop)
    (ok' : Note → NoteLabel → Prop) {counts : Sys → Label → Bool} {counts' : NoteLabel → Bool} {j : Nat} {b : Sys × Nat}
    (sees : ∀ s l e, ok s l → s.seenAs j l = some e → ok' (s.note j) e ∧ counts' e = counts s l)
    (unseen : ∀ s l, s.seenAs j l = none → counts s l = false)
    (h : Transition.Reach (fun a l b => Transition.counting (Sys.step cfg) counts a l = some b)
      (fun a l => ok a.1 l) (.initial, 0) b) :
    Transition.Reach
      (fun a e b => Note.Step cfg j a.1 e b.1 ∧ b.2 = a.2 + (counts' e).toNat)
      (fun a e => ok' a.1 e) (Note.absent, 0) (b.1.note j, b.2) := by
  have start : (Note.absent, 0) = (Sys.initial.note j, 0) := by rw [note_initial]
  rw [start]
  apply h.project fun a => (a.1.note j, a.2)
  intro a l b reached hok step
  obtain ⟨step, counted⟩ := Transition.counting_eq_some step
  have fresh : a.1.world.Fresh := reach_fresh (fun _ _ => rfl) reached.uncounted
  have seen := step_seen j (fresh a.1.world.nextId le_rfl) step
  cases he : a.1.seenAs j l with
  | none =>
    rw [he] at seen
    rw [unseen a.1 l he] at counted
    exact Or.inl (Prod.ext seen counted)
  | some e =>
    rw [he] at seen
    obtain ⟨admitted, same⟩ := sees a.1 l e hok he
    exact Or.inr ⟨e, admitted, seen, by rw [same]; exact counted⟩

end NotificationEngine
