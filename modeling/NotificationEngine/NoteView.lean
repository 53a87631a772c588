import NotificationEngine.TaskEffects

namespace NotificationEngine

open Holders

/-- Whatever an outcome publishes or dead-letters is about the notification itself. -/
def Outcome.Addressed (o : Outcome) (id : Nat) : Prop :=
  (∀ m ∈ o.published, m.notificationId = id) ∧ ∀ d ∈ o.deadLetter, d.notificationId = id

theorem Task.act_addressed (cfg : Config) (env : Env) (id : Nat) (q : QueueService)
    (db : Option Notification) (t : Task) : (t.act cfg env id q db).Addressed id := by
  have effects := t.act_effects cfg env id q db
  refine ⟨?_, ?_⟩
  · rw [effects.published]
    intro m hm
    rcases t with pc | pc | pc | pc
    · cases pc with
      | publishing delay pc =>
        obtain ⟨_, same⟩ := Option.ite_none_right_eq_some.mp hm
        cases same
        rfl
      | _ => cases hm
    · cases hm
    · cases hm
    · cases hm
  · rw [effects.deadLetter]
    intro d hd
    rcases t with pc | pc | pc | pc
    · cases pc <;> cases hd
      rfl
    · cases hd
    · cases hd
    · cases hd

theorem Task.run_addressed (cfg : Config) (env : Env) (id : Nat) (q : QueueService)
    (db : Option Notification) (fault : Fault) (t : Task) :
    (t.run cfg env id q db fault).Addressed id := by
  rw [Task.run_part (fun o => o.Addressed id) fun _ _ _ _ _ => rfl]
  split
  next => exact t.act_addressed cfg env id q db
  next => simp [Outcome.Addressed]

theorem note_apply_self {w : World} (ops : List Op) {ops' : List Op} {j : Nat} {o : Outcome}
    {rest : Multiset Task} (addressed : o.Addressed j)
    (tasks : (ops'.filterMap (Op.taskOf j) : Multiset Task) = put o.next rest) :
    Sys.note j ⟨w.apply j o, ops'⟩ = (Sys.note j ⟨w, ops⟩).after rest o := by
  have published : (o.published.toList.countP fun m => m.notificationId = j) =
      o.published.toList.length := by
    cases h : o.published with
    | none => rfl
    | some m => simp [addressed.1 m h]
  have dead : o.deadLetter.toList.filter (fun d => d.notificationId = j) = o.deadLetter.toList := by
    cases h : o.deadLetter with
    | none => rfl
    | some d => simp [addressed.2 d h]
  have queue : decide (j ∈ (w.apply j o).queue) = (decide (j ∈ w.queue) || o.enqueued.isSome) := by
    cases h : o.enqueued <;> simp [World.apply, h]
  have sent : (w.apply j o).deliveries.count j = w.deliveries.count j + o.delivered.toNat := by
    cases h : o.delivered <;> simp [World.apply, h]
  have log : (w.apply j o).published.count j = w.published.count j + o.published.toList.length := by
    cases h : o.published <;> simp [World.apply, h]
  have spent : (w.apply j o).exhausted.count j = w.exhausted.count j + o.exhausted.toNat := by
    cases h : o.exhausted <;> simp [World.apply, h]
  have ready : (w.apply j o).retryResult.count j = w.retryResult.count j + o.redelivered.toNat := by
    cases h : o.redelivered <;> simp [World.apply, h]
  simp only [Sys.note, Note.after, queue, sent, log, spent, ready, tasks]
  simp [World.apply, published, dead]

theorem note_apply_other {w : World} {ops ops' : List Op} {i j : Nat} {o : Outcome}
    (addressed : o.Addressed i) (ne : i ≠ j)
    (tasks : (ops'.filterMap (Op.taskOf j) : Multiset Task) = ops.filterMap (Op.taskOf j)) :
    Sys.note j ⟨w.apply i o, ops'⟩ = Sys.note j ⟨w, ops⟩ := by
  have published : (o.published.toList.countP fun m => m.notificationId = j) = 0 := by
    cases h : o.published with
    | none => rfl
    | some m => simp [addressed.1 m h, ne]
  have dead : o.deadLetter.toList.filter (fun d => d.notificationId = j) = [] := by
    cases h : o.deadLetter with
    | none => rfl
    | some d => simp [addressed.2 d h, ne]
  have queue : decide (j ∈ (w.apply i o).queue) = decide (j ∈ w.queue) := by
    cases h : o.enqueued <;> simp [World.apply, h, ne.symm]
  have sent : (w.apply i o).deliveries.count j = w.deliveries.count j := by
    cases h : o.delivered <;> simp [World.apply, h, ne]
  have log : (w.apply i o).published.count j = w.published.count j := by
    cases h : o.published <;> simp [World.apply, h, ne]
  have spent : (w.apply i o).exhausted.count j = w.exhausted.count j := by
    cases h : o.exhausted <;> simp [World.apply, h, ne]
  have ready : (w.apply i o).retryResult.count j = w.retryResult.count j := by
    cases h : o.redelivered <;> simp [World.apply, h, ne]
  simp only [Sys.note, queue, sent, log, spent, ready, tasks]
  simp [World.apply, published, dead, ne.symm]

end NotificationEngine
