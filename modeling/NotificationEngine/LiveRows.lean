import NotificationEngine.Custody
import NotificationEngine.NoteRuns

namespace NotificationEngine

open Holders

/-- The id is parked, or one of these tasks holds it securely. -/
def Note.HeldBy (n : Note) (tasks : Multiset Task) : Prop :=
  n.queued = true ∨ 0 < n.waiting ∨ 0 < n.ready ∨ ∃ t ∈ tasks, t.secure = true

/-- A live row is held. -/
def Note.Kept (n : Note) : Prop := RowIs (·.Live) n.row → n.HeldBy n.tasks

/-- A call that loses a holder of a live row, or of one that it may bring back to life, leaves
another holder behind. -/
def Note.Careful (cfg : Config) (n : Note) : NoteLabel → Prop
  | .dequeued lost => lost = true → RowIs (·.Live) n.row →
      Note.HeldBy { n with queued := false } n.tasks
  | .inserted lost => lost = false
  | .ran t fault env q => t.letsGo cfg env q fault = true →
      RowIs (·.Live) n.row ∨ t.commits.isSome = true → ∀ rest, n.tasks = t ::ₘ rest → n.HeldBy rest
  | _ => True

theorem Note.HeldBy.after {n : Note} {rest : Multiset Task} (held : n.HeldBy rest) (o : Outcome) :
    (n.after rest o).HeldBy (n.after rest o).tasks := by
  rcases held with queued | waiting | ready | ⟨t, ht, secure⟩
  · exact Or.inl (by simp [Note.after, queued])
  · exact Or.inr (Or.inl (by simp only [Note.after]; omega))
  · exact Or.inr (Or.inr (Or.inl (by simp only [Note.after]; omega)))
  · exact Or.inr (Or.inr (Or.inr ⟨t, Note.mem_after.mpr (Or.inr ht), secure⟩))

theorem Outcome.Keeps.after {o : Outcome} (keeps : o.Keeps) (n : Note) (rest : Multiset Task) :
    (n.after rest o).HeldBy (n.after rest o).tasks := by
  rcases keeps with ⟨t, ht, secure⟩ | enqueued | published | redelivered
  · exact Or.inr (Or.inr (Or.inr ⟨t, Note.mem_after.mpr (Or.inl ht), secure⟩))
  · exact Or.inl (by simp [Note.after, enqueued])
  · obtain ⟨m, hm⟩ := Option.isSome_iff_exists.mp published
    exact Or.inr (Or.inl (by simp [Note.after, hm]))
  · exact Or.inr (Or.inr (Or.inl (by simp [Note.after, redelivered])))

theorem Note.Kept.ran {cfg : Config} {j : Nat} {n : Note} {t : Task} {rest : Multiset Task}
    {fault : Fault} {env : Env} {q : QueueService} (kept : n.Kept) (tasks : n.tasks = t ::ₘ rest)
    (careful : n.Careful cfg (.ran t fault env q)) :
    (n.after rest (t.run cfg env j q n.row fault)).Kept := by
  intro live
  cases secure : t.secure with
  | false =>
    rcases kept (Task.run_live (fun _ => Task.write_live secure) live) with queued | waiting | ready | ⟨u, hu, secure'⟩
    · exact Note.HeldBy.after (Or.inl queued) _
    · exact Note.HeldBy.after (Or.inr (Or.inl waiting)) _
    · exact Note.HeldBy.after (Or.inr (Or.inr (Or.inl ready))) _
    · rw [tasks] at hu
      rcases Multiset.mem_cons.mp hu with rfl | there
      · rw [secure] at secure'
        cases secure'
      · exact Note.HeldBy.after (Or.inr (Or.inr (Or.inr ⟨u, there, secure'⟩))) _
  | true =>
    cases lets : t.letsGo cfg env q fault with
    | false => exact (Task.run_keeps secure lets live).after n rest
    | true =>
      refine (careful lets ?_ rest tasks).after _
      cases commits : t.commits with
      | some write => exact Or.inr rfl
      | none =>
        refine Or.inl (Task.run_live (fun r hs => ?_) live)
        rwa [Task.write_status, commits] at hs

theorem Note.Kept.step {cfg : Config} {j : Nat} {n n' : Note} {e : NoteLabel} (kept : n.Kept)
    (careful : n.Careful cfg e) (h : Note.Step cfg j n e n') : n'.Kept := by
  cases h with
  | requested =>
    intro live
    rcases kept live with queued | waiting | ready | ⟨t, ht, secure⟩
    · exact Or.inl queued
    · exact Or.inr (Or.inl waiting)
    · exact Or.inr (Or.inr (Or.inl ready))
    · exact Or.inr (Or.inr (Or.inr ⟨t, Multiset.mem_cons_of_mem ht, secure⟩))
  | dequeued lost queued =>
    intro live
    cases lost with
    | true => exact careful rfl live
    | false => exact Or.inr (Or.inr (Or.inr ⟨_, Multiset.mem_cons_self _ _, rfl⟩))
  | expired waiting => exact fun _ => Or.inr (Or.inr (Or.inl (Nat.succ_pos _)))
  | delivered ready => exact fun _ => Or.inr (Or.inr (Or.inr ⟨_, Multiset.mem_cons_self _ _, rfl⟩))
  | inserted lost payload channel ctime unborn =>
    cases (careful : lost = false)
    exact fun _ => Or.inr (Or.inr (Or.inr ⟨_, Multiset.mem_cons_self _ _, rfl⟩))
  | ran t fault env q tasks => exact kept.ran tasks careful

theorem Note.absent_kept : Note.absent.Kept := fun live => absurd live (not_rowIs_none _)

end NotificationEngine
