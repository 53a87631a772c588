import NotificationEngine.Coverage
import NotificationEngine.Provenance
import NotificationEngine.SentEarned

namespace NotificationEngine

section Steps

variable {cfg : Config} {s s' : Sys} {l : Label} {j : Nat} {n n' : Note} {e : NoteLabel}

theorem Note.Sole.single_label (sole : n.Sole) (plain : e.Plain cfg) (h : Note.Step cfg j n e n') :
    e.InfraOk ∧ n.RetryAlone e := by
  cases h with
  | requested => exact plain.elim
  | dequeued lost queued => exact ⟨plain, fun t ht => Task.resends_of_isRetry (sole.others t ht)⟩
  | inserted lost payload channel ctime unborn => exact ⟨plain, trivial⟩
  | ran t fault env q tasks =>
    have other := sole.others t (Note.mem_running tasks)
    cases t with
    | retry pc => cases other
    | _ => exact ⟨Or.inl plain.1, trivial⟩
  | _ => exact ⟨trivial, trivial⟩

/-- One carrier at most, and one delivery at most. -/
structure Note.Served (n : Note) : Prop where
  sole : n.Sole
  once : n.Once

theorem Note.Served.step (served : n.Served) (plain : e.Plain cfg) (h : Note.Step cfg j n e n') : n'.Served := by
  obtain ⟨infra, alone⟩ := served.sole.single_label plain h
  exact ⟨served.sole.step plain h, served.once.step infra alone h⟩

/-- What a service at rest has made of a notification. -/
theorem Sys.Quiet.outcome (quiet : s.Quiet) {id : Nat} {r : Notification} (served : (s.note id).Served)
    (earned : (s.note id).Earned) (row : s.world.rows id = some r) :
    r.status = .sent ∧ s.world.deliveries.count id = 1 ∨
      r.status = .failed ∧ s.world.deliveries.count id = 0 := by
  rcases quiet.settled served.sole row with sent | failed
  · exact Or.inl ⟨sent, (served.once.settled (earned.row r row sent)).1⟩
  · refine Or.inr ⟨failed, Nat.eq_zero_of_not_pos fun delivered => ?_⟩
    obtain ⟨_, r', row', sent | ⟨queued, _⟩⟩ := served.once.settled delivered
    · cases row.symm.trans row'
      cases failed.symm.trans sent
    · cases row.symm.trans row'
      cases failed.symm.trans queued

end Steps

section Runs

variable {cfg : Config} {start : Int} {a : Transition.Logged Sys NotificationCreate}

end Runs

end NotificationEngine
