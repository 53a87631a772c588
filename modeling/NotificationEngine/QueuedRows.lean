import NotificationEngine.NothingLost

namespace NotificationEngine

/-- A dispatch between its commit of QUEUED and the commit of its outcome. Having seen the row
QUEUED, that last commit writes another status. -/
def Task.finishing : Task → Bool
  | dispatch .refreshQueued => true
  | dispatch (.health n) => decide (n.status = .queued)
  | dispatch (.send n) => decide (n.status = .queued)
  | dispatch (.commitSent n _ _) => decide (n.status = .queued)
  | dispatch (.commitFailed n _ _) => decide (n.status = .queued)
  | dispatch (.commitRetrying n _ _ _) => decide (n.status = .queued)
  | _ => false

def Task.commitsQueued : Task → Bool
  | dispatch (.commitQueued _) => true
  | _ => false

/-- The ends of an awaited call that leave a row QUEUED behind. -/
def Task.strands (env : Env) (fault : Fault) : Task → Bool
  | dispatch (.commitQueued _) => decide (fault ≠ .none) && fault.effect
  | dispatch .refreshQueued => decide (fault ≠ .none)
  | dispatch (.health _) => decide (fault ≠ .none)
  | dispatch (.send _) => decide (fault ≠ .none) || !env.result.success && env.result.code.isNone
  | dispatch (.commitSent _ _ _) => decide (fault ≠ .none) && !fault.effect
  | dispatch (.commitFailed _ _ _) => decide (fault ≠ .none) && !fault.effect
  | dispatch (.commitRetrying _ _ _ _) => decide (fault ≠ .none) && !fault.effect
  | _ => false

/-- A QUEUED row has a dispatch that will give it another status. -/
def Note.Followed (n : Note) : Prop :=
  RowIs (· = .queued) n.row → ∃ t ∈ n.tasks, t.finishing = true

/-- A dispatch that is cut short between its two commits leaves another one behind. -/
def Note.NotCut (n : Note) : NoteLabel → Prop
  | .ran t fault env _ => t.strands env fault = true →
      RowIs (· = .queued) n.row ∨ t.commitsQueued = true →
      ∀ rest, n.tasks = t ::ₘ rest → ∃ u ∈ rest, u.finishing = true
  | _ => True

theorem Task.write_queued {cfg : Config} {t : Task} {r : Notification}
    (queued : (t.write cfg r).status = .queued) : r.status = .queued ∨ t.commitsQueued = true := by
  rw [Task.write_status] at queued
  have kept (n : Notification) (new : NotificationStatus) (other : new ≠ .queued)
      (h : SnapshotWrite.column n.status new r.status = .queued) : r.status = .queued := by
    rcases SnapshotWrite.column_cases n.status new r.status with written | ⟨_, stays⟩
    · exact absurd (written.symm.trans h) other
    · exact stays.symm.trans h
  rcases t with pc | pc | pc | pc
  · cases pc with
    | commitQueued n => exact Or.inr rfl
    | commitSent n externalId now => exact Or.inl (kept n .sent (by decide) queued)
    | commitFailed n code exhausted => exact Or.inl (kept n .failed (by decide) queued)
    | commitRetrying n code count delay => exact Or.inl (kept n .retrying (by decide) queued)
    | _ => exact Or.inl queued
  · cases pc <;> exact Or.inl queued
  · cases pc with
    | commitPending n => exact Or.inl (kept n .pending (by decide) queued)
    | _ => exact Or.inl queued
  · cases pc <;> exact Or.inl queued

theorem Task.run_queued {cfg : Config} {env : Env} {id : Nat} {q : QueueService}
    {db : Option Notification} {fault : Fault} {t : Task}
    (queued : RowIs (· = .queued) (t.run cfg env id q db fault).db) :
    RowIs (· = .queued) db ∨ fault.effect = true ∧ t.commitsQueued = true := by
  rw [Task.run_db] at queued
  split at queued
  next effect =>
    obtain ⟨_, hr, hs⟩ := queued
    obtain ⟨r, row, rfl⟩ := Option.map_eq_some_iff.mp hr
    exact (Task.write_queued hs).imp (fun h => ⟨r, row, h⟩) fun h => ⟨effect, h⟩
  next => exact Or.inl queued

theorem commit_over_queued {db : Option Notification} {n new : Notification}
    (seen : n.status = .queued) (other : new.status ≠ .queued) :
    ¬RowIs (· = .queued) (commit db n new) := by
  rintro ⟨_, hr, hs⟩
  obtain ⟨r, _, rfl⟩ := Option.map_eq_some_iff.mp hr
  have written : (n.flush new r).status = new.status :=
    SnapshotWrite.column_of_ne (by rw [seen]; exact other)
  exact other (written.symm.trans hs)

theorem scheduleRetry_finishing {cfg : Config} {env : Env} {n : Notification}
    {code : NotificationErrorCode} (queued : n.status = .queued) :
    ∃ t ∈ (scheduleRetry cfg env n code).map Task.dispatch, t.finishing = true := by
  rcases scheduleRetry_cases cfg env n code with ⟨_, h⟩ | ⟨_, delay, h⟩
  · rw [h]
    exact ⟨_, rfl, decide_eq_true queued⟩
  · rw [h]
    exact ⟨_, rfl, decide_eq_true queued⟩

/-- A finishing dispatch that is not cut short goes on finishing while the row is QUEUED. -/
theorem Task.act_finishing {cfg : Config} {env : Env} {id : Nat} {q : QueueService}
    {db : Option Notification} {t : Task} (finishing : t.finishing = true)
    (stays : t.strands env .none = false) (queued : RowIs (· = .queued) (t.act cfg env id q db).db) :
    ∃ u ∈ (t.act cfg env id q db).next, u.finishing = true := by
  cases t with
  | dispatch pc =>
    cases pc with
    | refreshQueued =>
      obtain ⟨r, hr, hs⟩ := queued
      cases (hr : db = some r)
      exact ⟨_, rfl, decide_eq_true hs⟩
    | health n =>
      simp only [Task.act, DispatchPc.act]
      split
      next => exact ⟨_, rfl, finishing⟩
      next => exact scheduleRetry_finishing (of_decide_eq_true finishing)
    | send n =>
      simp only [Task.act, DispatchPc.act]
      rcases afterSend_cases cfg env n with ⟨_, h⟩ | ⟨failed, ⟨none, _⟩ | ⟨code, _, ⟨_, h⟩ | ⟨_, h⟩⟩⟩
      · rw [h]
        exact ⟨_, rfl, finishing⟩
      · simp [Task.strands, failed, none] at stays
      · rw [h]
        exact ⟨_, rfl, finishing⟩
      · rw [h]
        exact scheduleRetry_finishing (of_decide_eq_true finishing)
    | commitSent n externalId now =>
      exact absurd queued (commit_over_queued (of_decide_eq_true finishing) fun same => by cases same)
    | commitFailed n code exhausted =>
      exact absurd queued (commit_over_queued (of_decide_eq_true finishing) fun same => by cases same)
    | commitRetrying n code count delay =>
      exact absurd queued (commit_over_queued (of_decide_eq_true finishing) fun same => by cases same)
    | _ => cases finishing
  | _ => cases finishing

/-- A failure that does not cut a finishing dispatch short came after the commit of its outcome. -/
theorem Task.fault_finishing {cfg : Config} {env : Env} {id : Nat} {q : QueueService}
    {db : Option Notification} {fault : Fault} {t : Task} (finishing : t.finishing = true)
    (failed : fault ≠ .none) (stays : t.strands env fault = false) :
    ¬RowIs (· = .queued) (t.run cfg env id q db fault).db := by
  rw [Task.run_db]
  cases t with
  | dispatch pc =>
    cases pc with
    | commitSent n externalId now =>
      have effect : fault.effect = true := by simpa [Task.strands, failed] using stays
      rw [if_pos effect]
      exact commit_over_queued (of_decide_eq_true finishing) nofun
    | commitFailed n code exhausted =>
      have effect : fault.effect = true := by simpa [Task.strands, failed] using stays
      rw [if_pos effect]
      exact commit_over_queued (of_decide_eq_true finishing) nofun
    | commitRetrying n code count delay =>
      have effect : fault.effect = true := by simpa [Task.strands, failed] using stays
      rw [if_pos effect]
      exact commit_over_queued (of_decide_eq_true finishing) nofun
    | refreshQueued => simp [Task.strands, failed] at stays
    | health n => simp [Task.strands, failed] at stays
    | send n => simp [Task.strands, failed] at stays
    | _ => cases finishing
  | _ => cases finishing

theorem Note.Followed.ran {cfg : Config} {j : Nat} {n : Note} {t : Task} {rest : Multiset Task}
    {fault : Fault} {env : Env} {q : QueueService} (followed : n.Followed)
    (tasks : n.tasks = t ::ₘ rest) (notCut : n.NotCut (.ran t fault env q)) :
    (n.after rest (t.run cfg env j q n.row fault)).Followed := by
  intro queued
  have others (h : ∃ u ∈ rest, u.finishing = true) :
      ∃ u ∈ (n.after rest (t.run cfg env j q n.row fault)).tasks, u.finishing = true := by
    obtain ⟨u, hu, finishing⟩ := h
    exact ⟨u, Note.mem_after.mpr (Or.inr hu), finishing⟩
  have before := Task.run_queued queued
  cases strands : t.strands env fault with
  | true => exact others (notCut strands (before.imp_right And.right) rest tasks)
  | false =>
    by_cases failed : fault = .none
    · subst failed
      cases finishing : t.finishing with
      | true =>
        obtain ⟨u, next, hu⟩ := Task.act_finishing finishing strands queued
        exact ⟨u, Note.mem_after.mpr (Or.inl next), hu⟩
      | false =>
        rcases before with row | ⟨_, commits⟩
        · obtain ⟨u, hu, finishing'⟩ := followed row
          rw [tasks] at hu
          rcases Multiset.mem_cons.mp hu with rfl | there
          · rw [finishing] at finishing'
            cases finishing'
          · exact others ⟨u, there, finishing'⟩
        · cases t with
          | dispatch pc =>
            cases pc with
            | commitQueued r => exact ⟨_, Note.mem_after.mpr (Or.inl rfl), rfl⟩
            | _ => cases commits
          | _ => cases commits
    · rcases before with row | ⟨effect, commits⟩
      · obtain ⟨u, hu, finishing⟩ := followed row
        rw [tasks] at hu
        rcases Multiset.mem_cons.mp hu with rfl | there
        · exact absurd queued (Task.fault_finishing finishing failed strands)
        · exact others ⟨u, there, finishing⟩
      · cases t with
        | dispatch pc =>
          cases pc with
          | commitQueued r => simp [Task.strands, failed, effect] at strands
          | _ => cases commits
        | _ => cases commits

theorem Note.Followed.step {cfg : Config} {j : Nat} {n n' : Note} {e : NoteLabel}
    (followed : n.Followed) (notCut : n.NotCut e) (h : Note.Step cfg j n e n') : n'.Followed := by
  have spawn {u : Task} (queued : RowIs (· = .queued) n.row) :
      ∃ t ∈ u ::ₘ n.tasks, t.finishing = true := by
    obtain ⟨t, ht, finishing⟩ := followed queued
    exact ⟨t, Multiset.mem_cons_of_mem ht, finishing⟩
  cases h with
  | requested => exact spawn
  | dequeued lost queued =>
    cases lost with
    | true => exact followed
    | false => exact spawn
  | expired waiting => exact followed
  | delivered ready => exact spawn
  | inserted lost payload channel ctime unborn =>
    intro queued
    cases rowIs_some.mp queued
  | ran t fault env q tasks => exact followed.ran tasks notCut

theorem Note.absent_followed : Note.absent.Followed := fun queued => absurd queued (not_rowIs_none _)

end NotificationEngine
