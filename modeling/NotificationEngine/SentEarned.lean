import NotificationEngine.DeadLetters
import NotificationEngine.DeliveredOnce
import NotificationEngine.Drain

namespace NotificationEngine

/-- A dispatch that is about to set the row SENT. -/
def Task.commitsSent : Task → Bool
  | dispatch (.commitSent _ _ _) => true
  | _ => false

/-- The row is SENT, or about to be set so, only after a delivery. -/
structure Note.Earned (n : Note) : Prop where
  row : ∀ r, n.row = some r → r.status = .sent → 0 < n.deliveries
  task : ∀ t ∈ n.tasks, t.commitsSent = true → 0 < n.deliveries

section Steps

variable {cfg : Config} {j : Nat} {n n' : Note} {e : NoteLabel}

theorem Note.Step.deliveries_le (h : Note.Step cfg j n e n') : n.deliveries ≤ n'.deliveries := by
  cases h with
  | ran t fault env q tasks => exact Nat.le_add_right _ _
  | _ => exact le_rfl

/-- A provider that reported success has been counted. -/
theorem Task.run_commitsSent {env : Env} {q : QueueService} {db : Option Notification} {fault : Fault} {t u : Task}
    (next : (t.run cfg env j q db fault).next = some u) (marks : u.commitsSent = true) :
    (t.run cfg env j q db fault).delivered = true := by
  rcases Task.run_next next with ⟨rfl, acted⟩ | ⟨_, _, idle⟩
  · have goes := Task.act_goes acted
    cases goes with
    | succeeded success => exact success
    | _ => cases marks
  · cases u with
    | dispatch pc =>
      cases pc with
      | commitSent n externalId now => cases idle
      | _ => cases marks
    | _ => cases marks

theorem Note.Earned.step (earned : n.Earned) (h : Note.Step cfg j n e n') : n'.Earned := by
  refine ⟨fun r row sent => ?_, fun u mem marks => ?_⟩
  · refine Nat.lt_of_lt_of_le ?_ h.deliveries_le
    cases h with
    | inserted lost payload channel ctime unborn =>
      cases row
      cases sent
    | ran t fault env q tasks =>
      have was : (if fault.effect then n.row.map (t.write cfg) else n.row) = some r :=
        (Task.run_db cfg env j q n.row fault t).symm.trans row
      split at was
      next =>
        obtain ⟨r₀, before, rfl⟩ := Option.map_eq_some_iff.mp was
        rcases t.write_stime cfg r₀ with ⟨m, externalId, now, rfl, _⟩ | ⟨_, kept⟩
        · exact earned.task _ (Note.mem_running tasks) rfl
        · exact earned.row r₀ before (kept sent)
      next => exact earned.row r was sent
    | _ => exact earned.row r row sent
  · rcases h.mem_tasks mem with there | start | ⟨t, fault, env, q, rfl, here, next⟩
    · exact Nat.lt_of_lt_of_le (earned.task u there marks) h.deliveries_le
    · cases start <;> cases marks
    · cases h with
      | ran _ _ _ _ tasks =>
        have counted := Task.run_commitsSent next marks
        simp [Note.after, counted]

theorem Note.absent_earned : Note.absent.Earned := ⟨by simp [Note.absent], by simp [Note.absent]⟩

end Steps

theorem reach_earned {cfg : Config} {ok : Sys → Label → Prop} {s : Sys} (run : Sys.Reach cfg ok .initial s)
    (id : Nat) : (s.note id).Earned := by
  have noted : Transition.Reach (Note.Step cfg id) (fun _ _ => True) Note.absent (s.note id) :=
    note_reach (fun _ _ _ _ _ => trivial) run
  exact noted.invariant Note.absent_earned fun _ _ _ earned _ step => earned.step step

/-- Whatever fails, and however often something is retried: no row is SENT before its provider has reported
success. -/
theorem sent_earned {cfg : Config} {s : Sys} {id : Nat} {r : Notification}
    (run : Sys.Reach cfg (fun _ _ => True) .initial s) (row : s.world.rows id = some r) (sent : r.status = .sent) :
    id ∈ s.world.deliveries :=
  List.count_pos_iff.mp ((reach_earned run id).row r row sent)

/-- The first attempt's retry message is lost with the process; a manual retry has it sent. -/
def sentByHand : List Label :=
  [.createNotification otpRequest] ++ calls 0 5 (accepting true) ++ [.dequeue .none] ++
    calls 1 5 (accepting false) ++ [.run 1 (.stopped false) (accepting false), .restart, .retryNotification 1] ++
    calls 2 4 (accepting true) ++ [.dequeue .none] ++ calls 3 7 (accepting true)

theorem sent_earned_byHand : ∃ s r, Sys.Reach defaultConfig (fun _ _ => True) .initial s ∧
    s.world.rows 1 = some r ∧ r.status = .sent ∧ 1 ∈ s.world.deliveries := by
  have ran : ((Transition.trace (Sys.step defaultConfig) (fun _ _ => true) .initial sentByHand).bind
      fun s => (s.world.rows 1).map (·.status)) = some .sent := by decide +kernel
  obtain ⟨s, hs, ran⟩ := Option.bind_eq_some_iff.mp ran
  obtain ⟨r, row, sent⟩ := Option.map_eq_some_iff.mp ran
  have run : Sys.Reach defaultConfig (fun _ _ => True) .initial s :=
    (Transition.trace_reach .start hs).mono fun _ _ _ => trivial
  exact ⟨s, r, run, row, sent, sent_earned run row sent⟩

end NotificationEngine
