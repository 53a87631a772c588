import NotificationEngine.Snapshots

namespace NotificationEngine

open SnapshotWrite

/-- The instant at which `_mark_sent` runs, if the answer to the awaited call leads to it. -/
def Task.marksSent (fault : Fault) (env : Env) : Task → Option Int
  | dispatch (.send _) => if fault = .none ∧ env.result.success = true then some env.now else none
  | _ => none

def NoteLabel.marksSent : NoteLabel → Option Int
  | ran t fault env _ => t.marksSent fault env
  | _ => none

/-- The instant that a commit is about to store was recorded. -/
def Task.Recorded (p : Int → Prop) : Task → Prop
  | dispatch (.commitSent _ _ now) => p now
  | _ => True

theorem Task.Recorded.mono {p p' : Int → Prop} {t : Task} (grows : ∀ now, p now → p' now)
    (h : t.Recorded p) : t.Recorded p' := by
  rcases t with pc | pc | pc | pc
  · cases pc <;> first | exact grows _ h | exact trivial
  · exact trivial
  · exact trivial
  · exact trivial

section Calls

variable {cfg : Config} {env : Env} {id : Nat} {q : QueueService} {db : Option Notification} {t u : Task}

theorem Task.run_recorded {p : Int → Prop} {fault : Fault}
    (h : (t.run cfg env id q db fault).next = some u)
    (marks : ∀ now, t.marksSent fault env = some now → p now) : u.Recorded p := by
  cases Task.run_goes h with
  | succeeded success =>
    cases fault with
    | none => exact marks env.now (if_pos ⟨rfl, success⟩)
    | raised effect => cases h
    | stopped effect => cases h
  | _ => trivial

end Calls

/-- Every `stime`, stored or about to be, is what the driver makes of an instant that `p` recorded,
and a SENT row has one. -/
structure Note.Recorded (cfg : Config) (p : Int → Prop) (n : Note) : Prop where
  sending : ∀ t ∈ n.tasks, t.Recorded p
  loaded : n.Snapshots fun m r => m.stime.isSome = true → r.stime.isSome = true
  stored : ∀ r ∈ n.row, ∀ stime ∈ r.stime, ∃ now, p now ∧ stime = cfg.storedStime now
  sent : ∀ r ∈ n.row, r.status = .sent → r.stime.isSome = true

section Notes

variable {cfg : Config} {j : Nat} {n n' : Note} {e : NoteLabel} {p p' : Int → Prop}

theorem Note.Recorded.mono (grows : ∀ now, p now → p' now) (recorded : n.Recorded cfg p) :
    n.Recorded cfg p' where
  sending t mem := (recorded.sending t mem).mono grows
  loaded := recorded.loaded
  stored r row stime at_ := by
    obtain ⟨now, marked, is⟩ := recorded.stored r row stime at_
    exact ⟨now, grows now marked, is⟩
  sent := recorded.sent

theorem Note.Recorded.loaded_at {t : Task} {r : Notification} (recorded : n.Recorded cfg p)
    (here : t ∈ n.tasks) (row : n.row = some r) :
    ∀ m ∈ t.snapshot, m.stime.isSome = true → r.stime.isSome = true := by
  intro m mem
  obtain ⟨r', row', timed⟩ := recorded.loaded t here m mem
  cases row.symm.trans row'
  exact timed

/-- What a commit leaves of the row. -/
theorem Note.Recorded.write {t : Task} {r : Notification} (recorded : n.Recorded cfg p)
    (here : t ∈ n.tasks) (row : n.row = some r) :
    (∀ stime ∈ (t.write cfg r).stime, ∃ now, p now ∧ stime = cfg.storedStime now) ∧
      ((t.write cfg r).status = .sent → (t.write cfg r).stime.isSome = true) := by
  rcases t.write_stime cfg r with ⟨m, externalId, now, rfl, written⟩ | ⟨kept, sent⟩
  · rw [written]
    refine ⟨fun stime at_ => ?_, fun _ => column_isSome rfl (recorded.loaded_at here row m rfl)⟩
    rcases column_cases m.stime (some (cfg.storedStime now)) r.stime with new | ⟨_, old⟩
    · rw [new] at at_
      exact ⟨now, recorded.sending _ here, (Option.some.inj at_).symm⟩
    · rw [old] at at_
      exact recorded.stored r row stime at_
  · rw [kept]
    exact ⟨recorded.stored r row, fun now => recorded.sent r row (sent now)⟩

theorem Note.Recorded.step (recorded : n.Recorded cfg p) (grows : ∀ now, p now → p' now)
    (marks : ∀ now, e.marksSent = some now → p' now) (h : Note.Step cfg j n e n') :
    n'.Recorded cfg p' := by
  have kept := recorded.mono grows
  have sending : ∀ u ∈ n'.tasks, u.Recorded p' := by
    intro u mem
    rcases h.mem_tasks mem with there | start | ⟨t, fault, env, q, rfl, _, next⟩
    · exact kept.sending u there
    · cases start <;> trivial
    · exact Task.run_recorded next marks
  have loaded : n'.Snapshots fun m r => m.stime.isSome = true → r.stime.isSome = true := by
    refine recorded.loaded.step (fun r timed => timed) ?_ h
    intro t fault env q _ here m r row before timed
    exact Task.write_timed (recorded.loaded_at here row) (before timed)
  cases h with
  | inserted lost payload channel ctime unborn =>
    refine ⟨sending, loaded, fun r row stime at_ => ?_, fun r row sent => ?_⟩
    · cases row
      cases at_
    · cases row
      cases sent
  | @ran rest t fault env q tasks =>
    have row' : (n.after rest (t.run cfg env j q n.row fault)).row =
        if fault.effect then n.row.map (t.write cfg) else n.row := Task.run_db cfg env j q n.row fault t
    have both : ∀ r' ∈ (n.after rest (t.run cfg env j q n.row fault)).row,
        (∀ stime ∈ r'.stime, ∃ now, p' now ∧ stime = cfg.storedStime now) ∧
          (r'.status = .sent → r'.stime.isSome = true) := by
      intro r' there
      rw [row'] at there
      split at there
      next =>
        obtain ⟨r, row, rfl⟩ := Option.map_eq_some_iff.mp there
        exact kept.write (Note.mem_running tasks) row
      next => exact ⟨kept.stored r' there, kept.sent r' there⟩
    exact ⟨sending, loaded, fun r' there => (both r' there).1, fun r' there => (both r' there).2⟩
  | _ => exact ⟨sending, loaded, kept.stored, kept.sent⟩

theorem Note.absent_recorded (cfg : Config) (p : Int → Prop) : Note.absent.Recorded cfg p where
  sending t ht := absurd ht (Multiset.notMem_zero t)
  loaded := Note.absent_snapshots _
  stored r row := by cases row
  sent r row := by cases row

end Notes

end NotificationEngine
