import NotificationEngine.SentInstants
import NotificationEngine.UniqueRows

namespace NotificationEngine

/-- The clock as a step reads it. -/
def Label.instant : Label → Option Int
  | expire now => some now
  | run _ _ env => some env.now
  | _ => none

/-- The id for which `_mark_sent` runs, and when. -/
def Sys.marksSent (s : Sys) : Label → Option (Nat × Int)
  | .run i fault env => match s.ops[i]? with
    | some (.task id t) => (t.marksSent fault env).map fun now => (id, now)
    | _ => none
  | _ => none

/-- The service with the one clock of its host and its database, and the history of the calls of
`_mark_sent`. -/
structure Clocked where
  sys : Sys
  clock : Int
  marks : List (Nat × Int)

def Clocked.initial (start : Int) : Clocked := ⟨.initial, start, []⟩

def Clocked.step (cfg : Config) (c : Clocked) (l : Label) : Option Clocked :=
  (c.sys.step cfg l).map fun s =>
    ⟨s, l.instant.getD c.clock, c.marks ++ (c.sys.marksSent l).toList⟩

/-- The clock does not go back. -/
def Clocked.ticks (c : Clocked) (l : Label) : Bool := l.instant.all (c.clock ≤ ·)

abbrev Clocked.Reach (cfg : Config) (ok : Clocked → Label → Prop) : Clocked → Clocked → Prop :=
  Transition.Reach (fun c l c' => c.step cfg l = some c') ok

/-- Every `stime` is the instant of a `_mark_sent` of its row, and a SENT row has one that is no
earlier than its `ctime`. -/
structure Clocked.Consistent (c : Clocked) : Prop where
  instant : ∀ id r stime, c.sys.world.rows id = some r → r.stime = some stime → (id, stime) ∈ c.marks
  ordered : ∀ id r, c.sys.world.rows id = some r → r.status = .sent →
    ∃ stime, r.stime = some stime ∧ r.ctime ≤ stime

theorem seen_marksSent {s : Sys} {l : Label} {j : Nat} {e : NoteLabel} {now : Int}
    (seen : s.Seen j l e) (h : e.marksSent = some now) : s.marksSent l = some (j, now) := by
  cases seen with
  | ran hop ht =>
    rcases taskOf_eq_some ht with rfl | ⟨c, pc, rest, rfl, _, rfl⟩
    · simp only [Sys.marksSent, hop]
      exact Option.map_eq_some_iff.mpr ⟨now, h, rfl⟩
    · cases h
  | _ => cases h

section Clocks

variable {cfg : Config} {c c' : Clocked} {l : Label}

theorem Clocked.step_eq_some (h : c.step cfg l = some c') :
    c.sys.step cfg l = some c'.sys ∧ c'.clock = l.instant.getD c.clock ∧
      c'.marks = c.marks ++ (c.sys.marksSent l).toList := by
  obtain ⟨s, step, rfl⟩ := Option.map_eq_some_iff.mp h
  exact ⟨step, rfl, rfl⟩

theorem Clocked.clock_le (ticks : c.ticks l = true) : c.clock ≤ l.instant.getD c.clock := by
  unfold Clocked.ticks at ticks
  cases at_ : l.instant with
  | none => exact le_rfl
  | some now =>
    rw [at_] at ticks
    exact of_decide_eq_true ticks

/-- A row that was not there before was created at the instant of the step. -/
theorem Sys.step_born {s s' : Sys} {id : Nat} {r : Notification} (h : s.step cfg l = some s')
    (unborn : s.world.rows id = none) (row : s'.world.rows id = some r) : l.instant = some r.ctime := by
  rcases Sys.step_keys h with kept | ⟨i, fault, env, c, channel, rest, rfl, _, _, _, ran⟩
  · have same := kept.keys id
    simp [World.keyAt, unborn, row] at same
  · rw [ran] at row
    simp only [World.insert] at row
    split at row
    next =>
      cases row
      rfl
    next => exact absurd (unborn.symm.trans row) (by simp)

theorem Sys.step_ctime {s s' : Sys} {id : Nat} {r : Notification} (fresh : s.world.Fresh)
    (h : s.step cfg l = some s') (row : s.world.rows id = some r) :
    ∃ r', s'.world.rows id = some r' ∧ r'.ctime = r.ctime := by
  have one : Sys.Reach cfg (fun _ _ => True) s s' := .next .start trivial h
  have kept : (s'.world.rows id).map (·.ctime) = some r.ctime :=
    reach_column fresh (fun _ _ _ => rfl) one (by rw [row]; rfl)
  exact Option.map_eq_some_iff.mp kept

theorem Sys.marksSent_eq_some {s : Sys} {id : Nat} {now : Int} (h : s.marksSent l = some (id, now)) :
    l.instant = some now ∧ ∃ t ∈ (s.note id).tasks, t.snapshot.isSome = true := by
  unfold Sys.marksSent at h
  split at h
  next i fault env =>
    split at h
    next id t hop =>
      obtain ⟨now, marks, same⟩ := Option.map_eq_some_iff.mp h
      cases same
      have here : t ∈ (s.note id).tasks :=
        List.mem_filterMap.mpr ⟨_, List.mem_of_getElem? hop, by simp [Op.taskOf]⟩
      unfold Task.marksSent at marks
      split at marks
      next =>
        split at marks
        next =>
          cases marks
          exact ⟨rfl, _, here, rfl⟩
        next => cases marks
      next => cases marks
    next => cases h
  next => cases h

/-- No row is younger than the clock, every `_mark_sent` ran on a row that was there, and the
columns go by the history. -/
structure Clocked.Timely (cfg : Config) (c : Clocked) : Prop where
  fresh : c.sys.world.Fresh
  created : ∀ id r, c.sys.world.rows id = some r → r.ctime ≤ c.clock
  marked : ∀ id now, (id, now) ∈ c.marks → ∃ r, c.sys.world.rows id = some r ∧ r.ctime ≤ now
  recorded : ∀ id, (c.sys.note id).Recorded cfg fun now => (id, now) ∈ c.marks

theorem Clocked.Timely.created_step (timely : c.Timely cfg) (ticks : c.ticks l = true)
    (h : c.step cfg l = some c') : ∀ id r, c'.sys.world.rows id = some r → r.ctime ≤ c'.clock := by
  obtain ⟨step, clock, _⟩ := Clocked.step_eq_some h
  have later := Clocked.clock_le ticks
  intro id r row
  cases before : c.sys.world.rows id with
  | none =>
    rw [clock, Sys.step_born step before row]
    exact le_rfl
  | some r₀ =>
    obtain ⟨r', row', same⟩ := Sys.step_ctime timely.fresh step before
    cases row.symm.trans row'
    have old := timely.created id r₀ before
    omega

theorem Clocked.Timely.marked_step (timely : c.Timely cfg) (ticks : c.ticks l = true)
    (h : c.step cfg l = some c') :
    ∀ id now, (id, now) ∈ c'.marks → ∃ r, c'.sys.world.rows id = some r ∧ r.ctime ≤ now := by
  obtain ⟨step, clock, marks⟩ := Clocked.step_eq_some h
  intro id now mem
  have before : ∃ r, c.sys.world.rows id = some r ∧ r.ctime ≤ now := by
    rw [marks] at mem
    rcases List.mem_append.mp mem with old | new
    · exact timely.marked id now old
    · obtain ⟨instant, t, here, loads⟩ := Sys.marksSent_eq_some (Option.mem_toList.mp new)
      obtain ⟨m, loaded⟩ := Option.isSome_iff_exists.mp loads
      obtain ⟨r, row, _⟩ := (timely.recorded id).loaded t here m loaded
      have row : c.sys.world.rows id = some r := row
      have later := Clocked.clock_le ticks
      rw [instant, Option.getD_some] at later
      exact ⟨r, row, (timely.created id r row).trans later⟩
  obtain ⟨r, row, early⟩ := before
  obtain ⟨r', row', same⟩ := Sys.step_ctime timely.fresh step row
  exact ⟨r', row', same ▸ early⟩

theorem Clocked.Timely.recorded_step (timely : c.Timely cfg) (h : c.step cfg l = some c') (id : Nat) :
    (c'.sys.note id).Recorded cfg fun now => (id, now) ∈ c'.marks := by
  obtain ⟨step, _, marks⟩ := Clocked.step_eq_some h
  have grows (now : Int) (old : (id, now) ∈ c.marks) : (id, now) ∈ c'.marks := by
    rw [marks]
    exact List.mem_append_left _ old
  have seen := step_seen id (timely.fresh c.sys.world.nextId le_rfl) step
  cases he : c.sys.seenAs id l with
  | none =>
    rw [he] at seen
    have same : c'.sys.note id = c.sys.note id := seen
    rw [same]
    exact (timely.recorded id).mono grows
  | some e =>
    rw [he] at seen
    refine (timely.recorded id).step grows (fun now marked => ?_) seen
    rw [marks, seen_marksSent (seen_of_seenAs he) marked]
    exact List.mem_append_right _ (List.mem_singleton_self _)

theorem Clocked.initial_timely (cfg : Config) (start : Int) : (Clocked.initial start).Timely cfg where
  fresh _ _ := rfl
  created id r row := by cases row
  marked id now mem := absurd mem List.not_mem_nil
  recorded id := by
    have absent : (Clocked.initial start).sys.note id = Note.absent := note_initial id
    rw [absent]
    exact Note.absent_recorded cfg _

theorem Clocked.reach_timely {ok : Clocked → Label → Prop} {start : Int}
    (ticking : ∀ c l, ok c l → c.ticks l = true) (h : Clocked.Reach cfg ok (.initial start) c) :
    c.Timely cfg := by
  refine h.invariant (Clocked.initial_timely cfg start) ?_
  intro c l c' timely admitted step
  have ticks := ticking c l admitted
  exact ⟨Sys.step_fresh timely.fresh (Clocked.step_eq_some step).1, timely.created_step ticks step,
    timely.marked_step ticks step, timely.recorded_step step⟩

/-- In any deployment, whatever fails, a stored `stime` is the instant of a `_mark_sent` less the
offset of the host. -/
theorem Clocked.Timely.stime (timely : c.Timely cfg) {id : Nat} {r : Notification} {stime : Int}
    (row : c.sys.world.rows id = some r) (at_ : r.stime = some stime) :
    ∃ now, (id, now) ∈ c.marks ∧ r.ctime ≤ now ∧ stime = now - cfg.hostOffset := by
  obtain ⟨now, marked, is⟩ := (timely.recorded id).stored r row stime at_
  obtain ⟨r', row', early⟩ := timely.marked id now marked
  cases row.symm.trans row'
  exact ⟨now, marked, early, is⟩

theorem Clocked.Timely.consistent (timely : c.Timely cfg) (utc : cfg.hostOffset = 0) : c.Consistent where
  instant id r stime row at_ := by
    obtain ⟨now, marked, _, is⟩ := timely.stime row at_
    rw [is, utc, Int.sub_zero]
    exact marked
  ordered id r row sent := by
    obtain ⟨stime, at_⟩ := Option.isSome_iff_exists.mp ((timely.recorded id).sent r row sent)
    obtain ⟨now, _, early, is⟩ := timely.stime row at_
    exact ⟨stime, at_, by omega⟩

end Clocks

end NotificationEngine
