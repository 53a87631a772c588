import NotificationEngine.DeadLetters
import NotificationEngine.DeliveredOnce

namespace NotificationEngine

open Holders

def Note.Unheld (n : Note) : Prop :=
  n.queued = false ∧ n.waiting = 0 ∧ n.ready = 0 ∧ ∀ t ∈ n.tasks, t.holds = false

/-- A `retry_notification` that accepts the row finds no dead letter of it on its way. -/
def Note.NoneOwing (n : Note) : NoteLabel → Prop
  | .ran (.retry .select) _ _ _ => ∀ r, n.row = some r → r.status ≠ .sent → r.status ≠ .queued →
      ∀ t ∈ n.tasks, t.owesDeadLetter = false
  | _ => True

/-- Whoever still has to publish a dead letter finds the row FAILED and its id nowhere. -/
structure Note.Orderly (n : Note) : Prop where
  single : n.Single
  owing : ∀ t ∈ n.tasks, t.owesDeadLetter = true → n.Unheld ∧ RowIs (· = .failed) n.row

def Note.OrderlyLabel (n : Note) (e : NoteLabel) : Prop := e.InfraOk ∧ n.RetryAlone e ∧ n.NoneOwing e

/-- The id stays unheld if a call puts it nowhere and goes on without it. -/
theorem Note.unheld_after {n : Note} {rest : Multiset Task} {o : Outcome} (queued : n.queued = false)
    (waiting : n.waiting = 0) (ready : n.ready = 0) (others : ∀ u ∈ rest, u.holds = false)
    (enqueued : o.enqueued = none) (published : o.published = none) (redelivered : o.redelivered = false)
    (next : ∀ u ∈ o.next, u.holds = false) : (n.after rest o).Unheld := by
  refine ⟨?_, ?_, ?_, ?_⟩
  · simp [Note.after, queued, enqueued]
  · simp [Note.after, waiting, published]
  · simp [Note.after, ready, redelivered]
  · intro u hu
    rcases Note.mem_after.mp hu with goes | there
    · exact next u goes
    · exact others u there

theorem Note.Orderly.ran {cfg : Config} {j : Nat} {n : Note} {t : Task} {rest : Multiset Task}
    {fault : Fault} {env : Env} {q : QueueService} (orderly : n.Orderly) (tasks : n.tasks = t ::ₘ rest)
    (infra : (NoteLabel.ran t fault env q).InfraOk) (clear : n.NoneOwing (.ran t fault env q)) :
    ∀ t' ∈ (n.after rest (t.run cfg env j q n.row fault)).tasks, t'.owesDeadLetter = true →
      (n.after rest (t.run cfg env j q n.row fault)).Unheld ∧
        RowIs (· = .failed) (n.after rest (t.run cfg env j q n.row fault)).row := by
  intro t' ht' owes
  have here := Note.mem_running tasks
  have old {u : Task} (h : u ∈ rest) : u ∈ n.tasks := Note.mem_resting tasks h
  have holder (holds : t.holds = true) : ∀ u ∈ rest, u.owesDeadLetter = false := by
    intro u hu
    by_contra owing
    obtain ⟨⟨_, _, _, idle⟩, _⟩ := orderly.owing u (old hu) (by simpa using owing)
    rw [idle t here] at holds
    cases holds
  rcases infra with rfl | ⟨provider, effect, rfl⟩
  · cases holds : t.holds with
    | true =>
      rcases Note.mem_after.mp ht' with next | there
      · rcases Task.act_owes next owes with owing | ⟨r, code, rfl⟩
        · obtain ⟨⟨_, _, _, idle⟩, _⟩ := orderly.owing t here owing
          rw [idle t here] at holds
          cases holds
        · obtain ⟨row, _⟩ := orderly.single.coherent _ here
          obtain ⟨queued, waiting, ready, idle⟩ := orderly.single.alone tasks rfl
          refine ⟨Note.unheld_after queued waiting ready idle rfl rfl rfl ?_, ?_⟩
          · rintro u ⟨⟩
            rfl
          · exact ⟨_, by rw [row]; exact commit_markFailed r code, rfl⟩
      · rw [holder holds t' there] at owes
        cases owes
    | false =>
      have inert : (t.act cfg env j q n.row).Idle n.row t := Task.act_idle holds
      have before : ∃ u ∈ n.tasks, u.owesDeadLetter = true := by
        rcases Note.mem_after.mp ht' with next | there
        · rcases Task.act_owes next owes with owing | ⟨_, _, rfl⟩
          · exact ⟨t, here, owing⟩
          · cases holds
        · exact ⟨t', old there, owes⟩
      obtain ⟨u, hu, owing⟩ := before
      obtain ⟨⟨queued, waiting, ready, idle⟩, failed⟩ := orderly.owing u hu owing
      refine ⟨Note.unheld_after queued waiting ready (fun v hv => idle v (old hv)) inert.enqueued
        inert.published inert.redelivered ?_, ?_⟩
      · intro v next
        rcases inert.next v next with idle | ⟨rfl, r, row, hsent, hqueued, _⟩
        · exact idle
        · rw [clear r row hsent hqueued u hu] at owing
          cases owing
      · simpa [Note.after, Task.run, inert.unchanged] using failed
  · rw [Task.run_provider_raised effect provider] at ht'
    have holds := Task.holds_of_carries (Task.carries_of_callsProvider provider)
    rcases Note.mem_after.mp ht' with next | there
    · cases next
    · rw [holder holds t' there] at owes
      cases owes

theorem Note.Orderly.step {cfg : Config} {j : Nat} {n n' : Note} {e : NoteLabel}
    (orderly : n.Orderly) (infra : e.InfraOk) (alone : n.RetryAlone e) (clear : n.NoneOwing e)
    (h : Note.Step cfg j n e n') : n'.Orderly := by
  refine ⟨orderly.single.step infra alone h, ?_⟩
  cases h with
  | requested =>
    intro t ht owes
    rcases Multiset.mem_cons.mp ht with rfl | ht
    · cases owes
    · obtain ⟨⟨queued, waiting, ready, idle⟩, failed⟩ := orderly.owing t ht owes
      refine ⟨⟨queued, waiting, ready, ?_⟩, failed⟩
      intro u hu
      rcases Multiset.mem_cons.mp hu with rfl | hu
      · rfl
      · exact idle u hu
  | dequeued lost queued =>
    cases (infra : lost = false)
    intro t ht owes
    rcases Multiset.mem_cons.mp ht with rfl | ht
    · cases owes
    · have none := (orderly.owing t ht owes).1.1
      rw [queued] at none
      cases none
  | expired waiting =>
    intro t ht owes
    have none := (orderly.owing t ht owes).1.2.1
    omega
  | delivered ready =>
    intro t ht owes
    rcases Multiset.mem_cons.mp ht with rfl | ht
    · cases owes
    · have none := (orderly.owing t ht owes).1.2.2.1
      omega
  | inserted lost payload channel ctime unborn =>
    cases (infra : lost = false)
    intro t ht owes
    rcases Multiset.mem_cons.mp ht with rfl | ht
    · cases owes
    · have failed := (orderly.owing t ht owes).2
      rw [unborn] at failed
      exact absurd failed (not_rowIs_none _)
  | ran t fault env q tasks => exact orderly.ran tasks infra clear

theorem Note.absent_orderly : Note.absent.Orderly := ⟨Note.absent_single, by simp [Note.absent]⟩

/-- The row is SENT, and these dead letters are all there are of it. -/
def Note.Final (n : Note) (r : Notification) (letters : List DeadLetter) : Prop :=
  n.row = some r ∧ r.status = .sent ∧ n.deadLetters = letters

/-- A SENT row keeps every column, whatever step follows, and gets no dead letter. -/
theorem Note.Orderly.final_step {cfg : Config} {j : Nat} {n n' : Note} {e : NoteLabel}
    {r : Notification} {letters : List DeadLetter} (orderly : n.Orderly) (final : n.Final r letters)
    (infra : e.InfraOk) (h : Note.Step cfg j n e n') : n'.Final r letters := by
  obtain ⟨row, sent, dead⟩ := final
  -- Nothing holds the id of a SENT row, so only tasks that leave the row alone can act.
  obtain ⟨parked, waits, readies, idle⟩ := orderly.single.sent_unheld row sent
  cases h with
  | requested => exact ⟨row, sent, dead⟩
  | dequeued lost queued =>
    rw [parked] at queued
    cases queued
  | expired waiting => omega
  | delivered ready => omega
  | inserted lost payload channel ctime unborn =>
    rw [unborn] at row
    cases row
  | ran t fault env q tasks =>
    have here := Note.mem_running tasks
    have owes : t.owesDeadLetter = false := by
      by_contra owing
      have failed := (orderly.owing t here (by simpa using owing)).2
      rw [row, rowIs_some, sent] at failed
      cases failed
    rcases infra with rfl | ⟨provider, _⟩
    · have inert : (t.act cfg env j q n.row).Idle n.row t := Task.act_idle (idle t here)
      have none : (t.act cfg env j q n.row).deadLetter = none :=
        Task.act_deadLetter owes
      exact ⟨inert.unchanged.trans row, sent, by simpa [Note.after, Task.run, none] using dead⟩
    · have holds := Task.holds_of_carries (Task.carries_of_callsProvider provider)
      rw [idle t here] at holds
      cases holds

/-- A `retry_notification` that accepts the row finds no dead letter of it on its way. -/
def Sys.noneOwing (s : Sys) : Label → Bool
  | .run i _ _ => match s.ops[i]? with
    | some (.task id (.retry .select)) => match s.world.rows id with
      | none => true
      | some r => r.status = .sent || r.status = .queued ||
        s.ops.all fun op => (op.taskOf id).all fun t => !t.owesDeadLetter
    | _ => true
  | _ => true

theorem seen_noneOwing {s : Sys} {l : Label} {j : Nat} {e : NoteLabel} (ok : s.noneOwing l = true)
    (seen : s.Seen j l e) : (s.note j).NoneOwing e := by
  cases seen with
  | @ran i fault env op t hop ht =>
    rcases taskOf_eq_some ht with rfl | ⟨_, _, _, _, _, rfl⟩
    · rcases t with pc | pc | pc | pc
      · trivial
      · trivial
      · cases pc with
        | select =>
          intro r (hr : s.world.rows j = some r) hsent hqueued t ht
          simp only [Sys.noneOwing, hop, hr] at ok
          obtain ⟨op, hop, hj⟩ := List.mem_filterMap.mp ht
          have clear : s.ops.all (fun op => (op.taskOf j).all fun t => !t.owesDeadLetter) = true := by
            simpa [hsent, hqueued] using ok
          simpa [hj] using List.all_eq_true.mp clear op hop
        | _ => trivial
      · trivial
    · trivial
  | _ => trivial

/-- Manual retries keep out of the way of other carriers and of dead letters. -/
def Sys.orderly (s : Sys) (l : Label) : Bool := s.infraOk l && s.retryAlone l && s.noneOwing l

theorem seen_orderly {s : Sys} {l : Label} {j : Nat} {e : NoteLabel} (ok : s.orderly l = true)
    (seen : s.Seen j l e) : (s.note j).OrderlyLabel e := by
  simp only [Sys.orderly, Bool.and_eq_true] at ok
  exact ⟨seen_infraOk ok.1.1 seen, seen_retryAlone ok.1.2 seen, seen_noneOwing ok.2 seen⟩

theorem Note.Orderly.final_run {cfg : Config} {j : Nat} {n n' : Note} {r : Notification}
    {letters : List DeadLetter} (orderly : n.Orderly) (final : n.Final r letters)
    (run : Transition.Reach (Note.Step cfg j) Note.OrderlyLabel n n') :
    n'.Orderly ∧ n'.Final r letters := by
  induction run with
  | start => exact ⟨orderly, final⟩
  | next _ ok step ih =>
    obtain ⟨orderly, final⟩ := ih
    exact ⟨orderly.step ok.1 ok.2.1 ok.2.2 step, orderly.final_step final ok.1 step⟩

/-- In orderly runs SENT is final: from then on the row keeps every column and no dead letter of
it is published. -/
theorem sent_is_final {cfg : Config} {s s' : Sys} {id : Nat} {r : Notification}
    (run : Sys.Reach cfg (fun s l => s.orderly l = true) .initial s)
    (row : s.world.rows id = some r) (sent : r.status = .sent)
    (later : Sys.Reach cfg (fun s l => s.orderly l = true) s s') :
    s'.world.rows id = some r ∧
      s'.world.deadLetters.filter (fun m => m.notificationId = id) =
        s.world.deadLetters.filter (fun m => m.notificationId = id) := by
  have before : Transition.Reach (Note.Step cfg id) Note.OrderlyLabel .absent (s.note id) :=
    note_reach (fun _ _ _ ok seen => seen_orderly ok seen) run
  have orderly : (s.note id).Orderly := before.invariant Note.absent_orderly
    fun n e n' orderly ok step => orderly.step ok.1 ok.2.1 ok.2.2 step
  have after : Transition.Reach (Note.Step cfg id) Note.OrderlyLabel (s.note id) (s'.note id) :=
    note_reach_from (reach_fresh (fun _ _ => rfl) run) (fun _ _ _ ok seen => seen_orderly ok seen) later
  obtain ⟨_, row, _, dead⟩ := orderly.final_run ⟨row, sent, rfl⟩ after
  exact ⟨row, dead⟩

theorem sent_is_final_timelyRetry : ∃ s s' r,
    Sys.Reach defaultConfig (fun s l => s.orderly l = true) .initial s ∧ s.world.rows 1 = some r ∧
      r.status = .sent ∧ Sys.Reach defaultConfig (fun s l => s.orderly l = true) s s' ∧
      s'.ops.length = 4 ∧ s'.world.rows 1 = some r := by
  have ran : ((Transition.trace (Sys.step defaultConfig) Sys.orderly .initial timelyRetry).bind
      fun s => (Transition.trace (Sys.step defaultConfig) Sys.orderly s
          ([.retryNotification 1] ++ calls 3 2 (accepting true))).map
        fun s' => ((s.world.rows 1).map (·.status), s'.ops.length)) = some (some .sent, 4) := by
    decide +kernel
  obtain ⟨s, hs, ran⟩ := Option.bind_eq_some_iff.mp ran
  obtain ⟨s', hs', ran⟩ := Option.map_eq_some_iff.mp ran
  obtain ⟨row, length⟩ := Prod.mk.inj ran
  obtain ⟨r, hr, sent⟩ := Option.map_eq_some_iff.mp row
  have run := Transition.trace_reach Transition.Reach.start hs
  have later := Transition.trace_reach Transition.Reach.start hs'
  exact ⟨s, s', r, run, hr, sent, later, length, (sent_is_final run hr sent later).1⟩

/-- The overtaken retry message sets the SENT row back to QUEUED. -/
theorem sent_overwritten : ∃ s s' r, Sys.Reach defaultConfig (fun s l => s.infraOk l = true) .initial s ∧
    s.world.rows 1 = some r ∧ r.status = .sent ∧
    Sys.Reach defaultConfig (fun s l => s.infraOk l = true) s s' ∧
    ¬∃ r', s'.world.rows 1 = some r' ∧ r'.status = .sent := by
  have ran : ((Transition.trace (Sys.step defaultConfig) Sys.infraOk .initial overtakenRetry).bind
      fun s => (Transition.trace (Sys.step defaultConfig) Sys.infraOk s lateArrival).map
        fun s' => ((s.world.rows 1).map (·.status), (s'.world.rows 1).map (·.status))) =
      some (some .sent, some .queued) := by decide +kernel
  obtain ⟨s, hs, ran⟩ := Option.bind_eq_some_iff.mp ran
  obtain ⟨s', hs', ran⟩ := Option.map_eq_some_iff.mp ran
  obtain ⟨row, row'⟩ := Prod.mk.inj ran
  obtain ⟨r, hr, sent⟩ := Option.map_eq_some_iff.mp row
  refine ⟨s, s', r, Transition.trace_reach Transition.Reach.start hs, hr, sent,
    Transition.trace_reach Transition.Reach.start hs', ?_⟩
  rintro ⟨r', hr', sent'⟩
  simp [hr', sent'] at row'

end NotificationEngine
