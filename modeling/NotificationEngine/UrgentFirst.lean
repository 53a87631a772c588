import NotificationEngine.Backoff
import NotificationEngine.EnqueuedRows
import NotificationEngine.RowFacts
import NotificationEngine.Workload

namespace NotificationEngine

/-- The clock is read less than 10^12 milliseconds after `origin`. -/
def Label.near (origin : Int) (l : Label) : Bool :=
  l.instant.all fun now => origin ≤ now ∧ now < origin + 10 ^ 12

/-- A score that `enqueue` could have given the row in that time. -/
def Notification.Scored (origin : Int) (r : Notification) (score : Int) : Prop :=
  ∃ now, origin ≤ now ∧ now < origin + 10 ^ 12 ∧ score = queueScore r.priority now

/-- The score a task is about to enqueue its row with. -/
def Task.Scores (origin : Int) (r : Notification) (t : Task) : Prop :=
  ∀ score, t.enqueues = some score → r.Scored origin score

/-- Everything in the sorted set has a row, and one of its scores. -/
def World.Ranked (origin : Int) (w : World) : Prop :=
  ∀ id score, (id, score) ∈ w.queue.entries → ∃ r, w.rows id = some r ∧ r.Scored origin score

/-- What a notification sees of a step at such a time. -/
def NoteLabel.Near (origin : Int) : NoteLabel → Prop
  | ran _ _ env _ => origin ≤ env.now ∧ env.now < origin + 10 ^ 12
  | _ => True

section Steps

variable {cfg : Config} {origin : Int} {j : Nat} {n n' : Note} {e : NoteLabel} {s s' : Sys} {l : Label}

theorem seen_near (near : l.near origin = true) (seen : s.Seen j l e) : e.Near origin := by
  cases seen with
  | @ran i fault env op t hop ht =>
    have within : origin ≤ env.now ∧ env.now < origin + 10 ^ 12 := of_decide_eq_true near
    exact within
  | _ => trivial

/-- The row's priority is what its score is made of. -/
theorem Notification.Scored.write {r : Notification} {score : Int} (scored : r.Scored origin score)
    (cfg : Config) (t : Task) : (t.write cfg r).Scored origin score := by
  obtain ⟨now, after, before, is⟩ := scored
  have same := t.write_column (·.priority) (fun _ _ _ => rfl) cfg r
  exact ⟨now, after, before, by rw [is, same]⟩

/-- A task computes its score from the row it has loaded. -/
theorem Task.Goes.scores {env : Env} {q : QueueService} {r : Notification} {t u : Task}
    (h : t.Goes cfg env q (some r) u) (near : origin ≤ env.now ∧ env.now < origin + 10 ^ 12) :
    u.Scores origin r := by
  intro score enqueues
  cases h with
  | known row =>
    cases row
    cases enqueues
    exact ⟨env.now, near.1, near.2, rfl⟩
  | reloaded row =>
    cases row
    cases enqueues
    exact ⟨env.now, near.1, near.2, rfl⟩
  | saved row =>
    cases row
    cases enqueues
    exact ⟨env.now, near.1, near.2, rfl⟩
  | _ => cases enqueues

/-- What the tasks of a notification are about to enqueue is a score of its row. -/
def Note.Ranked (origin : Int) (n : Note) : Prop :=
  n.Keeps (fun _ => True) (Task.Scores origin) fun _ _ => True

theorem Note.Ranked.step (ranked : n.Ranked origin) (near : e.Near origin) (h : Note.Step cfg j n e n') :
    n'.Ranked origin := by
  refine Note.Keeps.step ranked h (fun _ _ _ => trivial) ?_ ?_ ?_ fun _ _ _ _ _ _ => trivial
  · rintro r t (bare | rfl | rfl | rfl) score enqueues
    · rcases t with pc | pc | pc | pc
      · cases enqueues
      · cases bare
      · cases pc <;> first | cases bare; done | cases enqueues
      · cases bare
    · cases enqueues
    · cases enqueues
    · cases enqueues
  · intro t fault env q r _ _ _ _ _
    exact ⟨trivial, fun u scores score enqueues => (scores score enqueues).write cfg t, fun _ _ => trivial⟩
  · intro t fault env q r u is _ _ _ _ next score enqueues
    subst is
    exact ((Task.run_goes next).scores near score enqueues).write cfg t

theorem reach_note_ranked (id : Nat) (run : Sys.Reach cfg (fun _ l => l.near origin = true) .initial s) :
    (s.note id).Ranked origin := by
  have noted : Transition.Reach (Note.Step cfg id) (fun _ e => e.Near origin) Note.absent (s.note id) :=
    note_reach (fun _ _ _ near seen => seen_near near seen) run
  exact noted.invariant (Note.absent_keeps _ _ _) fun _ _ _ ranked near step => ranked.step near step

/-- Whatever is in the sorted set was there before, or a task has just enqueued it. -/
theorem Sys.step_entries {e : Nat × Int} (h : s.step cfg l = some s') (mem : e ∈ s'.world.queue.entries) :
    e ∈ s.world.queue.entries ∨ ∃ t ∈ (s.note e.1).tasks, t.enqueues = some e.2 := by
  cases l with
  | run i fault env =>
    obtain ⟨op, hop, rfl⟩ := Option.map_eq_some_iff.mp h
    rcases Op.run_cases cfg env s.world fault op with ⟨id, t, own, ran⟩ | ⟨_, rows, nextId, idemKeys, ran⟩
    · have enqueued : (t.run cfg env id s.world.service (s.world.rows id) fault).enqueued =
          if fault.effect then t.enqueues else none := Task.run_enqueues cfg env id _ _ fault t
      rw [ran] at mem
      simp only [World.apply, enqueued] at mem
      split at mem
      next => exact Or.inl mem
      next score found =>
        have enqueues : t.enqueues = some score := by
          split at found
          next => exact found
          next => cases found
        by_cases there : id ∈ s.world.queue
        · rw [SortedSet.addNX_of_mem there] at mem
          exact Or.inl mem
        · rw [SortedSet.addNX_of_not_mem there] at mem
          rcases List.mem_cons.mp mem with rfl | old
          · exact Or.inr ⟨t, List.mem_filterMap.mpr ⟨op, List.mem_of_getElem? hop, own⟩, enqueues⟩
          · exact Or.inl old
    · rw [ran] at mem
      exact Or.inl mem
  | dequeue fault =>
    have popped {id : Nat} {queue : SortedSet Nat} (h : s.world.queue.popMin memberKey = some (id, queue))
        (mem : e ∈ queue.entries) : e ∈ s.world.queue.entries := by
      obtain ⟨rfl, _⟩ := SortedSet.popMin_first h
      exact List.mem_of_mem_filter mem
    simp only [Sys.step] at h
    split at h
    next => cases Option.some.inj h; exact Or.inl mem
    next id queue first =>
      split at h
      next => cases Option.some.inj h; exact Or.inl (popped first mem)
      next =>
        cases Option.some.inj h
        split at mem
        next => exact Or.inl (popped first mem)
        next => exact Or.inl mem
  | expire now =>
    simp only [Sys.step] at h
    split at h
    next => cases h
    next =>
      split at h
      next => cases Option.some.inj h; exact Or.inl mem
      next => cases h
  | deliver =>
    simp only [Sys.step] at h
    split at h
    next => cases h
    next => cases Option.some.inj h; exact Or.inl mem
  | _ => cases Option.some.inj h; exact Or.inl mem

/-- A row that is there stays there, with its priority. -/
theorem Sys.step_priority {id : Nat} {r : Notification} (fresh : s.world.Fresh) (h : s.step cfg l = some s')
    (row : s.world.rows id = some r) : ∃ r', s'.world.rows id = some r' ∧ r'.priority = r.priority := by
  have one : Sys.Reach cfg (fun _ _ => True) s s' := .next .start trivial h
  have kept : (s'.world.rows id).map (·.priority) = some r.priority :=
    reach_column fresh (fun _ _ _ => rfl) one (by rw [row]; rfl)
  exact Option.map_eq_some_iff.mp kept

theorem reach_ranked (run : Sys.Reach cfg (fun _ l => l.near origin = true) .initial s) :
    s.world.Ranked origin := by
  induction run with
  | start => exact fun id score mem => absurd mem List.not_mem_nil
  | @next s s' l reached _ step ranked =>
    intro id score mem
    have before : ∃ r, s.world.rows id = some r ∧ r.Scored origin score := by
      rcases Sys.step_entries step mem with there | ⟨t, here, enqueues⟩
      · exact ranked id score there
      · have placed := reach_placed id reached t here (by rw [enqueues]; rfl)
        obtain ⟨r, row⟩ := Option.isSome_iff_exists.mp placed
        exact ⟨r, row, (reach_note_ranked id reached).tasks t here r row score enqueues⟩
    obtain ⟨r, row, now, after, early, is⟩ := before
    obtain ⟨r', row', same⟩ := Sys.step_priority (reach_fresh (fun _ _ => rfl) reached) step row
    exact ⟨r', row', now, after, early, by rw [is, same]⟩

end Steps

/-- In every run of the service whose clock readings lie within less than 10^12 ms of one another, whatever
fails in it: the notification a worker pops is one of the most urgent that wait. -/
theorem urgent_first {cfg : Config} {origin : Int} {s : Sys}
    (run : Sys.Reach cfg (fun _ l => l.near origin = true) .initial s) {id : Nat} {queue : SortedSet Nat}
    (popped : s.world.queue.popMin memberKey = some (id, queue)) :
    ∃ r, s.world.rows id = some r ∧ ∀ j ∈ s.world.queue, ∃ r', s.world.rows j = some r' ∧
      r.priority.value ≤ r'.priority.value := by
  have ranked := reach_ranked run
  obtain ⟨_, score, there, first⟩ := SortedSet.popMin_first popped
  obtain ⟨r, row, now, after, early, is⟩ := ranked id score there
  refine ⟨r, row, fun j waits => ?_⟩
  obtain ⟨score', there'⟩ := SortedSet.mem_iff.mp waits
  obtain ⟨r', row', now', after', early', is'⟩ := ranked j score' there'
  refine ⟨r', row', ?_⟩
  have le : score ≤ score' := by
    rcases first (j, score') there' with lt | ⟨eq, _⟩
    · exact Int.le_of_lt lt
    · exact Int.le_of_eq eq
  rw [is, is'] at le
  unfold queueScore at le
  omega

/-- A low notification waits when a critical one arrives a minute later. -/
def overtaken : List Label :=
  [.createNotification { otpRequest with idempotencyKey := "otp-0", priority := .low }] ++
    calls 0 5 (accepting true) ++ [.createNotification otpRequest] ++
    calls 1 5 { accepting true with now := 160000 }

theorem urgent_first_overtaken : ∃ s queue,
    Sys.Reach defaultConfig (fun _ l => l.near 0 = true) .initial s ∧
      s.world.queue.popMin memberKey = some (2, queue) ∧ 1 ∈ s.world.queue ∧
      ∃ r, s.world.rows 2 = some r ∧ ∀ j ∈ s.world.queue, ∃ r', s.world.rows j = some r' ∧
        r.priority.value ≤ r'.priority.value := by
  have ran : (Transition.trace (Sys.step defaultConfig) (fun _ l => l.near 0) .initial overtaken).map (fun s =>
      ((s.world.queue.popMin memberKey).map Prod.fst, decide (1 ∈ s.world.queue))) = some (some 2, true) := by
    decide +kernel
  obtain ⟨s, reached, facts⟩ := Option.map_eq_some_iff.mp ran
  simp only [Prod.mk.injEq, decide_eq_true_eq] at facts
  obtain ⟨⟨id, queue⟩, popped, rfl⟩ := Option.map_eq_some_iff.mp facts.1
  have run : Sys.Reach defaultConfig (fun _ l => l.near 0 = true) .initial s :=
    Transition.trace_reach .start reached
  exact ⟨s, queue, run, popped, facts.2, urgent_first run popped⟩

end NotificationEngine
