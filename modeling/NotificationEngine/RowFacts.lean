import NotificationEngine.TaskSteps
import NotificationEngine.NoteRuns

namespace NotificationEngine

/-- A manual retry before it has read its row, or after its answer. -/
def Task.bare : Task → Bool
  | retry .select => true
  | retry (.returned _) => true
  | _ => false

/-- Nothing refers to a notification that has no row, but for manual retries that do not know it yet. -/
structure Note.Unreferenced (n : Note) : Prop where
  queued : n.queued = false
  waiting : n.waiting = 0
  ready : n.ready = 0
  deliveries : n.deliveries = 0
  published : n.published = 0
  exhausted : n.exhausted = 0
  deadLetters : n.deadLetters = []
  tasks : ∀ t ∈ n.tasks, t.bare = true

def Note.Rooted (n : Note) : Prop := n.row = none → n.Unreferenced

/-- What is true of the row, of each task that knows it and of the dead letters about it. -/
structure Note.Keeps (Q : Notification → Prop) (P : Notification → Task → Prop)
    (D : Notification → DeadLetter → Prop) (n : Note) : Prop where
  rooted : n.Rooted
  row : ∀ r, n.row = some r → Q r
  tasks : ∀ t ∈ n.tasks, ∀ r, n.row = some r → P r t
  deadLetters : ∀ d ∈ n.deadLetters, ∃ r, n.row = some r ∧ D r d

section Steps

variable {cfg : Config} {env : Env} {q : QueueService} {j : Nat} {n n' : Note} {e : NoteLabel}
  {t : Task} {fault : Fault}

variable (cfg env q j fault) in
/-- A manual retry that does not find a row only answers so. -/
theorem Task.run_bare (bare : t.bare = true) :
    let o := t.run cfg env j q none fault
    o.enqueued = none ∧ o.published = none ∧ o.redelivered = false ∧ o.deadLetter = none ∧
      o.delivered = false ∧ o.exhausted = false ∧ ∀ u ∈ o.next, u.bare = true := by
  intro o
  rcases t with pc | pc | pc | pc
  · cases bare
  · cases bare
  · cases pc with
    | select =>
      cases fault with
      | none => exact ⟨rfl, rfl, rfl, rfl, rfl, rfl, fun u next => by cases next; rfl⟩
      | raised effect => cases effect <;> exact ⟨rfl, rfl, rfl, rfl, rfl, rfl, fun u next => by cases next⟩
      | stopped effect => cases effect <;> exact ⟨rfl, rfl, rfl, rfl, rfl, rfl, fun u next => by cases next⟩
    | returned error =>
      cases fault with
      | none => exact ⟨rfl, rfl, rfl, rfl, rfl, rfl, fun u next => by cases next⟩
      | raised effect => cases effect <;> exact ⟨rfl, rfl, rfl, rfl, rfl, rfl, fun u next => by cases next⟩
      | stopped effect => cases effect <;> exact ⟨rfl, rfl, rfl, rfl, rfl, rfl, fun u next => by cases next⟩
    | _ => cases bare
  · cases bare

theorem Note.Rooted.step (rooted : n.Rooted) (h : Note.Step cfg j n e n') : n'.Rooted := by
  intro gone
  cases h with
  | requested =>
    obtain ⟨queued, waiting, ready, deliveries, published, exhausted, deadLetters, tasks⟩ := rooted gone
    refine ⟨queued, waiting, ready, deliveries, published, exhausted, deadLetters, fun u mem => ?_⟩
    rcases Multiset.mem_cons.mp mem with rfl | there
    · rfl
    · exact tasks u there
  | dequeued lost queued => cases queued.symm.trans (rooted gone).queued
  | expired waiting =>
    have none := (rooted gone).waiting
    omega
  | delivered ready =>
    have none := (rooted gone).ready
    omega
  | inserted lost payload channel ctime unborn => cases gone
  | @ran rest t fault env q tasks =>
    have before : n.row = none := by
      have kept := Task.run_isSome cfg env j q n.row fault t
      rw [show (t.run cfg env j q n.row fault).db = none from gone] at kept
      exact Option.not_isSome_iff_eq_none.mp (by simp [← kept])
    have absent := rooted before
    obtain ⟨enqueued, published, redelivered, deadLetter, delivered, exhausted, next⟩ :=
      Task.run_bare cfg env q j fault
        (absent.tasks t (Note.mem_running tasks))
    rw [← before] at enqueued published redelivered deadLetter delivered exhausted next
    refine ⟨?_, ?_, ?_, ?_, ?_, ?_, ?_, fun u mem => ?_⟩
    · simp [Note.after, absent.queued, enqueued]
    · simp [Note.after, absent.waiting, published]
    · simp [Note.after, absent.ready, redelivered]
    · simp [Note.after, absent.deliveries, delivered]
    · simp [Note.after, absent.published, published]
    · simp [Note.after, absent.exhausted, exhausted]
    · simp [Note.after, absent.deadLetters, deadLetter]
    · rcases Note.mem_after.mp mem with goes | there
      · exact next u goes
      · exact absent.tasks u (Note.mem_resting tasks there)

theorem Note.absent_rooted : Note.absent.Rooted := fun _ =>
  ⟨rfl, rfl, rfl, rfl, rfl, rfl, rfl, fun t ht => absurd ht (Multiset.notMem_zero t)⟩

/-- A task that goes on has had its answer, or has not written anything. -/
theorem Task.run_answered {db : Option Notification} {u : Task}
    (h : (t.run cfg env j q db fault).next = some u) : fault.effect = true ∨ ∀ r, t.write cfg r = r := by
  cases fault with
  | none => exact Or.inl rfl
  | stopped effect => cases h
  | raised effect =>
    have landed : t.afterRaise = some u := h
    unfold Task.afterRaise at landed
    split at landed
    next => exact Or.inr fun _ => rfl
    next => exact Or.inr fun _ => rfl
    next => cases landed

/-- What is true at the start, survives the writes and passes from a task to its next await, is true
after every step. -/
theorem Note.Keeps.step {Q : Notification → Prop} {P : Notification → Task → Prop}
    {D : Notification → DeadLetter → Prop} (keeps : n.Keeps Q P D) (h : Note.Step cfg j n e n')
    (born : ∀ payload channel ctime, Q (NotificationCreate.row payload channel ctime))
    (begins : ∀ r t, t.bare = true ∨ t = .dispatch .select ∨ t = .event .select ∨ t = .saving .refresh →
      P r t)
    (writes : ∀ t fault env q r, e = .ran t fault env q → t ∈ n.tasks → n.row = some r → Q r → P r t →
      Q (t.write cfg r) ∧ (∀ u, P r u → P (t.write cfg r) u) ∧ ∀ d, D r d → D (t.write cfg r) d)
    (goes : ∀ t fault env q r u, e = .ran t fault env q → t ∈ n.tasks → n.row = some r → Q r → P r t →
      (t.run cfg env j q (some r) fault).next = some u → P (t.write cfg r) u)
    (buries : ∀ r n code at_, Q r → P r (.dispatch (.sendToDlq n code)) → D r (n.deadLetter j code at_)) :
    n'.Keeps Q P D := by
  have rooted := keeps.rooted.step h
  cases h with
  | requested =>
    refine ⟨rooted, keeps.row, fun u mem r row => ?_, keeps.deadLetters⟩
    rcases Multiset.mem_cons.mp mem with rfl | there
    · exact begins r _ (Or.inl rfl)
    · exact keeps.tasks u there r row
  | dequeued lost _ =>
    refine ⟨rooted, keeps.row, fun u mem r row => ?_, keeps.deadLetters⟩
    rcases Holders.mem_put.mp mem with popped | there
    · cases lost <;> cases popped
      exact begins r _ (Or.inr (Or.inl rfl))
    · exact keeps.tasks u there r row
  | expired _ => exact ⟨rooted, keeps.row, keeps.tasks, keeps.deadLetters⟩
  | delivered _ =>
    refine ⟨rooted, keeps.row, fun u mem r row => ?_, keeps.deadLetters⟩
    rcases Multiset.mem_cons.mp mem with rfl | there
    · exact begins r _ (Or.inr (Or.inr (Or.inl rfl)))
    · exact keeps.tasks u there r row
  | inserted lost payload channel ctime unborn =>
    have absent := keeps.rooted unborn
    refine ⟨rooted, fun r row => ?_, fun u mem r row => ?_, fun d mem => ?_⟩
    · cases row
      exact born payload channel ctime
    · rcases Holders.mem_put.mp mem with saving | there
      · cases lost <;> cases saving
        exact begins r _ (Or.inr (Or.inr (Or.inr rfl)))
      · exact begins r u (Or.inl (absent.tasks u there))
    · rw [show _ = _ from absent.deadLetters] at mem
      exact absurd mem List.not_mem_nil
  | @ran rest t fault env q tasks =>
    have here := Note.mem_running tasks
    have stored : (n.after rest (t.run cfg env j q n.row fault)).row =
        if fault.effect then n.row.map (t.write cfg) else n.row := Task.run_db cfg env j q n.row fault t
    -- every row after the call comes from one before it
    have origin : ∀ r', (n.after rest (t.run cfg env j q n.row fault)).row = some r' →
        ∃ r, n.row = some r ∧ Q r ∧ P r t ∧ (fault.effect = true ∧ r' = t.write cfg r ∨
          fault.effect = false ∧ r' = r) := by
      intro r' row'
      rw [stored] at row'
      cases effect : fault.effect with
      | true =>
        rw [effect, if_pos rfl] at row'
        obtain ⟨r, row, rfl⟩ := Option.map_eq_some_iff.mp row'
        exact ⟨r, row, keeps.row r row, keeps.tasks t here r row, Or.inl ⟨rfl, rfl⟩⟩
      | false =>
        rw [effect, if_neg Bool.false_ne_true] at row'
        exact ⟨r', row', keeps.row r' row', keeps.tasks t here r' row', Or.inr ⟨rfl, rfl⟩⟩
    refine ⟨rooted, fun r' row' => ?_, fun u mem r' row' => ?_, fun d mem => ?_⟩
    · obtain ⟨r, row, known, own, ⟨_, rfl⟩ | ⟨_, rfl⟩⟩ := origin r' row'
      · exact (writes t fault env q r rfl here row known own).1
      · exact known
    · obtain ⟨r, row, known, own, changed⟩ := origin r' row'
      have written := writes t fault env q r rfl here row known own
      rcases Note.mem_after.mp mem with next | there
      · have moved := goes t fault env q r u rfl here row known own (row ▸ next)
        rcases changed with ⟨_, rfl⟩ | ⟨unheard, rfl⟩
        · exact moved
        · rcases Task.run_answered next with heard | silent
          · rw [heard] at unheard
            cases unheard
          · rwa [silent] at moved
      · have before := keeps.tasks u (Note.mem_resting tasks there) r row
        rcases changed with ⟨_, rfl⟩ | ⟨_, rfl⟩
        · exact written.2.1 u before
        · exact before
    · rcases Option.eq_none_or_eq_some n.row with row | ⟨r, row⟩
      · have absent := keeps.rooted row
        have silent := Task.run_bare cfg env q j fault
          (absent.tasks t here)
        rw [← row] at silent
        simp [Note.after, absent.deadLetters, silent.2.2.2.1] at mem
      · have known := keeps.row r row
        have own := keeps.tasks t here r row
        have after : (n.after rest (t.run cfg env j q n.row fault)).row =
            if fault.effect then some (t.write cfg r) else some r := by
          rw [stored, row]
          rfl
        have either : ∀ d, D r d → ∃ r', (n.after rest (t.run cfg env j q n.row fault)).row = some r' ∧
            D r' d := by
          intro d told
          rw [after]
          split
          next => exact ⟨_, rfl, (writes t fault env q r rfl here row known own).2.2 d told⟩
          next => exact ⟨r, rfl, told⟩
        rcases List.mem_append.mp mem with old | new
        · obtain ⟨r₀, row₀, told⟩ := keeps.deadLetters d old
          cases row.symm.trans row₀
          exact either d told
        · have buried := (t.run_effects cfg env j q n.row fault).2.1
          rw [buried] at new
          have letter : t.buries env j = some d := by
            cases effect : fault.effect with
            | true => simpa [effect] using new
            | false => simp [effect] at new
          rcases t with pc | pc | pc | pc
          · cases pc with
            | sendToDlq m code =>
              cases letter
              exact either _ (buries r m code env.now known own)
            | _ => cases letter
          · cases letter
          · cases letter
          · cases letter

theorem Note.absent_keeps (Q : Notification → Prop) (P : Notification → Task → Prop)
    (D : Notification → DeadLetter → Prop) : Note.absent.Keeps Q P D where
  rooted := Note.absent_rooted
  row _ row := by cases row
  tasks t ht := absurd ht (Multiset.notMem_zero t)
  deadLetters d hd := absurd hd List.not_mem_nil

end Steps

/-- Something in the service refers to the id: a queue, a history, a dead letter, or an operation on the
row, but for a manual retry that has not read it or has answered. -/
def Sys.mentions (s : Sys) (id : Nat) : Prop :=
  id ∈ s.world.queue ∨ (∃ m ∈ s.world.retryQueue, m.notificationId = id) ∨ id ∈ s.world.retryResult ∨
    (∃ d ∈ s.world.deadLetters, d.notificationId = id) ∨ id ∈ s.world.deliveries ∨
    id ∈ s.world.published ∨ id ∈ s.world.exhausted ∨
    ∃ op ∈ s.ops, ∃ t, op.taskOf id = some t ∧ t.bare = false

theorem Sys.not_mentions {s : Sys} {id : Nat} (absent : (s.note id).Unreferenced) : ¬s.mentions id := by
  rintro (queued | ⟨m, mem, own⟩ | ready | ⟨d, mem, own⟩ | sent | published | exhausted | ⟨op, mem, t, own, works⟩)
  · exact of_decide_eq_false absent.queued queued
  · exact List.countP_eq_zero.mp absent.waiting m mem (decide_eq_true own)
  · exact List.count_eq_zero.mp absent.ready ready
  · have mem : d ∈ (s.note id).deadLetters := List.mem_filter.mpr ⟨mem, decide_eq_true own⟩
    rw [absent.deadLetters] at mem
    exact List.not_mem_nil mem
  · exact List.count_eq_zero.mp absent.deliveries sent
  · exact List.count_eq_zero.mp absent.published published
  · exact List.count_eq_zero.mp absent.exhausted exhausted
  · have bare := absent.tasks t (List.mem_filterMap.mpr ⟨op, mem, own⟩)
    rw [works] at bare
    cases bare

theorem reach_rooted {cfg : Config} {ok : Sys → Label → Prop} {s : Sys} (run : Sys.Reach cfg ok .initial s)
    (id : Nat) : (s.note id).Rooted := by
  have noted : Transition.Reach (Note.Step cfg id) (fun _ _ => True) Note.absent (s.note id) :=
    note_reach (fun _ _ _ _ _ => trivial) run
  exact noted.invariant Note.absent_rooted fun _ _ _ rooted _ step => rooted.step step

/-- Whatever fails and whatever restarts, every id the service refers to has its row. So a worker and the
consumer of expired retries always find the row they look for, and no dead letter is about nothing. -/
theorem mentioned_row_exists {cfg : Config} {s : Sys} (run : Sys.Reach cfg (fun _ _ => True) .initial s)
    {id : Nat} (mentioned : s.mentions id) : ∃ r, s.world.rows id = some r := by
  cases row : s.world.rows id with
  | some r => exact ⟨r, rfl⟩
  | none => exact absurd mentioned (Sys.not_mentions (reach_rooted run id row))

/-- A worker has popped an OTP of which nothing is known but its row. -/
theorem mentioned_row_exists_popped : ∃ s, Sys.Reach defaultConfig (fun _ _ => True) .initial s ∧
    s.mentions 1 ∧ ∃ r, s.world.rows 1 = some r := by
  have ran : ((Transition.trace (Sys.step defaultConfig) (fun _ _ => true) .initial
      ([.createNotification otpRequest] ++ calls 0 5 (accepting true) ++ [.dequeue .none])).map fun s =>
        s.ops.any fun op => (op.taskOf 1).any fun t => !t.bare) = some true := by decide +kernel
  obtain ⟨s, hs, works⟩ := Option.map_eq_some_iff.mp ran
  have run : Sys.Reach defaultConfig (fun _ _ => True) .initial s :=
    (Transition.trace_reach .start hs).mono fun _ _ _ => trivial
  obtain ⟨op, mem, own⟩ := List.any_eq_true.mp works
  obtain ⟨t, task, bare⟩ := (Option.any_eq_true _ _).mp own
  have mentioned : s.mentions 1 :=
    Or.inr (Or.inr (Or.inr (Or.inr (Or.inr (Or.inr (Or.inr ⟨op, mem, t, task, by simpa using bare⟩))))))
  exact ⟨s, run, mentioned, mentioned_row_exists run mentioned⟩

end NotificationEngine
