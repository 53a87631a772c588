import NotificationEngine.DeadLetterFacts
import NotificationEngine.DeadLetters
import NotificationEngine.LoggedRuns

namespace NotificationEngine

open Holders

/-- What is given up for good: a dead letter that nobody will publish, or a retry message that the handler has
settled with the broker. -/
inductive Posting
  | letterDropped (id : Nat)
  | retrySettled (id : Nat)
  deriving DecidableEq, Repr

/-- A delivery of a retry message in progress. -/
def Task.handles : Task → Bool
  | event _ => true
  | _ => false

/-- The call ends the handling of a retry message for good: by its ack, or by the nack after an exception. -/
def Task.settlesRetry (fault : Fault) : Task → Bool
  | event .ack => decide (fault ≠ .stopped false)
  | event .select => match fault with
    | .raised _ => true
    | _ => false
  | _ => false

def Task.posting (fault : Fault) (id : Nat) (t : Task) : Option Posting :=
  if t.dropsLetter fault then some (.letterDropped id)
  else if t.settlesRetry fault then some (.retrySettled id)
  else none

/-- The service, with what it gives up. -/
def Sys.posted (cfg : Config) : Transition.Recorder Sys Label Posting where
  step := Sys.step cfg
  instant _ := none
  entry s
    | .run i fault _ => match s.ops[i]? with
      | some (.task id t) => t.posting fault id
      | _ => none
    | _ => none

/-- Published messages of `notification.retry` that are not settled. -/
def Note.unsettled (n : Note) : Nat := n.waiting + n.ready + held Task.handles n.tasks

/-- Dead letters of the notification, published or owed. -/
def Note.letters (n : Note) : Nat := n.deadLetters.length + held Task.owesDeadLetter n.tasks

/-- What a call leaves of a retry message that was being handled. -/
def Outcome.unsettled (o : Outcome) : Nat := o.redelivered.toNat + (o.next.any Task.handles).toNat

/-- The dead letter that a call publishes or leaves owed. -/
def Outcome.letters (o : Outcome) : Nat := o.deadLetter.toList.length + (o.next.any Task.owesDeadLetter).toNat

section Tasks

variable (cfg : Config) (env : Env) (id : Nat) (q : QueueService) {db : Option Notification} {fault : Fault}
  {t u : Task}

theorem Task.run_handles (next : (t.run cfg env id q db fault).next = some u) : u.handles = t.handles := by
  cases Task.run_goes next <;> rfl

/-- A delivery of a retry message goes on, is redelivered or settles the message. -/
theorem Task.run_handled (db : Option Notification) (fault : Fault) (t : Task) :
    (t.run cfg env id q db fault).unsettled + (t.settlesRetry fault).toNat = t.handles.toNat := by
  have other (unhandled : t.handles = false) (unacked : ∀ effect, t.unacked effect = false)
      (unsettled : t.settlesRetry fault = false) :
      (t.run cfg env id q db fault).unsettled + (t.settlesRetry fault).toNat = t.handles.toNat := by
    have redelivered : (t.run cfg env id q db fault).redelivered = false := by
      cases fault with
      | none => exact (t.act_effects cfg env id q db).redelivered
      | raised effect =>
        cases effect with
        | false => rfl
        | true => exact (t.act_effects cfg env id q db).redelivered
      | stopped effect => exact unacked effect
    have goes_on : (t.run cfg env id q db fault).next.any Task.handles = false := by
      cases next : (t.run cfg env id q db fault).next with
      | none => rfl
      | some u => exact (Task.run_handles cfg env id q next).trans unhandled
    rw [Outcome.unsettled, redelivered, goes_on, unsettled, unhandled]
    rfl
  rcases t with pc | pc | pc | pc
  · exact other rfl (fun _ => rfl) rfl
  · cases pc with
    | select =>
      cases fault with
      | none => cases db <;> rfl
      | raised effect => cases effect <;> cases db <;> rfl
      | stopped effect => cases effect <;> cases db <;> rfl
    | enqueue score =>
      cases fault with
      | none => rfl
      | raised effect => cases effect <;> rfl
      | stopped effect => cases effect <;> rfl
    | ack =>
      cases fault with
      | none => rfl
      | raised effect => cases effect <;> rfl
      | stopped effect => cases effect <;> rfl
  · exact other rfl (fun _ => rfl) rfl
  · exact other rfl (fun _ => rfl) rfl

theorem Task.run_owing (next : (t.run cfg env id q db fault).next = some u) (owes : u.owesDeadLetter = true) :
    t.owesDeadLetter = true ∨ t.exhausts = true := by
  cases Task.run_goes next with
  | @failed n code exhausted =>
    cases (owes : exhausted = true)
    exact Or.inr rfl
  | buried row => exact Or.inl rfl
  | _ => cases owes

/-- A call that exhausts a row takes on a dead letter; who owes one publishes it, goes on owing it
or drops it. -/
theorem Task.run_letters (fault : Fault) (row : t.owesDeadLetter = true → db.isSome = true) :
    (t.run cfg env id q db fault).letters + (t.dropsLetter fault).toNat =
      t.owesDeadLetter.toNat + (t.run cfg env id q db fault).exhausted.toNat := by
  have other (paid : t.owesDeadLetter = false) (spared : t.exhausts = false)
      (unburied : t.buries env id = none) (undropped : t.dropsLetter fault = false) :
      (t.run cfg env id q db fault).letters + (t.dropsLetter fault).toNat =
        t.owesDeadLetter.toNat + (t.run cfg env id q db fault).exhausted.toNat := by
    obtain ⟨_, letter, exhausted⟩ := t.run_effects cfg env id q db fault
    have goes_on : (t.run cfg env id q db fault).next.any Task.owesDeadLetter = false := by
      cases next : (t.run cfg env id q db fault).next with
      | none => rfl
      | some u =>
        refine Bool.eq_false_iff.mpr fun owes => ?_
        rcases Task.run_owing cfg env id q next owes with before | exhausts
        · cases paid.symm.trans before
        · cases spared.symm.trans exhausts
    rw [Outcome.letters, goes_on, undropped, paid, letter, exhausted, spared, unburied]
    simp
  rcases t with pc | pc | pc | pc
  · cases pc with
    | commitFailed n code exhausted =>
      cases exhausted with
      | false => exact other rfl rfl rfl (by simp [Task.dropsLetter])
      | true =>
        cases fault with
        | none => rfl
        | raised effect => cases effect <;> rfl
        | stopped effect => cases effect <;> rfl
    | refreshFailed code exhausted =>
      cases exhausted with
      | false => exact other rfl rfl rfl (by simp [Task.dropsLetter])
      | true =>
        cases fault with
        | none =>
          obtain ⟨n, rfl⟩ := Option.isSome_iff_exists.mp (row rfl)
          rfl
        | raised effect => cases effect <;> rfl
        | stopped effect => cases effect <;> rfl
    | sendToDlq n code =>
      cases fault with
      | none => rfl
      | raised effect => cases effect <;> rfl
      | stopped effect => cases effect <;> rfl
    | _ => exact other rfl rfl rfl (by simp [Task.dropsLetter])
  · exact other rfl rfl rfl (by simp [Task.dropsLetter])
  · exact other rfl rfl rfl (by simp [Task.dropsLetter])
  · exact other rfl rfl rfl (by simp [Task.dropsLetter])

end Tasks

section Steps

variable {cfg : Config} {j : Nat} {n n' : Note} {e : NoteLabel}

def NoteLabel.posting (j : Nat) : NoteLabel → Option Posting
  | ran t fault _ _ => t.posting fault j
  | _ => none

theorem posting_settles (fault : Fault) (t : Task) :
    (t.posting fault j).toList.count (.retrySettled j) = (t.settlesRetry fault).toNat := by
  unfold Task.posting
  split
  next drops =>
    have unsettled : t.settlesRetry fault = false := by
      rcases t with pc | pc | pc | pc
      · rfl
      · simp [Task.dropsLetter] at drops
      · rfl
      · rfl
    simp [unsettled]
  next =>
    split
    next settles => simp [settles]
    next unsettled => simp [unsettled]

theorem posting_drops (fault : Fault) (t : Task) :
    (t.posting fault j).toList.count (.letterDropped j) = (t.dropsLetter fault).toNat := by
  unfold Task.posting
  split
  next drops => simp [drops]
  next undropped => split <;> simp [undropped]

/-- A step publishes a retry message, or moves one on, or settles one. -/
theorem Note.Step.unsettled (h : Note.Step cfg j n e n') :
    n'.unsettled + (e.posting j).toList.count (.retrySettled j) + n.published =
      n.unsettled + n'.published := by
  cases h with
  | requested => simp [Note.unsettled, NoteLabel.posting, held_cons, Task.handles]
  | dequeued lost queued =>
    cases lost <;> simp [Note.unsettled, NoteLabel.posting, held_cons, Task.handles]
  | expired waiting =>
    simp only [Note.unsettled, NoteLabel.posting, waiting, Option.toList_none, List.count_nil]
    omega
  | delivered ready =>
    simp only [Note.unsettled, NoteLabel.posting, held_cons, ready, Task.handles, Bool.toNat_true,
      Option.toList_none, List.count_nil]
    omega
  | inserted lost payload channel ctime unborn =>
    cases lost <;> simp [Note.unsettled, NoteLabel.posting, held_cons, Task.handles]
  | ran t fault env q tasks =>
    have handled := Task.run_handled cfg env j q n.row fault t
    simp only [Note.unsettled, NoteLabel.posting, posting_settles, Note.after, tasks, held_put, held_cons,
      Outcome.unsettled] at handled ⊢
    omega

/-- A step exhausts the row, publishes a dead letter, or drops one. -/
theorem Note.Step.letters (rooted : n.Rooted) (h : Note.Step cfg j n e n') :
    n'.letters + (e.posting j).toList.count (.letterDropped j) + n.exhausted = n.letters + n'.exhausted := by
  cases h with
  | requested => simp [Note.letters, NoteLabel.posting, held_cons, Task.owesDeadLetter]
  | dequeued lost queued =>
    cases lost <;> simp [Note.letters, NoteLabel.posting, held_cons, Task.owesDeadLetter]
  | expired waiting => rfl
  | delivered ready => simp [Note.letters, NoteLabel.posting, held_cons, Task.owesDeadLetter]
  | inserted lost payload channel ctime unborn =>
    cases lost <;> simp [Note.letters, NoteLabel.posting, held_cons, Task.owesDeadLetter]
  | ran t fault env q tasks =>
    have row (owes : t.owesDeadLetter = true) : n.row.isSome = true := by
      cases row : n.row with
      | some r => rfl
      | none =>
        have bare := (rooted row).tasks t (Note.mem_running tasks)
        rcases t with pc | pc | pc | pc
        · cases bare
        · cases bare
        · cases owes
        · cases bare
    have letters := Task.run_letters cfg env j q fault row
    simp only [Note.letters, NoteLabel.posting, posting_drops, Note.after, tasks, held_put, held_cons,
      List.length_append, Outcome.letters] at letters ⊢
    omega

end Steps

theorem posting_other {x : Posting} {id j : Nat} (other : id ≠ j)
    (own : x = .letterDropped j ∨ x = .retrySettled j) (fault : Fault) (t : Task) :
    (t.posting fault id).toList.count x = 0 := by
  unfold Task.posting
  rcases own with rfl | rfl <;> split <;> [skip; split; skip; split] <;> simp [other]

/-- What is noted down about a notification is what it sees. -/
theorem posted_seen {cfg : Config} {x : Posting} {j : Nat} (own : x = .letterDropped j ∨ x = .retrySettled j)
    (s : Sys) (l : Label) : ((Sys.posted cfg).entry s l).toList.count x =
      ((s.seenAs j l).bind (NoteLabel.posting j)).toList.count x := by
  cases l with
  | run i fault env =>
    simp only [Sys.posted, Sys.seenAs]
    cases s.ops[i]? with
    | none => rfl
    | some op =>
      cases op with
      | task id t =>
        by_cases same : id = j
        · subst same
          simp [Op.taskOf, NoteLabel.posting]
        · simp [Op.taskOf, same, posting_other same own]
      | create c =>
        simp only
        split
        next t task =>
          have idle : t.posting fault j = none := by
            simp only [Op.taskOf] at task
            split at task
            next =>
              split at task
              next =>
                cases task
                simp [Task.posting, Task.dropsLetter, Task.settlesRetry]
              next => cases task
            next => cases task
          simp [NoteLabel.posting, idle]
        next =>
          split
          next => split <;> rfl
          next => rfl
      | done => rfl
  | createNotification payload => rfl
  | retryNotification id =>
    simp only [Sys.posted, Sys.seenAs]
    split <;> rfl
  | dequeue fault =>
    simp only [Sys.posted, Sys.seenAs]
    split
    next => rfl
    next => split <;> rfl
  | expire now =>
    simp only [Sys.posted, Sys.seenAs]
    split
    next => rfl
    next => split <;> rfl
  | deliver =>
    simp only [Sys.posted, Sys.seenAs]
    split
    next => rfl
    next => split <;> rfl
  | forget key => rfl
  | restart => rfl

/-- What each step of a notification's life balances is balanced over a whole run, whatever else happens. -/
theorem note_balance {cfg : Config} {start : Int} {a : Transition.Logged Sys Posting} {x : Posting} {j : Nat}
    (remaining total : Note → Nat) (own : x = .letterDropped j ∨ x = .retrySettled j)
    (absent : remaining Note.absent = total Note.absent)
    (balances : ∀ n e n', n.Rooted → Note.Step cfg j n e n' →
      remaining n' + (e.posting j).toList.count x + total n = remaining n + total n')
    (run : (Sys.posted cfg).Reach (fun _ _ => True) ⟨.initial, start, []⟩ a) :
    remaining (a.state.note j) + a.log.count x = total (a.state.note j) := by
  refine run.balance (fun s => remaining (s.note j)) (fun s => total (s.note j)) ?_ ?_
  · rw [note_initial, List.count_nil, absent]
    rfl
  · intro b l c reached step
    obtain ⟨step, _, _⟩ := Transition.Recorder.next_eq_some step
    have plain : Sys.Reach cfg (fun _ _ => True) .initial b.state :=
      Transition.Recorder.Reach.unlogged (fun _ _ _ => trivial) reached
    have fresh : b.state.world.Fresh := reach_fresh (fun _ _ => rfl) plain
    have seen := step_seen j (fresh b.state.world.nextId le_rfl) step
    rw [posted_seen own]
    cases there : b.state.seenAs j l with
    | none =>
      rw [there] at seen
      have same : c.state.note j = b.state.note j := seen
      simp [same]
    | some e =>
      rw [there] at seen
      exact balances _ e _ (reach_rooted plain j) seen

/-- Whatever fails: each time a row is marked FAILED with its retries exhausted there is one dead letter,
published, owed by a dispatch or dropped by a failure, and there are no others. -/
theorem letters_balance {cfg : Config} {start : Int} {a : Transition.Logged Sys Posting}
    (run : (Sys.posted cfg).Reach (fun _ _ => True) ⟨.initial, start, []⟩ a) (id : Nat) :
    a.state.world.deadLetters.countP (fun d => d.notificationId = id) +
        a.state.ops.countP (fun op => (op.taskOf id).any Task.owesDeadLetter) +
          a.log.count (.letterDropped id) = a.state.world.exhausted.count id := by
  have balance := note_balance Note.letters Note.exhausted (Or.inl rfl) rfl
    (fun _ _ _ rooted step => step.letters (j := id) rooted) run
  simpa only [Note.letters, Sys.note, held_filterMap, ← List.countP_eq_length_filter] using balance

/-- Whatever fails: each retry message published is in one of the two retry queues, in the hands of the handler
or settled, and in one of these only once. -/
theorem retries_balance {cfg : Config} {start : Int} {a : Transition.Logged Sys Posting}
    (run : (Sys.posted cfg).Reach (fun _ _ => True) ⟨.initial, start, []⟩ a) (id : Nat) :
    a.state.world.retryQueue.countP (fun m => m.notificationId = id) + a.state.world.retryResult.count id +
        a.state.ops.countP (fun op => (op.taskOf id).any Task.handles) +
          a.log.count (.retrySettled id) = a.state.world.published.count id := by
  have balance := note_balance Note.unsettled Note.published (Or.inr rfl) rfl
    (fun _ _ _ _ step => step.unsettled (j := id)) run
  simpa only [Note.unsettled, Sys.note, held_filterMap] using balance

/-- The sender of an OTP is down until its retries are exhausted. -/
theorem reach_givenUp : ∃ a, (Sys.posted defaultConfig).Reach (fun _ _ => True) ⟨.initial, 0, []⟩ a ∧
    a.state.world.exhausted = [1] ∧ a.state.world.published = [1, 1, 1] ∧
      a.log = [.retrySettled 1, .retrySettled 1, .retrySettled 1] := by
  have ran : (Transition.trace (Sys.posted defaultConfig).next (fun _ _ => true) ⟨.initial, 0, []⟩ givenUp).map
      (fun a => (a.state.world.exhausted, a.state.world.published, a.log)) =
        some ([1], [1, 1, 1], [.retrySettled 1, .retrySettled 1, .retrySettled 1]) := by decide +kernel
  obtain ⟨a, reached, facts⟩ := Option.map_eq_some_iff.mp ran
  simp only [Prod.mk.injEq] at facts
  exact ⟨a, (Transition.trace_reach .start reached).mono fun _ _ _ => trivial, facts.1, facts.2.1, facts.2.2⟩

theorem letters_balance_givenUp : ∃ a, (Sys.posted defaultConfig).Reach (fun _ _ => True) ⟨.initial, 0, []⟩ a ∧
    a.state.world.deadLetters.countP (fun d => d.notificationId = 1) +
      a.state.ops.countP (fun op => (op.taskOf 1).any Task.owesDeadLetter) = 1 := by
  obtain ⟨a, run, exhausted, _, log⟩ := reach_givenUp
  have balance := letters_balance run 1
  rw [exhausted, log] at balance
  exact ⟨a, run, balance⟩

theorem retries_balance_givenUp : ∃ a, (Sys.posted defaultConfig).Reach (fun _ _ => True) ⟨.initial, 0, []⟩ a ∧
    a.log.count (.retrySettled 1) = 3 ∧
      a.state.world.retryQueue.countP (fun m => m.notificationId = 1) + a.state.world.retryResult.count 1 +
        a.state.ops.countP (fun op => (op.taskOf 1).any Task.handles) = 0 := by
  obtain ⟨a, run, _, published, log⟩ := reach_givenUp
  have balance := retries_balance run 1
  rw [published, log] at balance
  refine ⟨a, run, by rw [log]; decide, ?_⟩
  exact Nat.add_right_cancel balance

end NotificationEngine
