import NotificationEngine.BoundedWork
import NotificationEngine.ExactlyOneCarrier

namespace NotificationEngine

open Holders

/-- Nothing waits anywhere, and every operation has returned. -/
structure Sys.Quiet (s : Sys) : Prop where
  queue : s.world.queue.entries = []
  retryQueue : s.world.retryQueue = []
  retryResult : s.world.retryResult = []
  finished : ∀ op ∈ s.ops, op.finished = true

/-- A plain step of a service whose retries can be published. -/
def Sys.smooth (cfg : Config) (s : Sys) (l : Label) : Bool := s.plain l && s.reconnects cfg l

/-- The provider is there and up, and takes what it is given. -/
def Env.accepts (env : Env) : Bool := env.hasProvider && (env.healthy && env.result.success)

/-- Something that waits is taken up, or a call of an operation in progress is made; none fails, and no
provider refuses. -/
def Label.mends : Label → Bool
  | .dequeue fault => fault = .none
  | .expire _ => true
  | .deliver => true
  | .run _ fault env => fault = .none && env.accepts
  | _ => false

/-- What smooth steps preserve: the count of the calls that are left, and one carrier a row. -/
structure Sys.Orderly (cfg : Config) (s : Sys) : Prop where
  accounted : s.Accounted cfg
  sole : ∀ id, (s.note id).Sole

theorem taskOf_finished {op : Op} (finished : op.finished = true) (j : Nat) : op.taskOf j = none := by
  cases op with
  | task id t => cases finished
  | done => rfl
  | create c =>
    cases hc : c.pc with
    | saving id pc rest => simp [Op.finished, hc] at finished
    | _ => simp [Op.taskOf, hc]

theorem Sys.Quiet.tasks {s : Sys} (quiet : s.Quiet) (id : Nat) : (s.note id).tasks = 0 := by
  refine Multiset.eq_zero_of_forall_notMem fun t mem => ?_
  obtain ⟨op, there, own⟩ := List.mem_filterMap.mp mem
  rw [taskOf_finished (quiet.finished op there)] at own
  cases own

theorem Sys.Quiet.unheld {s : Sys} (quiet : s.Quiet) (id : Nat) :
    (s.note id).queued = false ∧ (s.note id).waiting = 0 ∧ (s.note id).ready = 0 := by
  refine ⟨decide_eq_false fun there => ?_, ?_, ?_⟩
  · obtain ⟨score, mem⟩ := SortedSet.mem_iff.mp there
    rw [quiet.queue] at mem
    exact List.not_mem_nil mem
  · simp [Sys.note, quiet.retryQueue]
  · simp [Sys.note, quiet.retryResult]

theorem Sys.Quiet.carriers {s : Sys} (quiet : s.Quiet) (id : Nat) : (s.note id).carriers = 0 := by
  obtain ⟨queued, waiting, ready⟩ := quiet.unheld id
  simp [Note.carriers, queued, waiting, ready, quiet.tasks id]

theorem Sys.Quiet.settled {s : Sys} (quiet : s.Quiet) {id : Nat} {r : Notification}
    (sole : (s.note id).Sole) (row : s.world.rows id = some r) : r.status = .sent ∨ r.status = .failed := by
  have settled : ¬r.status.Live := by
    intro live
    have one := sole.live_one ⟨r, row, live⟩
    rw [quiet.carriers id] at one
    cases one
  cases status : r.status with
  | sent => exact Or.inl rfl
  | failed => exact Or.inr rfl
  | _ =>
    rw [status] at settled
    exact absurd trivial settled

section Steps

variable {cfg : Config} {s s' : Sys} {l : Label}

/-- With one carrier a row, every attempt is counted on the count that is stored. -/
theorem Note.Sole.countsOn {n : Note} {t : Task} (sole : n.Sole) (here : t ∈ n.tasks) :
    ∀ r, n.row = some r → t.countsOn r = true := by
  intro r row
  have coherent := sole.single.coherent t here
  rcases t with pc | pc | pc | pc
  · cases pc with
    | commitRetrying m code count delay =>
      obtain ⟨loaded, _⟩ := coherent
      cases row.symm.trans loaded
      exact decide_eq_true rfl
    | _ => rfl
  · rfl
  · cases sole.others _ here
  · rfl

theorem Sys.Orderly.countsOn (orderly : s.Orderly cfg) (l : Label) : s.countsOn l = true := by
  cases l with
  | run i fault env =>
    cases hop : s.ops[i]? with
    | none => simp [Sys.countsOn, Sys.meets, hop]
    | some op =>
      cases op with
      | task id t =>
        cases row : s.world.rows id with
        | none => simp [Sys.countsOn, Sys.meets, hop, row]
        | some r =>
          have counts := (orderly.sole id).countsOn (note_task_mem hop (if_pos rfl)) r row
          simpa [Sys.countsOn, Sys.meets, hop, row] using counts
      | _ => simp [Sys.countsOn, Sys.meets, hop]
  | _ => rfl

theorem Sys.Orderly.step (orderly : s.Orderly cfg) (ok : s.smooth cfg l = true)
    (h : s.step cfg l = some s') : s'.Orderly cfg := by
  refine ⟨orderly.accounted.step (orderly.countsOn l) h, fun id => ?_⟩
  obtain ⟨plain, reconnects⟩ := Bool.and_eq_true_iff.mp ok
  have seen := step_seen id (orderly.accounted.fresh _ le_rfl) h
  cases he : s.seenAs id l with
  | none =>
    rw [he] at seen
    have same : s'.note id = s.note id := seen
    rw [same]
    exact orderly.sole id
  | some e =>
    rw [he] at seen
    exact (orderly.sole id).step (seen_plain plain reconnects (seen_of_seenAs he)) seen

theorem Sys.initial_orderly (cfg : Config) : Sys.initial.Orderly cfg where
  accounted := Sys.initial_accounted cfg
  sole id := by
    rw [note_initial]
    exact Note.absent_sole

theorem smooth_run_orderly (run : Sys.Reach cfg (fun s l => s.smooth cfg l = true) .initial s) : s.Orderly cfg :=
  run.invariant (Sys.initial_orderly cfg) fun _ _ _ orderly ok step => orderly.step ok step

/-- A service that is not quiet can make a step that gets it further and that nobody asked for, and in which no
call fails and no provider refuses. -/
theorem Sys.goes_on (cfg : Config) (busy : ¬s.Quiet) :
    ∃ l s', l.mends = true ∧ s.step cfg l = some s' ∧ s.charge cfg l < (s.works l).toNat := by
  by_cases queue : s.world.queue.entries = []
  case neg =>
    cases popped : s.world.queue.popMin memberKey with
    | none => exact absurd (SortedSet.popMin_eq_none.mp popped) queue
    | some found =>
      obtain ⟨s', step⟩ : ∃ s', s.step cfg (.dequeue .none) = some s' := by simp [Sys.step, popped]
      refine ⟨_, s', rfl, step, ?_⟩
      simp [Sys.works, Sys.charge, queue, Fault.effect]
  cases retryQueue : s.world.retryQueue with
  | cons m rest =>
    obtain ⟨s', step⟩ : ∃ s', s.step cfg (.expire m.deadline) = some s' := by simp [Sys.step, retryQueue]
    exact ⟨_, s', rfl, step, Nat.zero_lt_one⟩
  | nil =>
    cases retryResult : s.world.retryResult with
    | cons id rest =>
      obtain ⟨s', step⟩ : ∃ s', s.step cfg .deliver = some s' := by simp [Sys.step, retryResult]
      exact ⟨_, s', rfl, step, Nat.zero_lt_one⟩
    | nil =>
      have unfinished : ∃ op ∈ s.ops, op.finished = false := by
        by_contra none
        refine busy ⟨queue, retryQueue, retryResult, fun op mem => ?_⟩
        by_contra running
        exact none ⟨op, mem, by simpa using running⟩
      obtain ⟨op, mem, working⟩ := unfinished
      obtain ⟨i, hop⟩ := List.getElem?_of_mem mem
      obtain ⟨s', step⟩ : ∃ s', s.step cfg (.run i .none (accepting true)) = some s' := by
        simp [Sys.step, hop]
      refine ⟨_, s', rfl, step, ?_⟩
      have free : s.charge cfg (.run i .none (accepting true)) = 0 := by
        simp only [Sys.charge, hop]
        split <;> rfl
      rw [free]
      simp [Sys.works, hop, working]

/-- Where the library lets the service publish, such a step is smooth. -/
theorem Label.smooth_of_mends (callable : cfg.aioPika.isClosedIsMethod = true) (mends : l.mends = true) :
    s.smooth cfg l = true := by
  cases l with
  | run i fault env =>
    simp only [Label.mends, Env.accepts, Bool.and_eq_true, decide_eq_true_eq] at mends
    obtain ⟨answered, _, success⟩ := mends
    simp only [Sys.smooth, Sys.plain, Sys.reconnects, answered, success, callable, Bool.true_or, Bool.or_true,
      decide_true, Bool.true_and, Bool.and_eq_true]
    refine ⟨?_, ?_⟩
    · split <;> rfl
    · split <;> rfl
  | dequeue fault => simpa [Sys.smooth, Sys.plain, Sys.reconnects, Label.mends] using mends
  | expire now => rfl
  | deliver => rfl
  | _ => cases mends

theorem Sys.progress (callable : cfg.aioPika.isClosedIsMethod = true) (busy : ¬s.Quiet) :
    ∃ l s', s.smooth cfg l = true ∧ s.step cfg l = some s' ∧ s.charge cfg l < (s.works l).toNat := by
  obtain ⟨l, s', mends, step, free⟩ := Sys.goes_on cfg busy
  exact ⟨l, s', Label.smooth_of_mends callable mends, step, free⟩

end Steps

/-- A smooth run that has come to rest has sent or failed every notification. -/
theorem quiet_settled {cfg : Config} {s : Sys} (run : Sys.Reach cfg (fun s l => s.smooth cfg l = true) .initial s)
    (quiet : s.Quiet) {id : Nat} {r : Notification} (row : s.world.rows id = some r) :
    r.status = .sent ∨ r.status = .failed :=
  quiet.settled ((smooth_run_orderly run).sole id) row

/-- One OTP is created and sent. -/
theorem quiet_settled_sentOnce : ∃ s r, Sys.Reach defaultConfig (fun s l => s.smooth defaultConfig l = true) .initial s ∧
    s.Quiet ∧ s.world.rows 1 = some r ∧ (r.status = .sent ∨ r.status = .failed) := by
  have ran : ((Transition.trace (Sys.step defaultConfig) (Sys.smooth defaultConfig) .initial
      ([.createNotification otpRequest] ++ calls 0 5 (accepting true) ++ [.dequeue .none] ++
        calls 1 7 (accepting true))).bind fun s => (s.world.rows 1).map fun _ =>
          decide (s.world.queue.entries = [] ∧ s.world.retryQueue = [] ∧ s.world.retryResult = [] ∧
            ∀ op ∈ s.ops, op.finished = true)) = some true := by decide +kernel
  obtain ⟨s, hs, ran⟩ := Option.bind_eq_some_iff.mp ran
  obtain ⟨r, row, facts⟩ := Option.map_eq_some_iff.mp ran
  obtain ⟨queue, retryQueue, retryResult, finished⟩ := of_decide_eq_true facts
  have run := Transition.trace_reach .start hs
  have quiet : s.Quiet := ⟨queue, retryQueue, retryResult, finished⟩
  exact ⟨s, r, run, quiet, row, quiet_settled run quiet row⟩

end NotificationEngine
