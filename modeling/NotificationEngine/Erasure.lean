import NotificationEngine.NoteView
import NotificationEngine.FifoOrder

namespace NotificationEngine

/-- What is left of PostgreSQL, Redis and RabbitMQ once every notification but `j` is erased, with
a `QueueService` of its own. -/
def World.only (j : Nat) (q : QueueService) (w : World) : World where
  rows := fun i => if i = j then w.rows i else none
  nextId := w.nextId
  idemKeys := []
  queue := w.queue.restrict fun i => i = j
  retryQueue := w.retryQueue.filter fun m => m.notificationId = j
  retryResult := w.retryResult.filter fun i => i = j
  deadLetters := w.deadLetters.filter fun m => m.notificationId = j
  service := q
  deliveries := w.deliveries.filter fun i => i = j
  published := w.published.filter fun i => i = j
  exhausted := w.exhausted.filter fun i => i = j
  enqueued := w.enqueued.filter fun i => i = j

section Apply

variable {w : World} {j id : Nat} {q q' : QueueService} {o : Outcome}

theorem log_own {c : Bool} (log : List Nat) :
    (if c then log ++ [j] else log).filter (fun i => decide (i = j)) =
      if c then log.filter (fun i => decide (i = j)) ++ [j] else log.filter fun i => decide (i = j) := by
  cases c <;> simp

theorem log_other {c : Bool} (log : List Nat) (ne : id ≠ j) :
    (if c then log ++ [id] else log).filter (fun i => decide (i = j)) =
      log.filter fun i => decide (i = j) := by
  cases c <;> simp [ne]

/-- A call on row `j` does the same where the other notifications are erased. -/
theorem only_apply_own (addressed : o.Addressed j) :
    (w.apply j o).only j q' = (w.only j q).apply j { o with service := q' } := by
  have rows : ((w.apply j o).only j q').rows =
      ((w.only j q).apply j { o with service := q' }).rows := by
    funext i
    by_cases own : i = j <;> simp [World.apply, World.only, own]
  have queue : ((w.apply j o).only j q').queue =
      ((w.only j q).apply j { o with service := q' }).queue := by
    cases h : o.enqueued <;> simp [World.apply, World.only, h, SortedSet.restrict_addNX]
  have waiting : ((w.apply j o).only j q').retryQueue = (w.only j q).retryQueue ++ o.published.toList := by
    refine (List.filter_append ..).trans (congrArg _ (List.filter_eq_self.mpr fun m mem => ?_))
    exact decide_eq_true (addressed.1 m (Option.mem_toList.mp mem))
  have dead : ((w.apply j o).only j q').deadLetters = (w.only j q).deadLetters ++ o.deadLetter.toList := by
    refine (List.filter_append ..).trans (congrArg _ (List.filter_eq_self.mpr fun m mem => ?_))
    exact decide_eq_true (addressed.2 m (Option.mem_toList.mp mem))
  exact (World.mk.injEq ..).mpr ⟨rows, rfl, rfl, queue, waiting, log_own _, dead, rfl, log_own _,
    log_own _, log_own _, log_own _⟩

theorem only_apply_other (addressed : o.Addressed id) (ne : id ≠ j) :
    (w.apply id o).only j q = w.only j q := by
  have rows : ((w.apply id o).only j q).rows = (w.only j q).rows := by
    funext i
    by_cases own : i = j
    · subst own
      simp [World.apply, World.only, Ne.symm ne]
    · simp [World.only, own]
  have queue : ((w.apply id o).only j q).queue = (w.only j q).queue := by
    cases h : o.enqueued <;> simp [World.apply, World.only, h, SortedSet.restrict_addNX_other, ne]
  have waiting : ((w.apply id o).only j q).retryQueue = (w.only j q).retryQueue := by
    refine (List.filter_append ..).trans (List.append_right_eq_self.mpr
      (List.filter_eq_nil_iff.mpr fun m mem => ?_))
    simpa [addressed.1 m (Option.mem_toList.mp mem)] using ne
  have dead : ((w.apply id o).only j q).deadLetters = (w.only j q).deadLetters := by
    refine (List.filter_append ..).trans (List.append_right_eq_self.mpr
      (List.filter_eq_nil_iff.mpr fun m mem => ?_))
    simpa [addressed.2 m (Option.mem_toList.mp mem)] using ne
  exact (World.mk.injEq ..).mpr ⟨rows, rfl, rfl, queue, waiting, log_other _ ne, dead, rfl,
    log_other _ ne, log_other _ ne, log_other _ ne, log_other _ ne⟩

end Apply

section Service

variable {cfg : Config} {env : Env} {id : Nat} {q q' : QueueService} {db : Option Notification}
  {t : Task}

/-- `get_rabbitmq_channel` goes the same way from both services. -/
def SameWay (lib : AioPika) (q q' : QueueService) : Prop :=
  (q.getRabbitmqChannel lib).2 = (q'.getRabbitmqChannel lib).2

instance (lib : AioPika) (q q' : QueueService) : Decidable (SameWay lib q q') :=
  inferInstanceAs (Decidable (_ = _))

theorem Outcome.Effects.same {o o' : Outcome} (effects : o.Effects cfg env id db t)
    (effects' : o'.Effects cfg env id db t) : o' = { o with service := o'.service, next := o'.next } := by
  obtain ⟨h₁, h₂, h₃, h₄, h₅, h₆, h₇⟩ := effects
  obtain ⟨k₁, k₂, k₃, k₄, k₅, k₆, k₇⟩ := effects'
  rw [h₁, h₂, h₃, h₄, h₅, h₆, h₇, ← k₁, ← k₂, ← k₃, ← k₄, ← k₅, ← k₆, ← k₇]

theorem DispatchPc.act_next_service {pc : DispatchPc}
    (same : ∀ delay, pc = .refreshRetrying delay → SameWay cfg.aioPika q q') :
    (pc.act cfg env id q db).next = (pc.act cfg env id q' db).next := by
  cases pc with
  | select =>
    cases db with
    | none => rfl
    | some n =>
      simp only [DispatchPc.act]
      split <;> rfl
  | health n =>
    simp only [DispatchPc.act]
    split <;> rfl
  | refreshRetrying delay =>
    cases db with
    | none => rfl
    | some n => exact congrArg (Option.map _) (same delay rfl)
  | publishing delay pc => cases pc <;> rfl
  | _ => rfl

theorem Task.act_next_service
    (same : ∀ delay, t = .dispatch (.refreshRetrying delay) → SameWay cfg.aioPika q q') :
    (t.act cfg env id q db).next = (t.act cfg env id q' db).next := by
  rcases t with pc | pc | pc | pc
  · exact DispatchPc.act_next_service fun delay is => same delay (congrArg Task.dispatch is)
  · cases pc with
    | select => cases db <;> rfl
    | _ => rfl
  · cases pc with
    | select =>
      cases db with
      | none => rfl
      | some n =>
        simp only [Task.act, RetryPc.act]
        split
        next => rfl
        next => split <;> rfl
    | _ => rfl
  · cases pc <;> rfl

/-- But for the connection it leaves cached, a call does the same from any two services, unless it
is the one after which `publish_retry` asks for a channel. -/
theorem Task.run_service {fault : Fault} (same : fault = .none →
      ∀ delay, t = .dispatch (.refreshRetrying delay) → SameWay cfg.aioPika q q') :
    t.run cfg env id q' db fault =
      { t.run cfg env id q db fault with service := (t.run cfg env id q' db fault).service } := by
  have effects := (t.act_effects cfg env id q db).same (t.act_effects cfg env id q' db)
  cases fault with
  | none =>
    simp only [Task.run]
    rw [Task.act_next_service (same rfl)]
    exact effects
  | raised effect =>
    cases effect with
    | false => rfl
    | true =>
      simp only [Task.run, Task.unanswered, if_true]
      rw [effects]
  | stopped effect =>
    cases effect with
    | false => rfl
    | true =>
      simp only [Task.run, Task.unanswered, if_true]
      rw [effects]

end Service

end NotificationEngine
