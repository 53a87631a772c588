import NotificationEngine.Backoff

namespace NotificationEngine

/-- The service with its clock, and the retries that have expired, each with the time of its expiry. -/
def Sys.expiries (cfg : Config) : Transition.Recorder Sys Label (RetryMessage × Int) where
  step := Sys.step cfg
  instant := Label.instant
  entry s
    | .expire now => s.world.retryQueue.head?.map fun m => (m, now)
    | _ => none

section Steps

variable {cfg : Config} {s s' : Sys} {l : Label}

theorem World.apply_published {w : World} {id : Nat} {o : Outcome} (addressed : o.Addressed id) :
    ∃ new, (w.apply id o).retryQueue.map (·.notificationId) = w.retryQueue.map (·.notificationId) ++ new ∧
      (w.apply id o).published = w.published ++ new := by
  cases published : o.published with
  | none => exact ⟨[], by simp [World.apply, published], by simp [World.apply, published]⟩
  | some m =>
    have own := addressed.1 m published
    exact ⟨[id], by simp [World.apply, published, own], by simp [World.apply, published]⟩

/-- A step publishes a retry behind those that wait, or lets the first of these expire. -/
theorem Sys.step_in_order (h : s.step cfg l = some s') : ∃ new,
    (((Sys.expiries cfg).entry s l).toList.map fun x => x.1.notificationId) ++
        s'.world.retryQueue.map (·.notificationId) = s.world.retryQueue.map (·.notificationId) ++ new ∧
      s'.world.published = s.world.published ++ new := by
  have idle (same : s'.world.retryQueue = s.world.retryQueue) (all : s'.world.published = s.world.published) :
      ∃ new, s'.world.retryQueue.map (·.notificationId) = s.world.retryQueue.map (·.notificationId) ++ new ∧
        s'.world.published = s.world.published ++ new :=
    ⟨[], by rw [same, List.append_nil], by rw [all, List.append_nil]⟩
  cases l with
  | createNotification payload =>
    cases Option.some.inj h
    exact idle rfl rfl
  | retryNotification id =>
    cases Option.some.inj h
    exact idle rfl rfl
  | dequeue fault =>
    simp only [Sys.step] at h
    split at h
    next =>
      cases Option.some.inj h
      exact idle rfl rfl
    next =>
      split at h
      next =>
        cases Option.some.inj h
        exact idle rfl rfl
      next =>
        cases Option.some.inj h
        split
        next => exact ⟨[], by simp [Sys.expiries], by simp⟩
        next => exact ⟨[], by simp [Sys.expiries], by simp⟩
  | expire now =>
    simp only [Sys.step] at h
    split at h
    next => cases h
    next m rest waits =>
      split at h
      next =>
        cases Option.some.inj h
        exact ⟨[], by simp [Sys.expiries, waits], (List.append_nil _).symm⟩
      next => cases h
  | deliver =>
    simp only [Sys.step] at h
    split at h
    next => cases h
    next =>
      cases Option.some.inj h
      exact idle rfl rfl
  | forget key =>
    cases Option.some.inj h
    exact idle rfl rfl
  | restart =>
    cases Option.some.inj h
    exact idle rfl rfl
  | run i fault env =>
    obtain ⟨op, hop, rfl⟩ := Option.map_eq_some_iff.mp h
    rcases Op.run_cases cfg env s.world fault op with ⟨id, t, _, call⟩ | ⟨_, rows, nextId, idemKeys, call⟩
    · rw [call]
      exact World.apply_published (t.run_addressed cfg env id s.world.service (s.world.rows id) fault)
    · rw [call]
      exact ⟨[], (List.append_nil _).symm, (List.append_nil _).symm⟩

end Steps

/-- Retries come back in the order in which they were published, whatever their delays: by a clock that does not
go back, none does before all that were published before it are due. -/
theorem retries_in_order {cfg : Config} {start : Int} {a : Transition.Logged Sys (RetryMessage × Int)}
    (run : (Sys.expiries cfg).Reach (fun a l => (Sys.expiries cfg).ticks a l = true) ⟨.initial, start, []⟩ a) :
    (a.log.map fun x => x.1.notificationId) ++ a.state.world.retryQueue.map (·.notificationId) =
        a.state.world.published ∧
      ∀ (i j : Nat) m now m' now', i ≤ j → a.log[i]? = some (m, now) → a.log[j]? = some (m', now') →
        m.deadline ≤ now' := by
  refine ⟨?_, fun i j m now m' now' before first second => ?_⟩
  · exact run.in_order (fun x => x.1.notificationId) (fun s => s.world.retryQueue.map (·.notificationId))
      (fun s => s.world.published) rfl fun s l s' step => Sys.step_in_order step
  · have due : ∀ x ∈ a.log, x.1.deadline ≤ x.2 := by
      refine run.entries (P := fun _ _ x => x.1.deadline ≤ x.2) rfl (fun b l c x _ _ step entry => ?_)
        fun _ _ _ _ _ _ _ kept => kept
      obtain ⟨step, _, _⟩ := Transition.Recorder.next_eq_some step
      cases l with
      | expire now =>
        have step : b.state.step cfg (.expire now) = some c.state := step
        simp only [Sys.step] at step
        split at step
        next => cases step
        next m rest waits =>
          split at step
          next due =>
            simp only [Sys.expiries, waits, List.head?_cons, Option.map_some, Option.some.injEq] at entry
            subst entry
            exact due
          next => cases step
      | _ => cases entry
    obtain ⟨_, sorted⟩ := run.stamped Prod.snd rfl (fun _ _ ticks => ticks) fun s l x entry => by
      cases l with
      | expire now =>
        obtain ⟨m, _, rfl⟩ := Option.map_eq_some_iff.mp entry
        rfl
      | _ => cases entry
    have own := due _ (List.mem_of_getElem? first)
    obtain ⟨hi, is⟩ := List.getElem?_eq_some_iff.mp first
    obtain ⟨hj, is'⟩ := List.getElem?_eq_some_iff.mp second
    rcases Nat.lt_or_eq_of_le before with earlier | rfl
    · have later := List.pairwise_iff_getElem.mp sorted i j hi hj earlier
      rw [is, is'] at later
      exact Int.le_trans own later
    · cases is.symm.trans is'
      exact own

/-- The first retry of an OTP expires five seconds after it was published. -/
theorem retries_in_order_firstRetry : ∃ a m,
    (Sys.expiries defaultConfig).Reach (fun a l => (Sys.expiries defaultConfig).ticks a l = true)
      ⟨.initial, 0, []⟩ a ∧
    a.log = [(m, 105000)] ∧ m.notificationId :: a.state.world.retryQueue.map (·.notificationId) =
      a.state.world.published ∧ m.deadline ≤ 105000 := by
  have ran : (Transition.trace (Sys.expiries defaultConfig).next (Sys.expiries defaultConfig).ticks
      ⟨.initial, 0, []⟩ (firstRetry ++ [.expire 105000])).map (fun a => a.log.map (·.2)) = some [105000] := by
    decide +kernel
  obtain ⟨a, reached, times⟩ := Option.map_eq_some_iff.mp ran
  obtain ⟨⟨m, now⟩, log, is⟩ := List.map_eq_singleton_iff.mp times
  have is : now = 105000 := is
  subst is
  have run : (Sys.expiries defaultConfig).Reach (fun a l => (Sys.expiries defaultConfig).ticks a l = true)
      ⟨.initial, 0, []⟩ a := Transition.trace_reach .start reached
  have first : a.log[0]? = some (m, 105000) := by rw [log]; rfl
  obtain ⟨order, due⟩ := retries_in_order run
  rw [log] at order
  exact ⟨a, m, run, log, order, due 0 0 m 105000 m 105000 le_rfl first first⟩

end NotificationEngine
