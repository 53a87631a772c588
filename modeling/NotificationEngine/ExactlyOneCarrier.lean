import NotificationEngine.NothingLost

namespace NotificationEngine

open Holders

def Task.isRetry : Task → Bool
  | retry _ => true
  | _ => false

/-- No manual retry, every call succeeds, and none of them lets go of the id. -/
def NoteLabel.Plain (cfg : Config) : NoteLabel → Prop
  | requested => False
  | dequeued lost => lost = false
  | inserted lost => lost = false
  | ran t fault env q => fault = .none ∧ t.letsGo cfg env q .none = false
  | _ => True

theorem Task.Goes.isRetry {cfg : Config} {env : Env} {q : QueueService} {db : Option Notification}
    {t u : Task} (h : t.Goes cfg env q db u) (other : t.isRetry = false) : u.isRetry = false := by
  cases h with
  | refused => cases other
  | accepted row unsent unqueued => cases other
  | reset => cases other
  | reloaded row => cases other
  | resent => cases other
  | _ => rfl

structure Note.Sole (n : Note) : Prop where
  single : n.Single
  kept : n.Kept
  others : ∀ t ∈ n.tasks, t.isRetry = false

theorem Task.resends_of_isRetry {t : Task} (h : t.isRetry = false) : t.resends = false := by
  cases t with
  | retry pc => cases h
  | _ => rfl

theorem Note.Sole.step {cfg : Config} {j : Nat} {n n' : Note} {e : NoteLabel} (sole : n.Sole)
    (plain : e.Plain cfg) (h : Note.Step cfg j n e n') : n'.Sole := by
  have infra : e.InfraOk := by
    cases e with
    | ran t fault env q => exact Or.inl plain.1
    | requested => trivial
    | _ => exact plain
  have alone : n.RetryAlone e := by
    cases h with
    | dequeued lost queued => exact fun t ht => Task.resends_of_isRetry (sole.others t ht)
    | ran t fault env q tasks =>
      have other := sole.others t (Note.mem_running tasks)
      cases t with
      | retry pc => cases other
      | _ => trivial
    | _ => trivial
  have careful : n.Careful cfg e := by
    cases e with
    | ran t fault env q =>
      obtain ⟨rfl, stays⟩ := plain
      intro lets
      rw [stays] at lets
      cases lets
    | dequeued lost =>
      cases (plain : lost = false)
      exact fun h => by cases h
    | inserted lost => exact plain
    | _ => trivial
  refine ⟨sole.single.step infra alone h, sole.kept.step careful h, fun u mem => ?_⟩
  rcases h.mem_tasks mem with there | start | ⟨t, fault, env, q, _, here, next⟩
  · exact sole.others u there
  · cases start with
    | requested => exact plain.elim
    | _ => rfl
  · exact (Task.run_goes next).isRetry (sole.others t here)

theorem Note.absent_sole : Note.absent.Sole :=
  ⟨Note.absent_single, Note.absent_kept, by simp [Note.absent]⟩

theorem Note.Sole.live_one {n : Note} (sole : n.Sole) (live : RowIs (·.Live) n.row) :
    n.carriers = 1 := by
  have one := sole.single.one
  suffices some : 0 < n.carriers by omega
  rw [Note.carriers]
  rcases sole.kept live with queued | waiting | ready | ⟨t, ht, secure⟩
  · rw [queued, Bool.toNat_true]
    omega
  · omega
  · omega
  · have carries : t.carries = true := by
      simpa [Task.holds, Task.resends_of_isRetry (sole.others t ht)] using Task.holds_of_secure secure
    have count : held Task.carries n.tasks ≠ 0 := by
      intro none
      rw [held_eq_zero.mp none t ht] at carries
      cases carries
    omega

theorem Note.Single.settled_none {n : Note} (single : n.Single) (settled : ¬RowIs (·.Live) n.row) :
    n.carriers = 0 := by
  obtain ⟨queued, waiting, ready⟩ := single.unparked settled
  have idle : ∀ t ∈ n.tasks, t.carries = false := by
    intro t ht
    by_contra carries
    exact settled ((single.coherent t ht).live (by simpa using carries))
  simp [Note.carriers, queued, waiting, ready, held_eq_zero.mpr idle]

theorem note_carriers (s : Sys) (j : Nat) : s.carriers j = (s.note j).carriers := by
  simp only [Sys.carriers, Note.carriers, Sys.note, held_filterMap]
  by_cases h : j ∈ s.world.queue <;> simp [h]

/-- Nobody asks for a manual retry, no call fails, and providers answer with defined error codes
or none. -/
def Sys.plain (s : Sys) : Label → Bool
  | .retryNotification _ => false
  | .dequeue fault => fault = .none
  | .restart => false
  | .run i fault env => fault = .none && match s.ops[i]? with
    | some (.task _ (.dispatch (.send _))) => env.result.success || env.result.code.isSome
    | _ => true
  | _ => true

/-- `publish_retry` finds no connection cached, or one whose `is_closed` can be called. -/
def Sys.reconnects (cfg : Config) (s : Sys) : Label → Bool
  | .run i _ _ => match s.ops[i]? with
    | some (.task _ (.dispatch (.refreshRetrying _))) =>
      s.world.service.rmqConnection.isNone || cfg.aioPika.isClosedIsMethod
    | _ => true
  | _ => true

theorem seen_plain {cfg : Config} {s : Sys} {l : Label} {j : Nat} {e : NoteLabel}
    (plain : s.plain l = true) (reconnects : s.reconnects cfg l = true) (seen : s.Seen j l e) :
    e.Plain cfg := by
  cases seen with
  | requested => cases plain
  | popped _ => rfl
  | popLost _ fault _ => exact absurd (of_decide_eq_true plain) fault
  | inserted _ _ => rfl
  | insertLost _ _ _ fault _ => simp [Sys.plain, fault] at plain
  | @ran i fault env op t hop ht =>
    simp only [Sys.plain, Bool.and_eq_true, decide_eq_true_eq, hop] at plain
    obtain ⟨rfl, defined⟩ := plain
    refine ⟨rfl, ?_⟩
    rcases taskOf_eq_some ht with rfl | ⟨_, pc, _, _, _, rfl⟩
    · rcases t with pc | pc | pc | pc
      · cases pc with
        | send n =>
          rcases Bool.or_eq_true_iff.mp defined with success | code
          · simp [Task.letsGo, success]
          · simp [Task.letsGo, Option.isNone_eq_false_iff.mpr code]
        | refreshRetrying delay =>
          simp only [Sys.reconnects, hop, Bool.or_eq_true] at reconnects
          rcases reconnects with none | callable
          · simp [Task.letsGo, Option.isNone_iff_eq_none.mp none]
          · simp [Task.letsGo, callable]
        | _ => simp [Task.letsGo]
      · simp [Task.letsGo]
      · simp [Task.letsGo]
      · simp [Task.letsGo]
    · simp [Task.letsGo]
  | _ => trivial

/-- While every retry can be published, each live row has exactly one carrier, and a row that is
SENT or FAILED has none. -/
theorem exactly_one_carrier {cfg : Config} {s : Sys} {id : Nat} {r : Notification}
    (run : Sys.Reach cfg (fun s l => (s.plain l && s.reconnects cfg l) = true) .initial s)
    (row : s.world.rows id = some r) :
    (r.status.Live → s.carriers id = 1) ∧ (¬r.status.Live → s.carriers id = 0) := by
  have life : Transition.Reach (Note.Step cfg id) (fun _ e => e.Plain cfg) .absent (s.note id) := by
    refine note_reach (fun s l e ok seen => ?_) run
    rw [Bool.and_eq_true] at ok
    exact seen_plain ok.1 ok.2 seen
  have sole : (s.note id).Sole :=
    life.invariant Note.absent_sole fun n e n' sole plain step => sole.step plain step
  rw [note_carriers]
  refine ⟨fun live => sole.live_one ⟨r, row, live⟩, fun settled => sole.single.settled_none ?_⟩
  rintro ⟨r', row', live⟩
  cases row.symm.trans row'
  exact settled live

/-- One dispatch by an unhealthy provider, its retry, and the same again. -/
def onceRetried : List Label :=
  [.createNotification otpRequest] ++ calls 0 5 (accepting true) ++ [.dequeue .none] ++
    calls 1 10 (accepting false)

theorem exactly_one_carrier_onceRetried : ∃ s r,
    Sys.Reach defaultConfig (fun s l => (s.plain l && s.reconnects defaultConfig l) = true) .initial s ∧
      s.world.rows 1 = some r ∧ r.status = .retrying ∧ s.carriers 1 = 1 := by
  have ran : ((Transition.trace (Sys.step defaultConfig)
      (fun s l => s.plain l && s.reconnects defaultConfig l) .initial onceRetried).bind
        fun s => (s.world.rows 1).map (·.status)) = some .retrying := by decide +kernel
  obtain ⟨s, hs, ran⟩ := Option.bind_eq_some_iff.mp ran
  obtain ⟨r, row, retrying⟩ := Option.map_eq_some_iff.mp ran
  have run := Transition.trace_reach Transition.Reach.start hs
  have live : r.status.Live := by rw [retrying]; trivial
  exact ⟨s, r, run, row, retrying, (exactly_one_carrier run row).1 live⟩

/-- The second retry finds the connection of the first one cached, cannot ask whether it is
closed, and leaves the row RETRYING with no carrier. -/
theorem no_carrier_after_second_retry : ∃ s r,
    Sys.Reach defaultConfig (fun s l => s.plain l = true) .initial s ∧ s.world.rows 1 = some r ∧
      r.status.Live ∧ ¬s.carriers 1 = 1 := by
  have ran : ((Transition.trace (Sys.step defaultConfig) Sys.plain .initial
      (onceRetried ++ [.expire 1000000, .deliver] ++ calls 2 3 (accepting true) ++ [.dequeue .none] ++
        calls 3 6 (accepting false))).bind fun s =>
          (s.world.rows 1).map fun r => (r.status, s.carriers 1)) = some (.retrying, 0) := by
    decide +kernel
  obtain ⟨s, hs, ran⟩ := Option.bind_eq_some_iff.mp ran
  obtain ⟨r, row, facts⟩ := Option.map_eq_some_iff.mp ran
  obtain ⟨retrying, none⟩ := Prod.mk.inj facts
  refine ⟨s, r, Transition.trace_reach Transition.Reach.start hs, row, ?_, ?_⟩
  · rw [retrying]
    trivial
  · rw [none]
    decide

end NotificationEngine
