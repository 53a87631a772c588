import NotificationEngine.Erasure
import NotificationEngine.Sightings
import NotificationEngine.ChannelLoop

namespace NotificationEngine

open Holders

/-- The sub-run of one notification beside a run of the service: which operations are its own, in
the order they started, its labels, and the `QueueService` its calls alone leave behind. -/
structure Shadow where
  own : List Nat
  labels : List Label
  service : QueueService

def Shadow.start (w : World) : Shadow := ⟨[], [], w.service⟩

/-- An operation of notification `j` starts. -/
def NoteLabel.starts : NoteLabel → Bool
  | requested => true
  | dequeued lost => !lost
  | delivered => true
  | _ => false

/-- The sub-run of `j` repeats a step that concerns `j`; an operation that starts is its next. -/
def Shadow.heed (j : Nat) (s : Sys) (g : Shadow) (l : Label) : Shadow :=
  match s.seenAs j l with
  | none => g
  | some e => { g with
      own := if e.starts then g.own ++ [s.ops.length] else g.own
      labels := g.labels ++ [l] }

/-- The sub-run of `j` repeats every step that concerns `j`, with the same answers, and the restart
of the process. Its operations are numbered anew. -/
def Shadow.follow (cfg : Config) (j : Nat) (s : Sys) (g : Shadow) : Label → Shadow
  | .restart => { g with labels := g.labels ++ [.restart], service := .fresh }
  | .run i fault env => match s.ops[i]? with
    | some (.task id t) =>
      if id = j then { g with
        labels := g.labels ++ [.run (g.own.idxOf i) fault env]
        service := (t.run cfg env j g.service (s.world.rows j) fault).service }
      else g
    | _ => g
  | l => g.heed j s l

/-- A step of the service with the sub-run of `j` beside it. -/
def Sys.shadowed (cfg : Config) (j : Nat) (a : Sys × Shadow) (l : Label) : Option (Sys × Shadow) :=
  (a.1.step cfg l).map fun s => (s, a.2.follow cfg j a.1 l)

/-- The runs of a shadowed service from the stored notifications of `w`. -/
abbrev Sys.ShadowedReach (cfg : Config) (j : Nat) (w : World) (ok : Sys × Shadow → Label → Prop)
    (a : Sys × Shadow) : Prop :=
  Transition.Reach (fun a l b => Sys.shadowed cfg j a l = some b) ok (⟨w, []⟩, .start w) a

/-- No notification is created. -/
def Label.onStored : Label → Bool
  | createNotification _ => false
  | _ => true

/-- Whenever a `publish_retry` for `j` begins, `get_rabbitmq_channel` goes the same way with the
shared `QueueService` as with one that only the calls for `j` have used. -/
def Sys.alike (cfg : Config) (j : Nat) (a : Sys × Shadow) : Label → Bool
  | .run i .none _ => match a.1.ops[i]? with
    | some (.task id (.dispatch (.refreshRetrying _))) =>
      id ≠ j || decide (SameWay cfg.aioPika a.1.world.service a.2.service)
    | _ => true
  | _ => true

/-- The step is one of notification `j`, or the restart of the process. -/
def Sys.concerns (j : Nat) (s : Sys) : Label → Bool
  | .restart => true
  | l => (s.seenAs j l).isSome

/-- Both states hold the same row `j`, the same membership of `j` in the sorted set and the same
retry and dead-letter messages for `j`. -/
structure Sys.AgreeOn (j : Nat) (s t : Sys) : Prop where
  row : t.world.rows j = s.world.rows j
  queued : j ∈ t.world.queue ↔ j ∈ s.world.queue
  waiting : t.world.retryQueue = s.world.retryQueue.filter fun m => m.notificationId = j
  ready : t.world.retryResult = s.world.retryResult.filter fun i => i = j
  deadLetters : t.world.deadLetters = s.world.deadLetters.filter fun m => m.notificationId = j

/-- The sub-run is a run from the initial row `j`, without any other notification, and ends as the
whole run does for `j`. -/
def Shadow.Replays (cfg : Config) (j : Nat) (w : World) (s : Sys) (g : Shadow) : Prop :=
  ∃ t, Transition.trace (Sys.step cfg) (Sys.concerns j) ⟨w.only j w.service, []⟩ g.labels = some t ∧
    t.world.service = g.service ∧ s.AgreeOn j t

/-- The operations are tasks of stored notifications, and `own` numbers those of `j`. -/
structure Owns (j : Nat) (ops : List Op) (own : List Nat) : Prop where
  nodup : own.Nodup
  within : ∀ i ∈ own, i < ops.length
  tasks : ∀ (i : Nat) op, ops[i]? = some op → op = .done ∨ ∃ id t, op = .task id t ∧ (i ∈ own ↔ id = j)

section Own

variable {j id : Nat} {ops : List Op} {own : List Nat}

theorem Owns.append_own (owns : Owns j ops own) (t : Task) :
    Owns j (ops ++ [.task j t]) (own ++ [ops.length]) := by
  have new : ops.length ∉ own := fun mem => Nat.lt_irrefl _ (owns.within _ mem)
  refine ⟨?_, ?_, ?_⟩
  · exact List.nodup_append.mpr ⟨owns.nodup, List.nodup_singleton _, fun a mem b last => by
      rw [List.mem_singleton.mp last]
      exact fun same => new (same ▸ mem)⟩
  · intro i mem
    rw [List.length_append, List.length_singleton]
    rcases List.mem_append.mp mem with old | last
    · exact Nat.lt_succ_of_lt (owns.within i old)
    · rw [List.mem_singleton.mp last]
      exact Nat.lt_succ_self _
  · intro i op at_i
    by_cases old : i < ops.length
    · rw [List.getElem?_append_left old] at at_i
      have kept : i ∈ own ++ [ops.length] ↔ i ∈ own := by simp [Nat.ne_of_lt old]
      rw [kept]
      exact owns.tasks i op at_i
    · obtain ⟨rfl, rfl⟩ : i = ops.length ∧ op = .task j t := by
        rw [List.getElem?_append_right (Nat.le_of_not_lt old)] at at_i
        have zero : i - ops.length = 0 := by
          by_contra more
          rw [List.getElem?_singleton, if_neg more] at at_i
          cases at_i
        rw [zero] at at_i
        exact ⟨by omega, (Option.some.inj at_i).symm⟩
      exact Or.inr ⟨j, t, rfl, by simp⟩

theorem Owns.append_other (owns : Owns j ops own) (t : Task) (ne : id ≠ j) :
    Owns j (ops ++ [.task id t]) own := by
  refine ⟨owns.nodup, ?_, ?_⟩
  · intro i mem
    rw [List.length_append]
    exact Nat.lt_add_right _ (owns.within i mem)
  · intro i op at_i
    by_cases old : i < ops.length
    · rw [List.getElem?_append_left old] at at_i
      exact owns.tasks i op at_i
    · have new : i ∉ own := fun mem => old (owns.within i mem)
      have last : op = .task id t := by
        have mem := List.mem_of_getElem? at_i
        rw [List.getElem?_append_right (Nat.le_of_not_lt old)] at at_i
        exact List.mem_singleton.mp (List.mem_of_getElem? at_i)
      exact Or.inr ⟨id, t, last, ⟨fun mem => absurd mem new, fun same => absurd same ne⟩⟩

theorem Owns.set (owns : Owns j ops own) {i : Nat} {t : Task} (at_i : ops[i]? = some (.task id t))
    (next : Option Task) : Owns j (ops.set i (.ofNext id next)) own := by
  refine ⟨owns.nodup, fun k mem => ?_, fun k op at_k => ?_⟩
  · rw [List.length_set]
    exact owns.within k mem
  · by_cases here : i = k
    · subst here
      obtain ⟨within, _⟩ := List.getElem?_eq_some_iff.mp at_i
      rw [List.getElem?_set_self within] at at_k
      obtain rfl := Option.some.inj at_k
      cases next with
      | none => exact Or.inl rfl
      | some u =>
        rcases owns.tasks i _ at_i with done | ⟨id', t', same, mine⟩
        · cases done
        · cases same
          exact Or.inr ⟨id, u, rfl, mine⟩
    · rw [List.getElem?_set_ne here] at at_k
      exact owns.tasks k op at_k

theorem Owns.mem_iff (owns : Owns j ops own) {i : Nat} {t : Task} (at_i : ops[i]? = some (.task id t)) :
    i ∈ own ↔ id = j := by
  rcases owns.tasks i _ at_i with done | ⟨id', t', same, mine⟩
  · cases done
  · cases same
    exact mine

end Own

/-- The state of the sub-run beside the state `s` of the whole run. -/
def Shadow.sys (j : Nat) (s : Sys) (g : Shadow) : Sys :=
  ⟨s.world.only j g.service, pick .done s.ops g.own⟩

structure Shadow.Tracks (cfg : Config) (j : Nat) (w : World) (s : Sys) (g : Shadow) : Prop where
  owns : Owns j s.ops g.own
  ran : Transition.trace (Sys.step cfg) (Sys.concerns j) ⟨w.only j w.service, []⟩ g.labels =
    some (g.sys j s)

section Steps

variable {cfg : Config} {j : Nat} {w : World} {s s' : Sys} {g : Shadow}

theorem heed_none {l : Label} (unseen : s.seenAs j l = none) : g.heed j s l = g := by
  simp only [Shadow.heed, unseen]

theorem heed_some {l : Label} {e : NoteLabel} (seen : s.seenAs j l = some e) :
    g.heed j s l = { g with
      own := if e.starts then g.own ++ [s.ops.length] else g.own
      labels := g.labels ++ [l] } := by
  simp only [Shadow.heed, seen]

/-- The sub-run does not move where the whole run leaves nothing new for `j`. -/
theorem Shadow.Tracks.skip (tracks : g.Tracks cfg j w s) (owns : Owns j s'.ops g.own)
    (same : g.sys j s' = g.sys j s) : g.Tracks cfg j w s' :=
  ⟨owns, same ▸ tracks.ran⟩

theorem Shadow.Tracks.keep (tracks : g.Tracks cfg j w s) {g' : Shadow} {l : Label}
    (owns : Owns j s'.ops g'.own) (labels : g'.labels = g.labels ++ [l])
    (concerns : (g.sys j s).concerns j l = true) (next : (g.sys j s).step cfg l = some (g'.sys j s')) :
    g'.Tracks cfg j w s' :=
  ⟨owns, labels ▸ Transition.trace_snoc tracks.ran concerns next⟩

theorem Shadow.Tracks.start_own (tracks : g.Tracks cfg j w s) {l : Label} {e : NoteLabel} {v : World}
    {t : Task} (seen : s.seenAs j l = some e) (starts : e.starts = true)
    (concerns : (g.sys j s).concerns j l = true)
    (next : (g.sys j s).step cfg l = some ⟨v.only j g.service, (g.sys j s).ops ++ [.task j t]⟩) :
    (g.heed j s l).Tracks cfg j w ⟨v, s.ops ++ [.task j t]⟩ := by
  rw [heed_some seen]
  simp only [starts, if_true]
  refine tracks.keep (tracks.owns.append_own t) rfl concerns ?_
  rw [next]
  simp only [Shadow.sys, pick_last tracks.owns.within]

theorem Shadow.Tracks.start_other (tracks : g.Tracks cfg j w s) {l : Label} {id : Nat} {v : World}
    (t : Task) (unseen : s.seenAs j l = none) (ne : id ≠ j)
    (same : v.only j g.service = s.world.only j g.service) :
    (g.heed j s l).Tracks cfg j w ⟨v, s.ops ++ [.task id t]⟩ := by
  rw [heed_none unseen]
  refine tracks.skip (tracks.owns.append_other t ne) ?_
  simp only [Shadow.sys, same, pick_append tracks.owns.within]

theorem Shadow.Tracks.stay_own (tracks : g.Tracks cfg j w s) {l : Label} {e : NoteLabel} {v : World}
    (seen : s.seenAs j l = some e) (starts : e.starts = false)
    (concerns : (g.sys j s).concerns j l = true)
    (next : (g.sys j s).step cfg l = some ⟨v.only j g.service, (g.sys j s).ops⟩) :
    (g.heed j s l).Tracks cfg j w ⟨v, s.ops⟩ := by
  rw [heed_some seen]
  simp only [starts, Bool.false_eq_true, if_false]
  exact tracks.keep tracks.owns rfl concerns next

theorem Shadow.Tracks.stay_other (tracks : g.Tracks cfg j w s) {l : Label} {v : World}
    (unseen : s.seenAs j l = none) (same : v.only j g.service = s.world.only j g.service) :
    (g.heed j s l).Tracks cfg j w ⟨v, s.ops⟩ := by
  rw [heed_none unseen]
  refine tracks.skip tracks.owns ?_
  simp only [Shadow.sys, same]

theorem tracks_retry (tracks : g.Tracks cfg j w s) (id : Nat) :
    (g.heed j s (.retryNotification id)).Tracks cfg j w
      ⟨s.world, s.ops ++ [.task id (.retry .select)]⟩ := by
  by_cases own : id = j
  · subst own
    refine tracks.start_own (e := .requested) ?_ rfl ?_ rfl
    · simp [Sys.seenAs]
    · simp [Sys.concerns, Sys.seenAs]
  · exact tracks.start_other _ (by simp [Sys.seenAs, own]) own rfl

/-- Popping another id leaves the entry of `j`, and a pop of `j` is one without the others. -/
theorem tracks_dequeue (tracks : g.Tracks cfg j w s) (fault : Fault)
    (h : s.step cfg (.dequeue fault) = some s') :
    (g.heed j s (.dequeue fault)).Tracks cfg j w s' := by
  cases popped : s.world.queue.popMin memberKey with
  | none =>
    simp only [Sys.step, popped, Option.some.injEq] at h
    subst h
    exact tracks.stay_other (by simp [Sys.seenAs, popped]) rfl
  | some found =>
    obtain ⟨id, queue⟩ := found
    simp only [Sys.step, popped] at h
    by_cases own : id = j
    · subst own
      have alone : (g.sys id s).world.queue.popMin memberKey =
          some (id, queue.restrict fun i => i = id) :=
        SortedSet.popMin_restrict memberKey_inj popped (decide_eq_true rfl)
      by_cases heard : fault = .none
      · subst heard
        simp only [if_true, Option.some.injEq] at h
        subst h
        refine tracks.start_own (e := .dequeued false) ?_ rfl ?_ ?_
        · simp [Sys.seenAs, popped, Fault.effect]
        · simp [Sys.concerns, Sys.seenAs, alone, Fault.effect]
        · simp only [Sys.step, alone, if_true]
          rfl
      · simp only [heard, if_false, Option.some.injEq] at h
        subst h
        cases lost : fault.effect with
        | false => exact tracks.stay_other (by simp [Sys.seenAs, popped, lost]) rfl
        | true =>
          refine tracks.stay_own (e := .dequeued true) ?_ rfl ?_ ?_
          · simp [Sys.seenAs, popped, lost, heard]
          · simp [Sys.concerns, Sys.seenAs, alone, lost]
          · simp only [Sys.step, alone, heard, lost, if_true, if_false]
            rfl
    · have unseen : s.seenAs j (.dequeue fault) = none := by simp [Sys.seenAs, popped, own]
      have same : World.only j g.service { s.world with queue := queue } =
          s.world.only j g.service := by
        have queues : queue.restrict (fun i => i = j) = s.world.queue.restrict fun i => i = j :=
          SortedSet.popMin_restrict_other popped (decide_eq_false own)
        simp only [World.only, queues]
      by_cases heard : fault = .none
      · simp only [heard, if_true, Option.some.injEq] at h
        subst h
        exact tracks.start_other _ unseen own same
      · simp only [heard, if_false, Option.some.injEq] at h
        subst h
        split
        next => exact tracks.stay_other unseen same
        next => exact tracks.stay_other unseen rfl

theorem tracks_expire (tracks : g.Tracks cfg j w s) (now : Int)
    (h : s.step cfg (.expire now) = some s') : (g.heed j s (.expire now)).Tracks cfg j w s' := by
  cases waiting : s.world.retryQueue with
  | nil => simp [Sys.step, waiting] at h
  | cons m rest =>
    simp only [Sys.step, waiting] at h
    split at h
    next due =>
      obtain rfl := Option.some.inj h
      by_cases own : m.notificationId = j
      · have alone : (g.sys j s).world.retryQueue =
            m :: rest.filter fun m => m.notificationId = j := by
          simp [Shadow.sys, World.only, waiting, own]
        refine tracks.stay_own (e := .expired) ?_ rfl ?_ ?_
        · simp [Sys.seenAs, waiting, own]
        · simp [Sys.concerns, Sys.seenAs, alone, own]
        · simp only [Sys.step, alone, due, if_true]
          simp [Shadow.sys, World.only, own]
      · refine tracks.stay_other ?_ ?_
        · simp [Sys.seenAs, waiting, own]
        · simp [World.only, waiting, own]
    next => cases h

theorem tracks_deliver (tracks : g.Tracks cfg j w s) (h : s.step cfg .deliver = some s') :
    (g.heed j s .deliver).Tracks cfg j w s' := by
  cases ready : s.world.retryResult with
  | nil => simp [Sys.step, ready] at h
  | cons id rest =>
    simp only [Sys.step, ready, Option.some.injEq] at h
    subst h
    by_cases own : id = j
    · subst own
      have alone : (g.sys id s).world.retryResult = id :: rest.filter fun i => i = id := by
        simp [Shadow.sys, World.only, ready]
      refine tracks.start_own (e := .delivered) ?_ rfl ?_ ?_
      · simp [Sys.seenAs, ready]
      · simp [Sys.concerns, Sys.seenAs, alone]
      · simp only [Sys.step, alone]
        rfl
    · refine tracks.start_other _ ?_ own ?_
      · simp [Sys.seenAs, ready, own]
      · simp [World.only, ready, own]

/-- A call of another notification's task leaves `j` alone, and one of `j`'s tasks does the same
among its own. -/
theorem tracks_run (tracks : g.Tracks cfg j w s) (i : Nat) (fault : Fault) (env : Env)
    (alike : Sys.alike cfg j (s, g) (.run i fault env) = true)
    (h : s.step cfg (.run i fault env) = some s') :
    (g.follow cfg j s (.run i fault env)).Tracks cfg j w s' := by
  obtain ⟨op, at_i, rfl⟩ := Option.map_eq_some_iff.mp h
  rcases tracks.owns.tasks i op at_i with rfl | ⟨id, t, rfl, mine⟩
  · have idle : s.ops.set i .done = s.ops := by
      obtain ⟨within, is⟩ := List.getElem?_eq_some_iff.mp at_i
      rw [← is, List.set_getElem_self]
    have unmoved : g.follow cfg j s (.run i fault env) = g := by simp only [Shadow.follow, at_i]
    rw [unmoved]
    simp only [Op.run, idle]
    exact tracks
  · have owns := tracks.owns.set at_i (t.run cfg env id s.world.service (s.world.rows id) fault).next
    have addressed := t.run_addressed cfg env id s.world.service (s.world.rows id) fault
    by_cases own : id = j
    · subst own
      have mem : i ∈ g.own := mine.mpr rfl
      have at_view : (g.sys id s).ops[g.own.idxOf i]? = some (.task id t) := pick_idxOf mem at_i
      have same : t.run cfg env id g.service (s.world.rows id) fault =
          { t.run cfg env id s.world.service (s.world.rows id) fault with
            service := (t.run cfg env id g.service (s.world.rows id) fault).service } := by
        refine Task.run_service fun heard delay is => ?_
        subst heard is
        simpa [Sys.alike, at_i] using alike
      have follows : g.follow cfg id s (.run i fault env) = { g with
          labels := g.labels ++ [.run (g.own.idxOf i) fault env]
          service := (t.run cfg env id g.service (s.world.rows id) fault).service } := by
        simp only [Shadow.follow, at_i, if_true]
      rw [follows]
      refine tracks.keep owns rfl ?_ ?_
      · simp [Sys.concerns, Sys.seenAs, at_view, Op.taskOf]
      · have row : (g.sys id s).world.rows id = s.world.rows id := if_pos rfl
        have ran : (g.sys id s).step cfg (.run (g.own.idxOf i) fault env) =
            some ⟨(g.sys id s).world.apply id (t.run cfg env id g.service (s.world.rows id) fault),
              (g.sys id s).ops.set (g.own.idxOf i)
                (.ofNext id (t.run cfg env id g.service (s.world.rows id) fault).next)⟩ := by
          simp only [Sys.step, at_view, Option.map_some, Op.run, row]
          rfl
        obtain ⟨within, _⟩ := List.getElem?_eq_some_iff.mp at_i
        have next := congrArg Outcome.next same
        have world := (only_apply_own addressed).trans
          (congrArg ((s.world.only id g.service).apply id) same.symm)
        rw [ran, next]
        simp only [Shadow.sys, Op.run, world, pick_set tracks.owns.nodup mem within]
    · have follows : g.follow cfg j s (.run i fault env) = g := by
        simp only [Shadow.follow, at_i, own, if_false]
      rw [follows]
      refine tracks.skip owns ?_
      have other : i ∉ g.own := fun mem => own (mine.mp mem)
      simp only [Shadow.sys, Op.run, only_apply_other addressed own, pick_set_other other]

theorem Shadow.Tracks.step (tracks : g.Tracks cfg j w s) {l : Label} (stored : l.onStored = true)
    (alike : Sys.alike cfg j (s, g) l = true) (h : s.step cfg l = some s') :
    (g.follow cfg j s l).Tracks cfg j w s' := by
  cases l with
  | createNotification payload => cases stored
  | retryNotification id =>
    obtain rfl := Option.some.inj h
    exact tracks_retry tracks id
  | dequeue fault => exact tracks_dequeue tracks fault h
  | expire now => exact tracks_expire tracks now h
  | deliver => exact tracks_deliver tracks h
  | forget key =>
    obtain rfl := Option.some.inj h
    have unseen : s.seenAs j (.forget key) = none := rfl
    exact tracks.stay_other unseen rfl
  | restart =>
    obtain rfl := Option.some.inj h
    exact tracks.keep tracks.owns rfl rfl rfl
  | run i fault env => exact tracks_run tracks i fault env alike h

theorem tracks_start : (Shadow.start w).Tracks cfg j w ⟨w, []⟩ where
  owns := ⟨List.nodup_nil, fun _ mem => absurd mem List.not_mem_nil, fun _ _ at_i => by simp at at_i⟩
  ran := rfl

theorem tracks_reach {a : Sys × Shadow} (run : Sys.ShadowedReach cfg j w
      (fun a l => (l.onStored && Sys.alike cfg j a l) = true) a) : a.2.Tracks cfg j w a.1 := by
  induction run with
  | start => exact tracks_start
  | next _ ok next ih =>
    obtain ⟨s', step, rfl⟩ := Option.map_eq_some_iff.mp next
    obtain ⟨stored, alike⟩ := Bool.and_eq_true_iff.mp ok
    exact ih.step stored alike step

end Steps

/-- As long as no other notification decides what `get_rabbitmq_channel` does for `j`, the steps of
`j` are a run of their own, with the same row, queue membership and messages for `j`. -/
theorem isolated_if_alike (cfg : Config) (j : Nat) (w : World) {s : Sys} {g : Shadow}
    (run : Sys.ShadowedReach cfg j w (fun a l => (l.onStored && Sys.alike cfg j a l) = true) (s, g)) :
    g.Replays cfg j w s := by
  have tracks : g.Tracks cfg j w s := tracks_reach run
  refine ⟨g.sys j s, tracks.ran, rfl, ?_⟩
  exact {
    row := if_pos rfl
    queued := by simp [Shadow.sys, World.only]
    waiting := rfl
    ready := rfl
    deadLetters := rfl }

/-- A delayed shipment is told by email, as notification 1, and by SMS, as notification 2. -/
def delayedShipment : NotificationCreate where
  idempotencyKey := "delay-1"
  sourceService := .shipping
  eventType := .shipmentDelayed
  priority := .medium
  recipient := ⟨some "a@example.com", some "+4915112345678", none⟩
  content := [("email", .dict [("body", .str "late")]), ("sms", .dict [("body", .str "late")])]
  hasRecipient := by simp [eventChannelMap, RecipientInfo.fieldFor]
  hasContent := by decide

def delayedStored : World :=
  (((World.initial.insert (delayedShipment.row .email 0)).insert
    (delayedShipment.row .sms 0)).enqueue 1 0).enqueue 2 1

/-- The email is retried, the SMS loses its own retry to the cached connection and drops it, and so
the email is retried again. -/
def crossed : List Label :=
  [.dequeue .none] ++ calls 0 10 (accepting false) ++ [.dequeue .none] ++ calls 1 6 (accepting false) ++
    [.expire 100000000, .deliver] ++ calls 2 3 (accepting false) ++ [.dequeue .none] ++
    calls 3 10 (accepting false)

/-- Without the SMS the second retry of the email meets its own cached connection and is lost. -/
theorem isolation_broken : ∃ s g,
    Sys.ShadowedReach defaultConfig 1 delayedStored (fun _ l => l.onStored = true) (s, g) ∧
      ¬g.Replays defaultConfig 1 delayedStored s ∧
      s.world.retryQueue.length = 1 ∧
      (Transition.trace (Sys.step defaultConfig) (fun _ _ => true)
        ⟨delayedStored.only 1 delayedStored.service, []⟩ g.labels).map (fun t => t.world.retryQueue) =
          some [] := by
  have ran : (Transition.trace (Sys.shadowed defaultConfig 1) (fun _ l => l.onStored)
      (⟨delayedStored, []⟩, .start delayedStored) crossed).map (fun a => decide (
        (Transition.trace (Sys.step defaultConfig) (Sys.concerns 1)
          ⟨delayedStored.only 1 delayedStored.service, []⟩ a.2.labels).isNone = true ∧
        a.1.world.retryQueue.length = 1 ∧
        (Transition.trace (Sys.step defaultConfig) (fun _ _ => true)
          ⟨delayedStored.only 1 delayedStored.service, []⟩ a.2.labels).map
            (fun t => t.world.retryQueue) = some [])) = some true := by decide +kernel
  obtain ⟨⟨s, g⟩, hs, facts⟩ := Option.map_eq_some_iff.mp ran
  obtain ⟨stuck, retried, lost⟩ := of_decide_eq_true facts
  refine ⟨s, g, Transition.trace_reach .start hs, ?_, retried, lost⟩
  rintro ⟨t, runs, _⟩
  rw [Option.isNone_iff_eq_none.mp stuck] at runs
  cases runs

/-- The email is retried while the SMS is sent. -/
theorem isolated_email : ∃ (s : Sys) (g : Shadow), g.Replays defaultConfig 1 delayedStored s ∧
    s.world.retryResult = [] ∧ 1 ∈ s.world.queue ∧ g.labels.length = 16 := by
  have ran : (Transition.trace (Sys.shadowed defaultConfig 1)
      (fun a l => l.onStored && Sys.alike defaultConfig 1 a l)
      (⟨delayedStored, []⟩, .start delayedStored)
      ([.dequeue .none] ++ calls 0 10 (accepting false) ++ [.dequeue .none] ++
        calls 1 7 (accepting true) ++ [.expire 100000000, .deliver] ++
        calls 2 3 (accepting false))).map (fun a => decide (
          a.1.world.retryResult = [] ∧ 1 ∈ a.1.world.queue ∧ a.2.labels.length = 16)) =
      some true := by decide +kernel
  obtain ⟨⟨s, g⟩, hs, facts⟩ := Option.map_eq_some_iff.mp ran
  obtain ⟨ready, queued, steps⟩ := of_decide_eq_true facts
  exact ⟨s, g, isolated_if_alike defaultConfig 1 delayedStored (Transition.trace_reach .start hs),
    ready, queued, steps⟩

end NotificationEngine
