import NotificationEngine.RetryBudget
import NotificationEngine.WiredRuns

namespace NotificationEngine

open Amqp

/-- A retry expires only after a handler has started. -/
def Wired.returns (w : Wired) : WiredLabel → Bool
  | .moves (.expire _) => returning ∈ w.broker.topology.bindings
  | _ => true

section Steps

variable {cfg : Config} {env : Env} {fault : Fault} {w w' : Wired} {s : Sys} {l : WiredLabel}

theorem toString_key (id : Nat) : (toString id).toList = memberKey id := Nat.toList_repr

/-- What is put at the broker beside the queues of notifications is not seen. -/
theorem Wired.Represents.carried (rep : w.Represents s) {b : Broker MessageBody}
    (carried : Carried w.broker b none none) (clients : List (List (Request MessageBody))) :
    ({ w with broker := b, clients } : Wired).Represents s := by
  refine ⟨rep.world, rep.ops, rep.members, ?_, ?_, ?_⟩
  · exact (carried.retries.trans (List.append_nil _)).trans rep.retries
  · exact carried.results.trans rep.results
  · exact (carried.letters.trans (List.append_nil _)).trans rep.letters

theorem Wired.Represents.dequeue (rep : w.Represents s) (h : w.step cfg (.moves (.dequeue fault)) = some w') :
    ∃ s', s.step cfg (.dequeue fault) = some s' ∧ w'.Represents s' := by
  have popped := rep.members.popMin toString_key
  simp only [Wired.step] at h
  cases first : s.world.queue.popMin memberKey with
  | none =>
    rw [first] at popped
    rw [show w.members.popMin String.toList = none from popped] at h
    cases Option.some.inj h
    exact ⟨s, by rw [Sys.step, first], rep⟩
  | some found =>
    obtain ⟨id, queue⟩ := found
    obtain ⟨rfl, _⟩ := SortedSet.popMin_first first
    rw [first] at popped
    rw [show w.members.popMin String.toList =
      some (toString id, w.members.remove (toString id)) from popped] at h
    have left := rep.members.remove toString_inj id
    dsimp only at h
    by_cases answered : fault = .none
    · rw [if_pos answered, readInt_toString] at h
      cases Option.some.inj h
      refine ⟨⟨{ s.world with queue := s.world.queue.remove id }, s.ops ++ [.task id (.dispatch .select)]⟩, ?_, ?_⟩
      · rw [Sys.step, first]
        exact if_pos answered
      · exact ⟨rep.world, by rw [← rep.ops]; rfl, left, rep.retries, rep.results, rep.letters⟩
    · rw [if_neg answered] at h
      cases Option.some.inj h
      refine ⟨if fault.effect then { s with world := { s.world with queue := s.world.queue.remove id } } else s,
        ?_, ?_⟩
      · rw [Sys.step, first]
        exact if_neg answered
      · cases fault.effect with
        | true => exact ⟨rep.world, rep.ops, left, rep.retries, rep.results, rep.letters⟩
        | false => exact rep

theorem Wired.Represents.expire (planned : w.Planned) (rep : w.Represents s) {now : Int}
    (bound : returning ∈ w.broker.topology.bindings) (h : w.step cfg (.moves (.expire now)) = some w') :
    ∃ s', s.step cfg (.expire now) = some s' ∧ w'.Represents s' := by
  obtain ⟨b, expired, rfl⟩ := Option.map_eq_some_iff.mp h
  obtain ⟨l, rest, deadline, is, own, due, rfl⟩ := Broker.expire_eq_some expired
  have declared : (w.broker.topology.queues retryQueue).isSome = true :=
    planned.declared (Or.inr (by rw [is]; exact List.cons_ne_nil _ _))
  rw [retry_expiresTo planned.within planned.sound declared, if_pos bound]
  rw [rep.retries] at is
  obtain ⟨m, ms, retries, rfl, rfl⟩ := List.map_eq_cons_iff.mp is
  cases Option.some.inj own
  refine ⟨⟨{ s.world with retryQueue := ms, retryResult := s.world.retryResult ++ [m.notificationId] }, s.ops⟩,
    ?_, rep.world, rep.ops, rep.members, ?_, ?_, ?_⟩
  · rw [Sys.step, retries]
    exact if_pos due
  · rw [Broker.put_other _ (by decide), Broker.leave_self]
  · rw [Broker.put_self, Broker.leave_other _ (by decide), rep.results, List.map_append]
    rfl
  · rw [Broker.put_other _ (by decide), Broker.leave_other _ (by decide)]
    exact rep.letters

theorem Wired.Represents.deliver (rep : w.Represents s) (h : w.step cfg (.moves .deliver) = some w') :
    ∃ s', s.step cfg .deliver = some s' ∧ w'.Represents s' := by
  obtain ⟨⟨l, b⟩, taken, rfl⟩ := Option.map_eq_some_iff.mp h
  obtain ⟨rest, is, rfl⟩ := Broker.take_eq_some taken
  rw [rep.results] at is
  obtain ⟨id, ids, results, rfl, rfl⟩ := List.map_eq_cons_iff.mp is
  refine ⟨⟨{ s.world with retryResult := ids }, s.ops ++ [.task id (.event .select)]⟩, ?_, rep.world, ?_,
    rep.members, ?_, ?_, ?_⟩
  · rw [Sys.step, results]
  · have known : (retryLetter id none).content.id = some id := readInt_toString id
    simp [known, rep.ops]
  · exact (w.broker.leave_other (by decide) _).trans rep.retries
  · exact w.broker.leave_self retryResultQueue _
  · exact (w.broker.leave_other (by decide) _).trans rep.letters

theorem Wired.Represents.run (planned : w.Planned) (rep : w.Represents s) {i : Nat}
    (h : w.step cfg (.moves (.run i fault env)) = some w') :
    ∃ s', s.step cfg (.run i fault env) = some s' ∧ w'.Represents s' := by
  obtain ⟨op, at_i, called⟩ := Option.bind_eq_some_iff.mp h
  obtain ⟨b, carried, _, _, _, _, rfl⟩ := planned.called at_i called
  obtain ⟨frame, framed⟩ := op.run_unqueued cfg env s.world fault
  have sends := op.run_sends cfg env s.world fault
  have own : s.ops[i]? = some op := rep.ops ▸ at_i
  refine ⟨⟨(op.run cfg env s.world fault).1, s.ops.set i (op.run cfg env s.world fault).2⟩,
    ?_, ?_, ?_, ?_, ?_, ?_, ?_⟩
  · rw [Sys.step, own]
    rfl
  · dsimp only
    rw [rep.world]
    exact framed
  · dsimp only
    rw [rep.world, rep.ops, frame]
  · dsimp only
    rw [sends.queue]
    cases op.zadd fault with
    | none => exact rep.members
    | some sent => exact rep.members.addNX toString_inj sent.1 sent.2
  · dsimp only
    rw [returned_ready _ _ (by decide), carried.retries, rep.retries, sends.retryQueue, List.map_append]
  · dsimp only
    rw [returned_results, carried.results, rep.results, sends.retryResult, List.map_append]
  · dsimp only
    rw [returned_ready _ _ (by decide), carried.letters, rep.letters, sends.deadLetters, List.map_append]

theorem Wired.Represents.step (planned : w.Planned) (rep : w.Represents s) (returns : w.returns l = true)
    (h : w.step cfg l = some w') :
    w'.Represents s ∨ ∃ m s', l = .moves m ∧ s.step cfg m = some s' ∧ w'.Represents s' := by
  cases l with
  | startHandler =>
    cases Option.some.inj h
    exact Or.inl (rep.carried (.nothing rfl) _)
  | startPublisher events =>
    cases Option.some.inj h
    exact Or.inl (rep.carried (.nothing rfl) _)
  | request i =>
    simp only [Wired.step] at h
    split at h
    next r rest at_i =>
      rw [planned.granted at_i] at h
      cases Option.some.inj h
      exact Or.inl (rep.carried (planned.request at_i).1 _)
    next => cases h
  | disconnect i =>
    cases Option.some.inj h
    exact Or.inl (rep.carried (.nothing rfl) _)
  | moves m =>
    have simulated : ∃ s', s.step cfg m = some s' ∧ w'.Represents s' := by
      cases m with
      | dequeue fault => exact rep.dequeue h
      | expire now => exact rep.expire planned (of_decide_eq_true returns) h
      | deliver => exact rep.deliver h
      | run i fault env => exact rep.run planned h
      | createNotification payload =>
        cases Option.some.inj h
        exact ⟨_, rfl, rep.world, by rw [← rep.ops], rep.members, rep.retries, rep.results, rep.letters⟩
      | retryNotification id =>
        cases Option.some.inj h
        exact ⟨_, rfl, rep.world, by rw [← rep.ops], rep.members, rep.retries, rep.results, rep.letters⟩
      | forget key =>
        cases Option.some.inj h
        refine ⟨_, rfl, ?_, rep.ops, rep.members, rep.retries, rep.results, rep.letters⟩
        dsimp only
        rw [rep.world]
        rfl
      | restart =>
        cases Option.some.inj h
        refine ⟨_, rfl, ?_, rep.ops, rep.members, rep.retries, rep.results, rep.letters⟩
        dsimp only
        rw [rep.world]
        rfl
    obtain ⟨s', step, rep'⟩ := simulated
    exact Or.inr ⟨m, s', rfl, step, rep'⟩

end Steps

section Runs

variable {cfg : Config} {ok : Wired → WiredLabel → Prop} {w v : Wired} {i : Nat} {rs : List (Request MessageBody)}

theorem Wired.initial_planned : Wired.initial.Planned where
  within := Topology.empty_within _
  sound _ mem := by cases mem
  clients _ mem := by cases mem
  events _ mem := by cases mem
  declared needs := by
    rcases needs with ⟨_, mem, _⟩ | waiting
    · cases mem
    · exact absurd rfl waiting

theorem Wired.reach_planned (run : Wired.Reach cfg ok .initial w) : w.Planned :=
  run.invariant Wired.initial_planned fun _ _ _ planned _ step => planned.step step

theorem Wired.initial_represents : Wired.initial.Represents .initial := ⟨rfl, rfl, .empty, rfl, rfl, rfl⟩

/-- What a client that stays has asked for is there. -/
theorem Wired.Planned.served (planned : w.Planned) (at_i : w.clients[i]? = some rs)
    (run : Wired.Reach cfg (fun _ l => l.stays i = true) w v) :
    v.Planned ∧ w.broker.topology.Within v.broker.topology ∧
      ∃ done rest, rs = done ++ rest ∧ v.clients[i]? = some rest ∧ ∀ r ∈ done, v.broker.topology.has r = true := by
  induction run with
  | start => exact ⟨planned, .refl _, [], rs, rfl, at_i, fun _ mem => by cases mem⟩
  | next _ stays step ih =>
    obtain ⟨planned, within, done, rest, rfl, there, had⟩ := ih
    have grown := planned.step_within step
    refine ⟨planned.step step, within.trans grown, ?_⟩
    rcases planned.step_client there stays step with same | ⟨r, rest, rfl, next, broker⟩
    · exact ⟨done, rest, rfl, same, fun r mem => Topology.has_mono grown (had r mem)⟩
    · refine ⟨done ++ [r], rest, by simp, next, fun other mem => ?_⟩
      rcases List.mem_append.mp mem with old | new
      · exact Topology.has_mono grown (had other old)
      · rw [List.mem_singleton.mp new, broker, Broker.serve_topology]
        exact Topology.has_of_adding (.refl _)

end Runs

/-- On Redis and RabbitMQ, in every run in which retries expire only once a handler has bound the queue that they
return to: what is there is what a run of the service has there, whatever its steps meet. -/
theorem wired_refines {cfg : Config} {ok : Label → Prop} {w : Wired}
    (run : Wired.Reach cfg (fun w l => w.returns l = true ∧ ∀ m, l = .moves m → ok m) .initial w) :
    ∃ s, Sys.Reach cfg (fun _ m => ok m) .initial s ∧ w.Represents s := by
  refine run.simulated Wired.initial_represents fun v l v' s reached rep admitted step => ?_
  rcases rep.step (Wired.reach_planned reached) admitted.1 step with same | ⟨m, s', is, stepped, rep'⟩
  · exact Or.inl same
  · exact Or.inr ⟨m, s', admitted.2 m is, stepped, rep'⟩

/-- A handler that starts and gets through. -/
def handlerStart : List WiredLabel := .startHandler :: List.replicate startRequests.length (.request 0)

/-- The first retry of an OTP, back from its queue. -/
theorem wired_refines_firstRetry : ∃ w s,
    Wired.Reach defaultConfig (fun w l => w.returns l = true ∧ ∀ m, l = .moves m → True) .initial w ∧
      (w.broker.ready retryQueue).length = 0 ∧ (w.broker.ready retryResultQueue).length = 1 ∧
      Sys.Reach defaultConfig (fun _ _ => True) .initial s ∧ w.Represents s := by
  have ran : (Transition.trace (Wired.step defaultConfig) Wired.returns .initial
      (handlerStart ++ firstRetry.map .moves ++ [.moves (.expire 105000)])).map (fun w =>
        ((w.broker.ready retryQueue).length, (w.broker.ready retryResultQueue).length)) = some (0, 1) := by
    decide +kernel
  obtain ⟨w, reached, facts⟩ := Option.map_eq_some_iff.mp ran
  simp only [Prod.mk.injEq] at facts
  have run : Wired.Reach defaultConfig (fun w l => w.returns l = true ∧ ∀ m, l = .moves m → True) .initial w :=
    (Transition.trace_reach .start reached).mono fun _ _ returns => ⟨returns, fun _ _ => trivial⟩
  obtain ⟨s, run', rep⟩ := wired_refines run
  exact ⟨w, s, run, facts.1, facts.2, run', rep⟩

/-- However the services, their handlers that start and their publishers interleave, and wherever they are cut
off: the broker refuses nothing of what they ask for. -/
theorem never_refused {cfg : Config} {w : Wired} (run : Wired.Reach cfg (fun _ _ => True) .initial w) :
    (∀ (i : Nat) r rest, w.clients[i]? = some (r :: rest) → (w.broker.run r).isSome = true) ∧
      ∀ op ∈ w.ops, ∀ env fault, (w.broker.runAll (op.requests env fault)).isSome = true := by
  have planned := Wired.reach_planned run
  constructor
  · intro i r rest at_i
    rw [planned.granted at_i]
    rfl
  · intro op _ env fault
    rw [(Broker.runAll_served (op.requests_serve env fault planned.within)).1]
    rfl

theorem never_refused_starting : ∃ w, Wired.Reach defaultConfig (fun _ _ => True) .initial w ∧
    w.clients = [startRequests] ∧ (w.broker.run (.declareExchange exchangeName .topic)).isSome = true := by
  have run : Wired.Reach defaultConfig (fun _ _ => True) .initial { Wired.initial with clients := [startRequests] } :=
    .next (l := .startHandler) .start trivial rfl
  exact ⟨_, run, rfl, (never_refused run).1 0 _ _ rfl⟩

/-- Once a handler has got through its start, whatever else happens then: an event is queued once if its key has
two words of which the first is a microservice, and else nowhere; and a retry that expires goes to the queue that
the handlers consume. -/
theorem started_routes {cfg : Config} {w v u : Wired} {i : Nat} (run : Wired.Reach cfg (fun _ _ => True) .initial w)
    (starts : w.clients[i]? = some startRequests) (later : Wired.Reach cfg (fun _ l => l.stays i = true) w v)
    (started : v.clients[i]? = some []) (since : Wired.Reach cfg (fun _ _ => True) v u) :
    (∀ l b, u.broker.run (.publish exchangeName l) = some b →
      (EventKey l.key → b.ready queueName = u.broker.ready queueName ++ [l]) ∧
        (¬EventKey l.key → b.ready queueName = u.broker.ready queueName) ∧
        ∀ queue, queue ≠ queueName → b.ready queue = u.broker.ready queue) ∧
    ∀ now b, u.broker.expire retryQueue now = some b → ∃ l rest, u.broker.ready retryQueue = l :: rest ∧
      b.ready retryQueue = rest ∧
      b.ready retryResultQueue = u.broker.ready retryResultQueue ++ [{ l with deadline := none }] := by
  obtain ⟨planned, _, done, rest, all, there, had⟩ := (Wired.reach_planned run).served starts later
  have finished : rest = [] := Option.some.inj (there.symm.trans started)
  rw [finished, List.append_nil] at all
  subst all
  have kept : u.Planned ∧ v.broker.topology.Within u.broker.topology := by
    clear run later
    induction since with
    | start => exact ⟨planned, .refl _⟩
    | next _ _ step ih => exact ⟨ih.1.step step, ih.2.trans (ih.1.step_within step)⟩
  obtain ⟨planned', within⟩ := kept
  have bound : ∀ b, .bind b ∈ startRequests → b ∈ u.broker.topology.bindings := fun b mem =>
    within.bindings b (of_decide_eq_true (had _ mem))
  have listening : Listening u.broker.topology := fun key mem => bound _ (by
    simp only [startRequests, List.mem_append, List.mem_map]
    exact Or.inl (Or.inr ⟨key, mem, rfl⟩))
  constructor
  · intro l b ran
    classical
    have route := event_route planned'.within planned'.sound listening l.key
    have is : b = u.broker.put (u.broker.topology.route exchangeName l.key) l := by
      rw [Broker.run] at ran
      split at ran
      next => exact (Option.some.inj ran).symm
      next => cases ran
    rw [is, route]
    refine ⟨fun event => ?_, fun other => ?_, fun queue ne => ?_⟩
    · rw [if_pos event, Broker.put_self]
    · rw [if_neg other, Broker.put_nil]
    · split
      next => exact Broker.put_other _ ne l
      next => rw [Broker.put_nil]
  · intro now b expired
    obtain ⟨l, rest, _, is, _, _, rfl⟩ := Broker.expire_eq_some expired
    have declared : (u.broker.topology.queues retryQueue).isSome = true :=
      planned'.declared (Or.inr (by rw [is]; exact List.cons_ne_nil _ _))
    rw [retry_expiresTo planned'.within planned'.sound declared,
      if_pos (bound returning (by simp [startRequests, returning]))]
    refine ⟨l, rest, is, ?_, ?_⟩
    · rw [Broker.put_other _ (by decide), Broker.leave_self]
    · rw [Broker.put_self, Broker.leave_other _ (by decide)]

theorem started_routes_created : ∃ v b l, Wired.Reach defaultConfig (fun _ _ => True) .initial v ∧
    l.key = "order.created" ∧ v.broker.run (.publish exchangeName l) = some b ∧
      b.ready queueName = v.broker.ready queueName ++ [l] := by
  have run : Wired.Reach defaultConfig (fun _ _ => True) .initial { Wired.initial with clients := [startRequests] } :=
    .next (l := .startHandler) .start trivial rfl
  have ran : ((Transition.trace (Wired.step defaultConfig) (fun _ l => l.stays 0)
      { Wired.initial with clients := [startRequests] }
      (List.replicate startRequests.length (.request 0))).map fun v =>
        (v.clients.map List.length, v.broker.topology.exchanges exchangeName)) = some ([0], some .topic) := by
    decide +kernel
  obtain ⟨v, reached, facts⟩ := Option.map_eq_some_iff.mp ran
  simp only [Prod.mk.injEq] at facts
  obtain ⟨lengths, declared⟩ := facts
  obtain ⟨rs, clients, empty⟩ := List.map_eq_singleton_iff.mp lengths
  have started : v.clients[0]? = some [] := by
    rw [clients, List.eq_nil_of_length_eq_zero empty]
    rfl
  have later : Wired.Reach defaultConfig (fun _ l => l.stays 0 = true)
      { Wired.initial with clients := [startRequests] } v := Transition.trace_reach .start reached
  have event : EventKey "order.created" := ⟨"order", by decide, "created", by decide, by decide⟩
  have granted : v.broker.run (.publish exchangeName ⟨"order.created", .text "", none⟩) =
      some (v.broker.serve (.publish exchangeName ⟨"order.created", .text "", none⟩)) :=
    if_pos (by simp [Topology.grants, declared])
  exact ⟨v, _, _, run.trans (later.mono fun _ _ _ => trivial), rfl, granted,
    ((started_routes run rfl later started .start).1 _ _ granted).1 event⟩

end NotificationEngine
