import NotificationEngine.Wired
import NotificationEngine.TaskSteps

namespace NotificationEngine

open Amqp

section Served

variable {cfg : Config} {env : Env} {fault : Fault} {w w' : Wired} {b : Broker MessageBody} {t : Task} {id : Nat}

theorem Task.requests_serve {u : Topology} (within : u.Within declarations) (t : Task) :
    declarations.Serves u (t.requests env id) := by
  rcases t with pc | pc | pc | pc
  · cases pc with
    | publishing delay pc =>
      cases pc with
      | declareQueue => exact declareRetryQueue_serves within
      | publish => exact publishRetry_serves within _ _
      | _ => exact within
    | sendToDlq n code => exact dlq_serves within _
    | _ => exact within
  · exact within
  · exact within
  · exact within

variable (env fault) in
theorem Op.requests_serve (op : Op) {u : Topology} (within : u.Within declarations) :
    declarations.Serves u (op.requests env fault) := by
  cases op with
  | task id t =>
    rw [Op.requests]
    split
    next => exact t.requests_serve within
    next => exact within
  | _ => exact within

/-- What a call leaves in the queues that carry notifications. -/
structure Carried (b b' : Broker MessageBody) (retry : Option RetryMessage) (letter : Option DeadLetter) : Prop where
  retries : b'.ready retryQueue =
    b.ready retryQueue ++ retry.toList.map fun m => retryLetter m.notificationId (some m.deadline)
  results : b'.ready retryResultQueue = b.ready retryResultQueue
  letters : b'.ready dlqQueue = b.ready dlqQueue ++ letter.toList.map deadLetterMessage

theorem Carried.nothing {b' : Broker MessageBody} (same : b'.ready = b.ready) : Carried b b' none none := by
  constructor
  · rw [same]
    exact (List.append_nil _).symm
  · rw [same]
  · rw [same]
    exact (List.append_nil _).symm

/-- A dead letter is bound to where it goes before it is sent. -/
theorem dlqRequests_carry (within : b.topology.Within declarations) (sound : b.topology.Sound) (d : DeadLetter) :
    Carried b ((dlqRequests d).foldl Broker.serve b) none (some d) := by
  obtain ⟨_, _, within', sound'⟩ := Broker.runAll_served (dlqDeclarations_serve within)
  have bound : (⟨dlqExchange, dlqQueue, dlqQueue⟩ : Binding) ∈
      (dlqDeclarations.foldl Broker.serve b).topology.bindings := List.mem_insert_self ..
  have route := fanout_route within' (sound' sound) (b := ⟨dlqExchange, dlqQueue, dlqQueue⟩) (by decide)
    (by decide) (by decide) ""
  rw [if_pos bound] at route
  have served : (dlqRequests d).foldl Broker.serve b =
      (dlqDeclarations.foldl Broker.serve b).put [dlqQueue] (deadLetterMessage d) := by
    rw [dlqRequests, List.foldl_append, ← route]
    rfl
  rw [served]
  exact ⟨(List.append_nil _).symm, rfl, rfl⟩

/-- A retry goes to the queue that its call has declared. -/
theorem publishRetry_carries (declared : (b.topology.queues retryQueue).isSome = true) (m : RetryMessage) :
    Carried b (b.serve (publishRetry m.notificationId m.deadline)) (some m) none := by
  have served : b.serve (publishRetry m.notificationId m.deadline) =
      b.put [retryQueue] (retryLetter m.notificationId (some m.deadline)) := by
    have route : b.topology.route "" retryQueue = [retryQueue] := by
      rw [Topology.route, if_pos rfl, if_pos declared]
    rw [← route]
    rfl
  rw [served]
  exact ⟨rfl, rfl, (List.append_nil _).symm⟩

theorem Task.requests_carry (within : b.topology.Within declarations) (sound : b.topology.Sound)
    (declared : (Op.task id t).publishing = true → (b.topology.queues retryQueue).isSome = true) :
    Carried b ((t.requests env id).foldl Broker.serve b) (t.publishes env id) (t.buries env id) := by
  rcases t with pc | pc | pc | pc
  · cases pc with
    | publishing delay pc =>
      cases pc with
      | publish => exact publishRetry_carries (declared rfl) ⟨id, env.now, delay⟩
      | _ => exact .nothing rfl
    | sendToDlq n code => exact dlqRequests_carry within sound _
    | _ => exact .nothing rfl
  · exact .nothing rfl
  · exact .nothing rfl
  · exact .nothing rfl

variable (env fault) in
theorem Op.requests_carry (op : Op) (within : b.topology.Within declarations) (sound : b.topology.Sound)
    (declared : op.publishing = true → (b.topology.queues retryQueue).isSome = true) :
    Carried b ((op.requests env fault).foldl Broker.serve b) (op.retries env fault) (op.buries env fault) := by
  cases op with
  | task id t =>
    rw [Op.requests, Op.retries, Op.buries]
    cases fault.effect with
    | true => exact t.requests_carry within sound declared
    | false => exact .nothing rfl
  | _ => exact .nothing rfl

end Served

section Plan

variable {cfg : Config} {env : Env} {fault : Fault} {w w' : Wired} {l : WiredLabel} {op : Op}

theorem getRabbitmqChannel_declares {lib : AioPika} {q : QueueService} {pc : PublishPc}
    (h : (q.getRabbitmqChannel lib).2 = some pc) : pc ≠ .publish := by
  rintro rfl
  unfold QueueService.getRabbitmqChannel at h
  split at h
  next => cases h
  next =>
    split at h
    next => cases h
    next => cases h
    next =>
      split at h
      next => cases h
      next => split at h <;> cases h

/-- The next call is `publish` only after a declaration that was answered. -/
theorem Op.run_publishing {v : World} (h : (op.run cfg env v fault).2.publishing = true) :
    op.requests env fault = [declareRetryQueue] := by
  cases op with
  | create c =>
    have none : (c.run cfg env v fault).2.publishing = false := by cases fault <;> rfl
    rw [Op.run, none] at h
    cases h
  | done => cases h
  | task id t =>
    cases fault with
    | none =>
      cases next : (t.act cfg env id v.service (v.rows id)).next with
      | none =>
        simp only [Op.run, Task.run, next, Op.ofNext] at h
        cases h
      | some u =>
        simp only [Op.run, Task.run, next, Op.ofNext] at h
        cases Task.act_goes next with
        | @publishing delay pc pc' step =>
          cases pc with
          | declareQueue => rfl
          | publish => cases step
          | _ =>
            cases step
            cases h
        | @connecting delay pc found =>
          cases pc with
          | publish => exact absurd rfl (getRabbitmqChannel_declares found)
          | _ => cases h
        | _ => cases h
    | raised effect =>
      rcases t with pc | pc | pc | pc
      · cases h
      · cases pc <;> cases h
      · cases pc <;> cases h
      · cases h
    | stopped effect => cases h

theorem Topology.queue_stays {t u : Topology} (larger : t.Within u) {queue : String}
    (there : (t.queues queue).isSome = true) : (u.queues queue).isSome = true := by
  obtain ⟨x, there⟩ := Option.isSome_iff_exists.mp there
  rw [larger.queues _ _ there]
  rfl

theorem returned_topology (b : Broker MessageBody) (id : Option Nat) : (returned b id).topology = b.topology := by
  cases id <;> rfl

theorem returned_ready (b : Broker MessageBody) (id : Option Nat) {queue : String}
    (other : queue ≠ retryResultQueue) :
    (returned b id).ready queue = b.ready queue := by
  cases id with
  | none => rfl
  | some id => exact b.put_other other _

theorem returned_results (b : Broker MessageBody) (id : Option Nat) :
    (returned b id).ready retryResultQueue =
      b.ready retryResultQueue ++ id.toList.map fun id => retryLetter id none := by
  cases id with
  | none => exact (List.append_nil _).symm
  | some id => exact b.put_self retryResultQueue _

theorem Op.publishing_of_retries {m : RetryMessage} (h : op.retries env fault = some m) : op.publishing = true := by
  cases op with
  | task id t =>
    rw [Op.retries] at h
    split at h
    next =>
      rcases t with pc | pc | pc | pc
      · cases pc with
        | publishing delay pc =>
          cases pc with
          | publish => rfl
          | _ => cases h
        | _ => cases h
      · cases h
      · cases h
      · cases h
    next => cases h
  | _ => cases h

/-- The state after a call, whose requests are all granted. -/
theorem Wired.Planned.called (planned : w.Planned) {i : Nat} (at_i : w.ops[i]? = some op)
    (h : w.call cfg op fault env (w.ops.set i) = some w') :
    ∃ b, Carried w.broker b (op.retries env fault) (op.buries env fault) ∧
      b = (op.requests env fault).foldl Broker.serve w.broker ∧
      w.broker.topology.Within b.topology ∧ b.topology.Within declarations ∧ b.topology.Sound ∧
      w' = { w with
        world := (op.run cfg env w.world fault).1.unqueued
        ops := w.ops.set i (op.run cfg env w.world fault).2
        members := match op.zadd fault with
          | none => w.members
          | some (id, score) => w.members.addNX (toString id) score
        broker := returned b (op.unacked fault) } := by
  obtain ⟨granted, larger, within, sound⟩ :=
    Broker.runAll_served (op.requests_serve env fault planned.within)
  have carried := op.requests_carry env fault planned.within planned.sound
    fun publishing => planned.declared (Or.inl ⟨op, List.mem_of_getElem? at_i, publishing⟩)
  rw [Wired.call, granted] at h
  exact ⟨_, carried, rfl, larger, within, sound planned.sound, (Option.some.inj h).symm⟩

/-- A call of an operation leaves the plan as it is. -/
theorem Wired.Planned.call (planned : w.Planned) {i : Nat} (at_i : w.ops[i]? = some op)
    (h : w.call cfg op fault env (w.ops.set i) = some w') : w'.Planned := by
  obtain ⟨b, carried, served, larger, within, sound, rfl⟩ := planned.called at_i h
  have mem : op ∈ w.ops := List.mem_of_getElem? at_i
  refine ⟨?_, ?_, ?_, planned.events, ?_⟩
  · rwa [returned_topology]
  · rwa [returned_topology]
  · rw [returned_topology]
    exact fun rs mem => (planned.clients rs mem).mono larger within
  · rw [returned_topology, returned_ready _ _ (by decide), carried.retries]
    rintro (⟨other, there, publishing⟩ | waiting)
    · rcases List.mem_or_eq_of_mem_set there with old | rfl
      · exact Topology.queue_stays larger (planned.declared (Or.inl ⟨other, old, publishing⟩))
      · rw [served, Op.run_publishing publishing]
        simp [declareRetryQueue, Broker.serve, Topology.adding]
    · apply Topology.queue_stays larger
      cases retry : op.retries env fault with
      | none =>
        rw [retry] at waiting
        exact planned.declared (Or.inr fun none => waiting (by rw [none]; rfl))
      | some m => exact planned.declared (Or.inl ⟨op, mem, Op.publishing_of_retries retry⟩)

/-- What moves no declaration leaves the plan as it is. -/
theorem Wired.Planned.moved (planned : w.Planned) (topology : w'.broker.topology = w.broker.topology)
    (clients : w'.clients = w.clients) (ops : ∀ op ∈ w'.ops, op ∈ w.ops ∨ op.publishing = false)
    (ready : w'.broker.ready retryQueue ≠ [] → w.broker.ready retryQueue ≠ []) : w'.Planned := by
  refine ⟨by rw [topology]; exact planned.within, by rw [topology]; exact planned.sound, ?_, ?_, ?_⟩
  · rw [topology, clients]
    exact planned.clients
  · rw [clients]
    exact planned.events
  · rw [topology]
    rintro (⟨op, mem, publishing⟩ | waiting)
    · rcases ops op mem with old | idle
      · exact planned.declared (Or.inl ⟨op, old, publishing⟩)
      · rw [idle] at publishing
        cases publishing
    · exact planned.declared (Or.inr (ready waiting))

theorem Wired.Planned.joined (planned : w.Planned) {rs : List (Request MessageBody)}
    (serves : declarations.Serves w.broker.topology rs)
    (events : ∀ exchange l, .publish exchange l ∈ rs → exchange = exchangeName) :
    ({ w with clients := w.clients ++ [rs] } : Wired).Planned := by
  refine ⟨planned.within, planned.sound, fun other mem => ?_, fun other mem => ?_, planned.declared⟩
  · rcases List.mem_append.mp mem with old | new
    · exact planned.clients other old
    · rw [List.mem_singleton.mp new]
      exact serves
  · rcases List.mem_append.mp mem with old | new
    · exact planned.events other old
    · rw [List.mem_singleton.mp new]
      exact events

theorem Wired.Planned.left (planned : w.Planned) (i : Nat) :
    ({ w with clients := w.clients.set i [] } : Wired).Planned := by
  refine ⟨planned.within, planned.sound, fun rs mem => ?_, fun rs mem => ?_, planned.declared⟩
  · rcases List.mem_or_eq_of_mem_set mem with old | rfl
    · exact planned.clients rs old
    · exact planned.within
  · rcases List.mem_or_eq_of_mem_set mem with old | rfl
    · exact planned.events rs old
    · intro _ _ mem
      cases mem

theorem Wired.Planned.granted (planned : w.Planned) {i : Nat} {r : Request MessageBody}
    {rest : List (Request MessageBody)} (at_i : w.clients[i]? = some (r :: rest)) :
    w.broker.run r = some (w.broker.serve r) :=
  if_pos (planned.clients _ (List.mem_of_getElem? at_i)).1

/-- A client's request puts nothing into the queues that carry notifications. -/
theorem Wired.Planned.request (planned : w.Planned) {i : Nat} {r : Request MessageBody}
    {rest : List (Request MessageBody)} (at_i : w.clients[i]? = some (r :: rest)) :
    Carried w.broker (w.broker.serve r) none none ∧
      ({ w with broker := w.broker.serve r, clients := w.clients.set i rest } : Wired).Planned := by
  have mem := List.mem_of_getElem? at_i
  obtain ⟨granted, serves⟩ := planned.clients _ mem
  have larger := Topology.within_adding granted
  have within := serves.within
  have sound := planned.sound.adding granted
  have carried : Carried w.broker (w.broker.serve r) none none := by
    cases r with
    | publish exchange l =>
      have own := planned.events _ mem exchange l (List.mem_cons_self ..)
      subst own
      have other : ∀ queue, queue ≠ queueName →
          (w.broker.serve (.publish exchangeName l)).ready queue = w.broker.ready queue :=
        fun queue ne => if_neg fun goes => ne (mem_event_route planned.within goes)
      exact ⟨(other _ (by decide)).trans (List.append_nil _).symm, other _ (by decide),
        (other _ (by decide)).trans (List.append_nil _).symm⟩
    | _ => exact .nothing rfl
  refine ⟨carried, ?_, ?_, fun rs there => ?_, fun rs there => ?_, fun needs => ?_⟩
  · rw [Broker.serve_topology]
    exact within
  · rw [Broker.serve_topology]
    exact sound
  · rw [Broker.serve_topology]
    rcases List.mem_or_eq_of_mem_set there with old | rfl
    · exact (planned.clients rs old).mono larger within
    · exact serves
  · rcases List.mem_or_eq_of_mem_set there with old | rfl
    · exact planned.events rs old
    · exact fun exchange l later => planned.events _ mem exchange l (List.mem_cons_of_mem _ later)
  · rw [Broker.serve_topology]
    apply Topology.queue_stays larger
    rw [carried.retries, Option.toList_none, List.map_nil, List.append_nil] at needs
    exact planned.declared needs

theorem Wired.Planned.step (planned : w.Planned) (h : w.step cfg l = some w') : w'.Planned := by
  cases l with
  | startHandler =>
    cases Option.some.inj h
    exact planned.joined (start_serves planned.within) (by simp [startRequests])
  | startPublisher events =>
    cases Option.some.inj h
    refine planned.joined (publisher_serves planned.within events) fun exchange l mem => ?_
    rcases List.mem_cons.mp mem with none | mem
    · cases none
    · obtain ⟨e, _, is⟩ := List.mem_map.mp mem
      cases is
      rfl
  | request i =>
    simp only [Wired.step] at h
    split at h
    next r rest at_i =>
      rw [planned.granted at_i] at h
      cases Option.some.inj h
      exact (planned.request at_i).2
    next => cases h
  | disconnect i =>
    cases Option.some.inj h
    exact planned.left i
  | moves l =>
    cases l with
    | dequeue fault =>
      simp only [Wired.step] at h
      split at h
      next =>
        cases Option.some.inj h
        exact planned
      next =>
        split at h
        next =>
          cases Option.some.inj h
          refine planned.moved rfl rfl (fun op mem => ?_) fun waiting => waiting
          rcases List.mem_append.mp mem with old | new
          · exact Or.inl old
          · obtain ⟨id, _, rfl⟩ := Option.map_eq_some_iff.mp (Option.mem_toList.mp new)
            exact Or.inr rfl
        next =>
          cases Option.some.inj h
          split
          next => exact planned.moved rfl rfl (fun _ mem => Or.inl mem) fun waiting => waiting
          next => exact planned
    | expire now =>
      obtain ⟨b, expired, rfl⟩ := Option.map_eq_some_iff.mp h
      obtain ⟨l, rest, _, is, _, _, rfl⟩ := Broker.expire_eq_some expired
      have waiting : w.broker.ready retryQueue ≠ [] := by
        rw [is]
        exact List.cons_ne_nil _ _
      exact planned.moved rfl rfl (fun _ mem => Or.inl mem) fun _ => waiting
    | deliver =>
      obtain ⟨⟨l, b⟩, taken, rfl⟩ := Option.map_eq_some_iff.mp h
      obtain ⟨rest, is, rfl⟩ := Broker.take_eq_some taken
      refine planned.moved rfl rfl (fun op mem => ?_) fun waiting => ?_
      · rcases List.mem_append.mp mem with old | new
        · exact Or.inl old
        · obtain ⟨id, _, rfl⟩ := Option.map_eq_some_iff.mp (Option.mem_toList.mp new)
          exact Or.inr rfl
      · exact fun none => waiting ((w.broker.leave_other (by decide) rest).trans none)
    | run i fault env =>
      obtain ⟨op, at_i, called⟩ := Option.bind_eq_some_iff.mp h
      exact planned.call at_i called
    | createNotification payload =>
      cases Option.some.inj h
      refine planned.moved rfl rfl (fun op mem => ?_) fun waiting => waiting
      exact (List.mem_append.mp mem).imp_right fun new => by rw [List.mem_singleton.mp new]; rfl
    | retryNotification id =>
      cases Option.some.inj h
      refine planned.moved rfl rfl (fun op mem => ?_) fun waiting => waiting
      exact (List.mem_append.mp mem).imp_right fun new => by rw [List.mem_singleton.mp new]; rfl
    | forget key =>
      cases Option.some.inj h
      exact planned.moved rfl rfl (fun _ mem => Or.inl mem) fun waiting => waiting
    | restart =>
      cases Option.some.inj h
      exact planned.moved rfl rfl (fun _ mem => Or.inl mem) fun waiting => waiting

/-- Nothing that was declared is taken away. -/
theorem Wired.Planned.step_within (planned : w.Planned) (h : w.step cfg l = some w') :
    w.broker.topology.Within w'.broker.topology := by
  cases l with
  | startHandler => exact Option.some.inj h ▸ .refl _
  | startPublisher events => exact Option.some.inj h ▸ .refl _
  | disconnect i => exact Option.some.inj h ▸ .refl _
  | request i =>
    simp only [Wired.step] at h
    split at h
    next r rest at_i =>
      rw [planned.granted at_i] at h
      cases Option.some.inj h
      have within := Topology.within_adding (planned.clients _ (List.mem_of_getElem? at_i)).1
      rwa [← Broker.serve_topology] at within
    next => cases h
  | moves l =>
    cases l with
    | dequeue fault =>
      simp only [Wired.step] at h
      split at h
      next => exact Option.some.inj h ▸ .refl _
      next =>
        split at h
        next => exact Option.some.inj h ▸ .refl _
        next =>
          rw [← Option.some.inj h]
          split <;> exact .refl _
    | expire now =>
      obtain ⟨b, expired, rfl⟩ := Option.map_eq_some_iff.mp h
      obtain ⟨l, rest, _, _, _, _, rfl⟩ := Broker.expire_eq_some expired
      exact .refl _
    | deliver =>
      obtain ⟨⟨l, b⟩, taken, rfl⟩ := Option.map_eq_some_iff.mp h
      obtain ⟨rest, _, rfl⟩ := Broker.take_eq_some taken
      exact .refl _
    | run i fault env =>
      obtain ⟨op, at_i, called⟩ := Option.bind_eq_some_iff.mp h
      obtain ⟨b, _, _, larger, _, _, rfl⟩ := planned.called at_i called
      rwa [returned_topology]
    | createNotification payload => exact Option.some.inj h ▸ .refl _
    | retryNotification id => exact Option.some.inj h ▸ .refl _
    | forget key => exact Option.some.inj h ▸ .refl _
    | restart => exact Option.some.inj h ▸ .refl _

/-- A client makes its next request, gives up, or stays where it is. -/
theorem Wired.Planned.step_client (planned : w.Planned) {i : Nat} {rs : List (Request MessageBody)}
    (at_i : w.clients[i]? = some rs) (stays : l.stays i = true) (h : w.step cfg l = some w') :
    w'.clients[i]? = some rs ∨ ∃ r rest, rs = r :: rest ∧ w'.clients[i]? = some rest ∧
      w'.broker = w.broker.serve r := by
  have inside : i < w.clients.length := (List.getElem?_eq_some_iff.mp at_i).1
  cases l with
  | startHandler =>
    rw [← Option.some.inj h]
    exact Or.inl ((List.getElem?_append_left inside).trans at_i)
  | startPublisher events =>
    rw [← Option.some.inj h]
    exact Or.inl ((List.getElem?_append_left inside).trans at_i)
  | disconnect j =>
    have ne : j ≠ i := of_decide_eq_true stays
    rw [← Option.some.inj h]
    exact Or.inl ((List.getElem?_set_ne ne).trans at_i)
  | request j =>
    simp only [Wired.step] at h
    split at h
    next r rest at_j =>
      rw [planned.granted at_j] at h
      cases Option.some.inj h
      by_cases same : j = i
      · subst same
        rw [at_i] at at_j
        exact Or.inr ⟨r, rest, Option.some.inj at_j, List.getElem?_set_self inside, rfl⟩
      · exact Or.inl ((List.getElem?_set_ne same).trans at_i)
    next => cases h
  | moves l =>
    have same : w'.clients = w.clients := by
      cases l with
      | dequeue fault =>
        simp only [Wired.step] at h
        split at h
        next => rw [← Option.some.inj h]
        next =>
          split at h
          next => rw [← Option.some.inj h]
          next =>
            rw [← Option.some.inj h]
            split <;> rfl
      | expire now =>
        obtain ⟨b, _, rfl⟩ := Option.map_eq_some_iff.mp h
        rfl
      | deliver =>
        obtain ⟨⟨l, b⟩, _, rfl⟩ := Option.map_eq_some_iff.mp h
        rfl
      | run i fault env =>
        obtain ⟨op, at_i, called⟩ := Option.bind_eq_some_iff.mp h
        obtain ⟨b, _, rfl⟩ := Option.map_eq_some_iff.mp called
        rfl
      | createNotification payload => rw [← Option.some.inj h]
      | retryNotification id => rw [← Option.some.inj h]
      | forget key => rw [← Option.some.inj h]
      | restart => rw [← Option.some.inj h]
    rw [same]
    exact Or.inl at_i

end Plan

end NotificationEngine
