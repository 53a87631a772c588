import NotificationEngine.DetailResponse
import NotificationEngine.Idempotency
import NotificationEngine.LoggedRuns
import NotificationEngine.RowFacts

namespace NotificationEngine

/-- The columns of a row that are set when it is created. -/
def Notification.request (n : Notification) :=
  (n.idempotencyKey, n.sourceService, n.eventType, n.channel, n.recipient, n.priority, n.content)

/-- A row, or an instance of one, that says what a payload asks for on a channel of its event. -/
structure NotificationCreate.Asks (p : NotificationCreate) (channel : NotificationChannel) (n : Notification) :
    Prop where
  mapped : channel ∈ eventChannelMap p.eventType
  fits : p.Fits channel
  key : n.idempotencyKey = channelIdemKey p.idempotencyKey channel
  source : n.sourceService = p.sourceService
  event : n.eventType = p.eventType
  ofChannel : n.channel = channel
  recipient : p.recipient.fieldFor channel = some n.recipient ∧ n.recipient ≠ ""
  priority : n.priority = p.priority
  content : p.content.lookup channel.label = some n.content

/-- The service, with the payloads that it was given. -/
def Sys.requested (cfg : Config) : Transition.Recorder Sys Label NotificationCreate where
  step := Sys.step cfg
  instant _ := none
  entry _
    | .createNotification p => some p
    | _ => none

/-- The instance that a dispatch goes by until it has called its provider. -/
def Task.quotes : Task → Option Notification
  | dispatch (.commitQueued n) => some n
  | dispatch (.health n) => some n
  | dispatch (.send n) => some n
  | _ => none

def Task.Faithful (r : Notification) (t : Task) : Prop := ∀ n ∈ t.quotes, n.request = r.request

section Steps

variable {cfg : Config} {s s' : Sys} {l : Label} {p : NotificationCreate} {channel : NotificationChannel}
  {n r : Notification} {t u : Task}

theorem NotificationCreate.Asks.congr (asks : p.Asks channel r) (same : n.request = r.request) :
    p.Asks channel n := by
  simp only [Notification.request, Prod.mk.injEq] at same
  obtain ⟨key, source, event, channel, recipient, priority, content⟩ := same
  exact ⟨asks.mapped, asks.fits, key.trans asks.key, source.trans asks.source, event.trans asks.event,
    channel.trans asks.ofChannel, recipient ▸ asks.recipient, priority.trans asks.priority, content ▸ asks.content⟩

theorem NotificationCreate.asks_row (ctime : Int) (mapped : channel ∈ eventChannelMap p.eventType)
    (fits : p.Fits channel) : p.Asks channel (p.row channel ctime) := by
  have row := p.rowOf_row ctime mapped
  exact ⟨mapped, fits, row.key, row.sourceService, row.eventType, row.ofChannel, row.recipient, row.priority,
    row.content⟩

theorem Task.write_request (cfg : Config) (t : Task) (r : Notification) :
    (t.write cfg r).request = r.request :=
  t.write_column Notification.request (fun _ _ _ => rfl) cfg r

theorem Task.Faithful.goes {env : Env} {id : Nat} {q : QueueService} {fault : Fault} (faithful : t.Faithful r)
    (next : (t.run cfg env id q (some r) fault).next = some u) : u.Faithful r := by
  intro n quoted
  cases Task.run_goes next with
  | provided row =>
    cases row
    cases quoted
    rfl
  | loaded row =>
    cases row
    cases quoted
    rfl
  | healthy => exact faithful n quoted
  | _ => cases quoted

theorem Task.Faithful.begins (started : t.bare = true ∨ t = .dispatch .select ∨ t = .event .select ∨
    t = .saving .refresh) : t.Faithful r := by
  intro n quoted
  rcases started with bare | rfl | rfl | rfl
  · rcases t with pc | pc | pc | pc
    · cases bare
    · cases quoted
    · cases quoted
    · cases quoted
  · cases quoted
  · cases quoted
  · cases quoted

/-- What a dispatch quotes is what its row has. -/
theorem reach_faithful {ok : Sys → Label → Prop} (run : Sys.Reach cfg ok .initial s) {id : Nat}
    (row : s.world.rows id = some r) {op : Op} (mem : op ∈ s.ops) (own : op.taskOf id = some t) : t.Faithful r := by
  have noted : Transition.Reach (Note.Step cfg id) (fun _ _ => True) Note.absent (s.note id) :=
    note_reach (fun _ _ _ _ _ => trivial) run
  have keeps : (s.note id).Keeps (fun _ => True) Task.Faithful fun _ _ => True := by
    refine noted.invariant (Note.absent_keeps _ _ _) fun n e n' keeps _ step => ?_
    refine keeps.step step (fun _ _ _ => trivial) (fun r t started => Task.Faithful.begins started) ?_ ?_ ?_
    · intro t fault env q r _ _ _ _ _
      refine ⟨trivial, fun u faithful n quoted => ?_, fun _ _ => trivial⟩
      exact (faithful n quoted).trans (t.write_request cfg r).symm
    · intro t fault env q r u _ _ _ _ faithful next n quoted
      exact (faithful.goes next n quoted).trans (t.write_request cfg r).symm
    · intro _ _ _ _ _ _
      trivial
  exact keeps.tasks t (List.mem_filterMap.mpr ⟨op, mem, own⟩) r row

/-- A request in progress is an old one, or one that has just arrived. -/
theorem Sys.step_request {c' : CreateOp} (h : s.step cfg l = some s') (mem : .create c' ∈ s'.ops) :
    (∃ c, .create c ∈ s.ops ∧ c.payload = c'.payload) ∨ l = .createNotification c'.payload := by
  have known : .create c' ∈ s.ops →
      (∃ c, .create c ∈ s.ops ∧ c.payload = c'.payload) ∨ l = .createNotification c'.payload :=
    fun old => Or.inl ⟨c', old, rfl⟩
  have beside {id : Nat} {t : Task} (mem : .create c' ∈ s.ops ++ [.task id t]) : .create c' ∈ s.ops :=
    (List.mem_append.mp mem).resolve_right fun new => by cases List.mem_singleton.mp new
  cases l with
  | createNotification payload =>
    cases Option.some.inj h
    rcases List.mem_append.mp mem with old | new
    · exact known old
    · cases List.mem_singleton.mp new
      exact Or.inr rfl
  | retryNotification id =>
    cases Option.some.inj h
    exact known (beside mem)
  | dequeue fault =>
    simp only [Sys.step] at h
    split at h
    next => exact known (Option.some.inj h ▸ mem)
    next =>
      split at h
      next =>
        cases Option.some.inj h
        exact known (beside mem)
      next =>
        rw [← Option.some.inj h] at mem
        split at mem <;> exact known mem
  | expire now =>
    simp only [Sys.step] at h
    split at h
    next => cases h
    next =>
      split at h
      next =>
        cases Option.some.inj h
        exact known mem
      next => cases h
  | deliver =>
    simp only [Sys.step] at h
    split at h
    next => cases h
    next =>
      cases Option.some.inj h
      exact known (beside mem)
  | forget key =>
    cases Option.some.inj h
    exact known mem
  | restart =>
    cases Option.some.inj h
    exact known mem
  | run i fault env =>
    obtain ⟨op, hop, rfl⟩ := Option.map_eq_some_iff.mp h
    have here : op ∈ s.ops := List.mem_of_getElem? hop
    rcases List.mem_or_eq_of_mem_set mem with old | ran
    · exact known old
    · cases op with
      | create c => exact Or.inl ⟨c, here, (CreateOp.run_payload ran.symm).symm⟩
      | task id t =>
        simp only [Op.run, Op.ofNext] at ran
        split at ran <;> cases ran
      | done => cases ran

/-- A row is an old one, or what a request in progress asks for. -/
theorem Sys.step_stored (fresh : s.world.Fresh) (mapped : ∀ c, .create c ∈ s.ops → c.Mapped)
    (h : s.step cfg l = some s') {id : Nat} (row : s'.world.rows id = some r) :
    (∃ n, s.world.rows id = some n ∧ r.request = n.request) ∨
      ∃ c channel, .create c ∈ s.ops ∧ c.payload.Asks channel r := by
  cases before : s.world.rows id with
  | some n =>
    have one : Sys.Reach cfg (fun _ _ => True) s s' := .next .start trivial h
    have kept : (s'.world.rows id).map (·.request) = some n.request :=
      reach_column fresh (fun _ _ _ => rfl) one (by rw [before]; rfl)
    rw [row] at kept
    exact Or.inl ⟨n, rfl, Option.some.inj kept⟩
  | none =>
    rcases Sys.step_keys h with kept | ⟨i, fault, env, c, channel, rest, _, hop, pc, inserted, world⟩
    · have key := kept.keys id
      rw [World.keyAt, World.keyAt, row, before] at key
      cases key
    · have there : .create c ∈ s.ops := List.mem_of_getElem? hop
      have upcoming : channel ∈ c.upcoming := by
        rw [CreateOp.upcoming, pc]
        exact List.mem_cons_self ..
      have is : r = c.payload.row channel env.now := by
        rw [world] at row
        simp only [World.insert] at row
        split at row
        next => exact (Option.some.inj row).symm
        next =>
          rw [before] at row
          cases row
      refine Or.inr ⟨c, channel, there, ?_⟩
      rw [is]
      refine NotificationCreate.asks_row env.now (mapped c there channel upcoming) ?_
      unfold World.insertResult at inserted
      split at inserted
      next => cases inserted
      next fits =>
        obtain ⟨key, recipient⟩ := not_or.mp fits
        exact ⟨Nat.le_of_not_lt key, Nat.le_of_not_lt recipient⟩

end Steps

section Runs

variable {cfg : Config} {ok : Transition.Logged Sys NotificationCreate → Label → Prop} {start : Int}
  {a : Transition.Logged Sys NotificationCreate}

theorem requested_payloads (run : (Sys.requested cfg).Reach ok ⟨.initial, start, []⟩ a) :
    ∀ c, .create c ∈ a.state.ops → c.payload ∈ a.log := by
  induction run with
  | start => exact fun c mem => absurd mem List.not_mem_nil
  | next _ _ step ih =>
    obtain ⟨step, _, log⟩ := Transition.Recorder.next_eq_some step
    intro c' mem
    rw [log]
    rcases Sys.step_request step mem with ⟨c, there, same⟩ | rfl
    · exact List.mem_append_left _ (same ▸ ih c there)
    · exact List.mem_append_right _ (List.mem_singleton_self _)

theorem requested_rows (run : (Sys.requested cfg).Reach ok ⟨.initial, start, []⟩ a) :
    ∀ id r, a.state.world.rows id = some r → ∃ p ∈ a.log, ∃ channel, p.Asks channel r := by
  induction run with
  | start =>
    intro id r row
    cases row
  | @next a b l reached _ step ih =>
    have before : Sys.Reach cfg (fun _ _ => True) .initial a.state :=
      Transition.Recorder.Reach.unlogged (fun _ _ _ => trivial) reached
    obtain ⟨step, _, log⟩ := Transition.Recorder.next_eq_some step
    intro id r row
    rw [log]
    rcases Sys.step_stored (reach_fresh (fun _ _ => rfl) before) (reach_mapped before) step row with
      ⟨n, row, same⟩ | ⟨c, channel, there, asks⟩
    · obtain ⟨p, mem, channel, asks⟩ := ih id n row
      exact ⟨p, List.mem_append_left _ mem, channel, asks.congr same⟩
    · exact ⟨c.payload, List.mem_append_left _ (requested_payloads reached c there), channel, asks⟩

end Runs

/-- Whatever fails, and however often something is retried or delivered again: every row says what some request
of the run asked for on a channel of its event, and so does everything that a provider is called with. -/
theorem nothing_unasked {cfg : Config} {start : Int} {a : Transition.Logged Sys NotificationCreate}
    (run : (Sys.requested cfg).Reach (fun _ _ => True) ⟨.initial, start, []⟩ a) :
    (∀ id r, a.state.world.rows id = some r → ∃ p ∈ a.log, ∃ channel, p.Asks channel r) ∧
      ∀ (i : Nat) id n, a.state.ops[i]? = some (.task id (.dispatch (.send n))) →
        ∃ p ∈ a.log, ∃ channel, p.Asks channel n := by
  have plain : Sys.Reach cfg (fun _ _ => True) .initial a.state :=
    Transition.Recorder.Reach.unlogged (fun _ _ _ => trivial) run
  refine ⟨requested_rows run, fun i id n working => ?_⟩
  have here : Op.task id (.dispatch (.send n)) ∈ a.state.ops := List.mem_of_getElem? working
  have own : (Op.task id (.dispatch (.send n))).taskOf id = some (.dispatch (.send n)) := by simp [Op.taskOf]
  obtain ⟨r, row⟩ : ∃ r, a.state.world.rows id = some r := by
    cases row : a.state.world.rows id with
    | some r => exact ⟨r, rfl⟩
    | none =>
      have bare := (reach_rooted plain id row).tasks _ (List.mem_filterMap.mpr ⟨_, here, own⟩)
      cases bare
  obtain ⟨p, mem, channel, asks⟩ := requested_rows run id r row
  exact ⟨p, mem, channel, asks.congr (reach_faithful plain row here own n rfl)⟩

/-- The worker of a notification is about to call its provider. -/
def Op.sends (id : Nat) : Op → Bool
  | task j (.dispatch (.send _)) => decide (j = id)
  | _ => false

theorem Op.eq_of_sends {id : Nat} {op : Op} (sends : op.sends id = true) :
    ∃ n, op = .task id (.dispatch (.send n)) := by
  unfold Op.sends at sends
  split at sends
  next j n => exact ⟨n, by rw [of_decide_eq_true sends]⟩
  next => cases sends

/-- A worker is about to call the provider of an OTP. -/
theorem nothing_unasked_sending : ∃ a n, (Sys.requested defaultConfig).Reach (fun _ _ => True) ⟨.initial, 0, []⟩ a ∧
    a.log.map (·.idempotencyKey) = ["otp-1"] ∧ a.state.ops[1]? = some (.task 1 (.dispatch (.send n))) ∧
      ∃ p ∈ a.log, ∃ channel, p.Asks channel n := by
  have ran : (Transition.trace (Sys.requested defaultConfig).next (fun _ _ => true) ⟨.initial, 0, []⟩
      ([.createNotification otpRequest] ++ calls 0 5 (accepting true) ++ [.dequeue .none] ++
        calls 1 4 (accepting true))).map (fun a =>
          (a.log.map (·.idempotencyKey), a.state.ops[1]?.any (Op.sends 1))) = some (["otp-1"], true) := by
    decide +kernel
  obtain ⟨a, reached, facts⟩ := Option.map_eq_some_iff.mp ran
  simp only [Prod.mk.injEq] at facts
  obtain ⟨op, there, sends⟩ := (Option.any_eq_true _ _).mp facts.2
  obtain ⟨n, rfl⟩ := Op.eq_of_sends sends
  have run : (Sys.requested defaultConfig).Reach (fun _ _ => True) ⟨.initial, 0, []⟩ a :=
    (Transition.trace_reach .start reached).mono fun _ _ _ => trivial
  exact ⟨a, n, run, facts.1, there, (nothing_unasked run).2 1 1 n there⟩

end NotificationEngine
