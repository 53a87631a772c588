import NotificationEngine.DeadLetterFacts
import NotificationEngine.MockProviders
import NotificationEngine.RunConditions
import NotificationEngine.Backoff

namespace NotificationEngine

/-- The service with the providers of `main`. -/
structure Mocked where
  sys : Sys
  providers : NotificationChannel → MockProvider

/-- `main` at its start, with the given failure rates. -/
def Mocked.start (rate : NotificationChannel → Rat) : Mocked :=
  ⟨.initial, fun channel => ⟨channel, rate channel, true⟩⟩

/-- What the outside gives to one call, the providers apart. -/
structure MockEnv where
  draws : Draws
  now : Int
  draw : Nat

/-- The notification whose provider an operation is about to call. -/
def Op.calling : Op → Option Notification
  | task _ (.dispatch (.health n)) => some n
  | task _ (.dispatch (.send n)) => some n
  | _ => none

/-- The answer of a call of the operation; only providers' answers depend on the state. -/
def Mocked.env (m : Mocked) (op : Op) (e : MockEnv) : Env :=
  match op.calling with
  | some n =>
    { hasProvider := true, healthy := (m.providers n.channel).healthCheck,
      result := ((m.providers n.channel).send e.draws n.recipient).toProviderResult, now := e.now, draw := e.draw }
  | none => { hasProvider := true, healthy := true, result := ⟨false, none, none⟩, now := e.now, draw := e.draw }

inductive MockLabel
  | simulateDowntime (channel : NotificationChannel)
  | simulateRecovery (channel : NotificationChannel)
  | run (i : Nat) (fault : Fault) (e : MockEnv)
  | moves (l : Label)

def MockLabel.recovers (channel : NotificationChannel) : MockLabel → Bool
  | simulateRecovery other => other = channel
  | _ => false

def Label.calls : Label → Bool
  | run _ _ _ => true
  | _ => false

/-- A provider of `main` does not raise. -/
def Mocked.step (cfg : Config) (m : Mocked) : MockLabel → Option Mocked
  | .simulateDowntime channel =>
    some { m with providers := Function.update m.providers channel (m.providers channel).simulateDowntime }
  | .simulateRecovery channel =>
    some { m with providers := Function.update m.providers channel (m.providers channel).simulateRecovery }
  | .run i fault e => m.sys.ops[i]?.bind fun op =>
    if op.callsProvider && fault.isRaised then none
    else (m.sys.step cfg (.run i fault (m.env op e))).map fun s => { m with sys := s }
  | .moves l => if l.calls then none else (m.sys.step cfg l).map fun s => { m with sys := s }

abbrev Mocked.Reach (cfg : Config) (ok : Mocked → MockLabel → Prop) : Mocked → Mocked → Prop :=
  Transition.Reach (fun m l m' => m.step cfg l = some m') ok

/-- The answer that a task gets is one of a mock provider of its channel. -/
def Task.Mocks (env : Env) : Task → Prop
  | dispatch .select => env.hasProvider = true
  | dispatch (.send n) => ∃ (p : MockProvider) (d : Draws), p.channel = n.channel ∧
      env.result = (p.send d n.recipient).toProviderResult
  | _ => True

def NoteLabel.Mocks : NoteLabel → Prop
  | ran t _ env _ => t.Mocks env
  | _ => True

def Sys.Mocks (s : Sys) : Label → Prop
  | .run i _ env => ∀ id t, s.ops[i]? = some (.task id t) → t.Mocks env
  | _ => True

/-- What is stored of a notification is what its mock provider could have answered. -/
structure Notification.Mocked (r : Notification) : Prop where
  error : ∀ code, r.errorCode = some code → code ∈ mockErrors r.channel r.recipient
  identified : ∀ x, r.externalId = some x →
    mockAccepts r.channel r.recipient = true ∧ ∃ hex, x = mockExternalId r.channel hex
  accepted : r.status = .sent → mockAccepts r.channel r.recipient = true

/-- What a task is about to store of it, too. -/
def Task.Mocked (r : Notification) : Task → Prop
  | dispatch (.commitQueued n) => n.SameNotice r
  | dispatch (.health n) => n.SameNotice r
  | dispatch (.send n) => n.SameNotice r
  | dispatch (.commitSent _ externalId _) => mockAccepts r.channel r.recipient = true ∧
      ∃ hex, externalId = some (mockExternalId r.channel hex)
  | dispatch (.commitFailed _ code _) => code ∈ mockErrors r.channel r.recipient
  | dispatch (.commitRetrying _ code _ _) => code ∈ mockErrors r.channel r.recipient
  | _ => True

section Steps

variable {cfg : Config} {env : Env} {q : QueueService} {id : Nat} {fault : Fault} {r : Notification} {t u : Task}

theorem mockErrors_providerDown (channel : NotificationChannel) (recipient : String) :
    .providerDown ∈ mockErrors channel recipient := by
  cases channel with
  | sms =>
    simp only [mockErrors]
    split <;> simp
  | _ => simp [mockErrors]

/-- The error of a scheduled retry is the one it was asked for. -/
theorem scheduleRetry_mocked {n : Notification} {code : NotificationErrorCode}
    (known : code ∈ mockErrors r.channel r.recipient)
    (next : (scheduleRetry cfg env n code).map Task.dispatch = some u) : u.Mocked r := by
  rcases scheduleRetry_cases cfg env n code with ⟨_, is⟩ | ⟨_, delay, is⟩
  · rw [is] at next
    cases next
    exact known
  · rw [is] at next
    cases next
    exact known

theorem afterSend_mocked {n : Notification} (known : n.SameNotice r) {p : MockProvider} {d : Draws}
    (own : p.channel = n.channel) (answers : env.result = (p.send d n.recipient).toProviderResult)
    (next : (afterSend cfg env n).map Task.dispatch = some u) : u.Mocked r := by
  rcases p.send_cases d n.recipient with ⟨_, accepts, sent⟩ | ⟨code, error, failed⟩
  · rw [own, known.channel, known.recipient] at accepts
    rw [own, known.channel] at sent
    rw [afterSend, answers, sent] at next
    cases next
    exact ⟨accepts, d.hex, rfl⟩
  · rw [own, known.channel, known.recipient] at error
    rw [failed] at answers
    rcases afterSend_cases cfg env n with ⟨success, _⟩ | ⟨_, ⟨none, _⟩ | ⟨code', is, ⟨_, h⟩ | ⟨_, h⟩⟩⟩
    · rw [answers] at success
      cases success
    · rw [answers, ProviderResult.code_value] at none
      cases none
    · rw [answers, ProviderResult.code_value] at is
      cases is
      rw [h] at next
      cases next
      exact error
    · rw [answers, ProviderResult.code_value] at is
      cases is
      rw [h] at next
      exact scheduleRetry_mocked error next

theorem Task.act_mocked (mocks : t.Mocks env) (known : t.Mocked r)
    (next : (t.act cfg env id q (some r)).next = some u) : u.Mocked r := by
  rcases t with pc | pc | pc | pc
  · cases pc with
    | select =>
      have has : env.hasProvider = true := mocks
      simp only [Task.act, DispatchPc.act, has, if_true] at next
      cases next
      exact ⟨rfl, rfl, rfl, rfl⟩
    | refreshQueued =>
      cases next
      exact ⟨rfl, rfl, rfl, rfl⟩
    | health n =>
      simp only [Task.act, DispatchPc.act] at next
      split at next
      next =>
        cases next
        exact known
      next => exact scheduleRetry_mocked (mockErrors_providerDown _ _) next
    | send n =>
      obtain ⟨p, d, own, answers⟩ := mocks
      exact afterSend_mocked known own answers next
    | _ =>
      cases Task.act_goes next with
      | exhausted own _ => rcases own with is | is <;> cases is
      | scheduled own _ _ => rcases own with is | is <;> cases is
      | _ => trivial
  · cases Task.act_goes next <;> trivial
  · cases Task.act_goes next <;> trivial
  · cases Task.act_goes next
    trivial

/-- A commit keeps what it does not change. -/
theorem Notification.Mocked.flush {n new : Notification} (mocked : r.Mocked)
    (error : new.errorCode ≠ n.errorCode →
      ∀ code, new.errorCode = some code → code ∈ mockErrors r.channel r.recipient)
    (identified : new.externalId ≠ n.externalId → ∀ x, new.externalId = some x →
      mockAccepts r.channel r.recipient = true ∧ ∃ hex, x = mockExternalId r.channel hex)
    (accepted : new.status = .sent → mockAccepts r.channel r.recipient = true ∨ n.status = .sent) :
    (n.flush new r).Mocked := by
  refine ⟨fun code is => ?_, fun x is => ?_, fun sent => ?_⟩
  · by_cases same : new.errorCode = n.errorCode
    · rw [show (n.flush new r).errorCode = r.errorCode from if_pos same] at is
      exact mocked.error code is
    · rw [show (n.flush new r).errorCode = new.errorCode from if_neg same] at is
      exact error same code is
  · by_cases same : new.externalId = n.externalId
    · rw [show (n.flush new r).externalId = r.externalId from if_pos same] at is
      exact mocked.identified x is
    · rw [show (n.flush new r).externalId = new.externalId from if_neg same] at is
      exact identified same x is
  · by_cases same : new.status = n.status
    · rw [show (n.flush new r).status = r.status from if_pos same] at sent
      exact mocked.accepted sent
    · rw [show (n.flush new r).status = new.status from if_neg same] at sent
      rcases accepted sent with accepts | was
      · exact accepts
      · exact absurd (sent.trans was.symm) same

theorem Notification.Mocked.write (mocked : r.Mocked) (known : t.Mocked r) : (t.write cfg r).Mocked := by
  rcases t with pc | pc | pc | pc
  · cases pc with
    | commitQueued n =>
      exact mocked.flush (fun new => absurd rfl new) (fun new => absurd rfl new) fun is => by cases is
    | commitSent n externalId now =>
      obtain ⟨accepts, hex, is⟩ := known
      refine mocked.flush (fun new => absurd rfl new) (fun _ x got => ⟨accepts, hex, ?_⟩) fun _ => Or.inl accepts
      exact Option.some.inj (got.symm.trans is)
    | commitFailed n code exhausted =>
      refine mocked.flush (fun _ code' got => ?_) (fun new => absurd rfl new) fun is => by cases is
      cases got
      exact known
    | commitRetrying n code count delay =>
      refine mocked.flush (fun _ code' got => ?_) (fun new => absurd rfl new) fun is => by cases is
      cases got
      exact known
    | _ => exact mocked
  · exact mocked
  · cases pc with
    | commitPending n =>
      exact mocked.flush (fun _ code got => by cases got) (fun new => absurd rfl new) fun is => by cases is
    | _ => exact mocked
  · exact mocked

theorem Task.Mocked.write (known : u.Mocked r) (cfg : Config) (t : Task) : u.Mocked (t.write cfg r) := by
  have same : Notification.SameNotice r (t.write cfg r) := Notification.SameNotice.write ⟨rfl, rfl, rfl, rfl⟩ cfg t
  rcases u with pc | pc | pc | pc
  · cases pc with
    | commitQueued n => exact Notification.SameNotice.write known cfg t
    | health n => exact Notification.SameNotice.write known cfg t
    | send n => exact Notification.SameNotice.write known cfg t
    | commitSent n externalId now =>
      simp only [Task.Mocked, ← same.channel, ← same.recipient]
      exact known
    | commitFailed n code exhausted =>
      simp only [Task.Mocked, ← same.channel, ← same.recipient]
      exact known
    | commitRetrying n code count delay =>
      simp only [Task.Mocked, ← same.channel, ← same.recipient]
      exact known
    | _ => trivial
  · trivial
  · trivial
  · trivial

/-- What is stored and what is about to be stored of a notification, as mock providers answer. -/
def Note.Mocked (n : Note) : Prop := n.Keeps Notification.Mocked Task.Mocked fun _ _ => True

theorem Note.Mocked.step {j : Nat} {n n' : Note} {e : NoteLabel} (mocked : n.Mocked) (mocks : e.Mocks)
    (h : Note.Step cfg j n e n') : n'.Mocked := by
  refine Note.Keeps.step mocked h ?_ ?_ ?_ ?_ fun _ _ _ _ _ _ => trivial
  · intro payload channel ctime
    refine ⟨fun code is => ?_, fun x is => ?_, fun is => ?_⟩ <;> cases is
  · rintro r t (bare | rfl | rfl | rfl)
    · rcases t with pc | pc | pc | pc
      · cases bare
      · trivial
      · trivial
      · trivial
    · trivial
    · trivial
    · trivial
  · intro t fault env q r _ _ _ known own
    exact ⟨known.write own, fun u other => other.write cfg t, fun _ _ => trivial⟩
  · intro t fault env q r u is _ _ _ own next
    subst is
    refine Task.Mocked.write ?_ cfg t
    cases fault with
    | none => exact Task.act_mocked mocks own next
    | stopped effect => cases next
    | raised effect =>
      have landed : t.afterRaise = some u := next
      unfold Task.afterRaise at landed
      split at landed <;> cases landed <;> trivial

end Steps

section Runs

variable {cfg : Config} {m m' : Mocked} {l : MockLabel} {rate : NotificationChannel → Rat}

theorem seen_mocks {s : Sys} {l : Label} {j : Nat} {e : NoteLabel} (mocks : s.Mocks l) (seen : s.Seen j l e) :
    e.Mocks := by
  cases seen with
  | ran hop ht =>
    rcases taskOf_eq_some ht with rfl | ⟨c, pc, rest, rfl, _, rfl⟩
    · exact mocks j _ hop
    · trivial
  | _ => trivial

/-- The provider of a channel stays the provider of that channel. -/
theorem Mocked.step_channel (own : ∀ channel, (m.providers channel).channel = channel)
    (h : m.step cfg l = some m') : ∀ channel, (m'.providers channel).channel = channel := by
  intro channel
  cases l with
  | simulateDowntime other =>
    cases Option.some.inj h
    by_cases same : channel = other
    · subst same
      simpa [MockProvider.simulateDowntime] using own channel
    · simpa [same] using own channel
  | simulateRecovery other =>
    cases Option.some.inj h
    by_cases same : channel = other
    · subst same
      simpa [MockProvider.simulateRecovery] using own channel
    · simpa [same] using own channel
  | run i fault e =>
    obtain ⟨op, _, h⟩ := Option.bind_eq_some_iff.mp h
    split at h
    next => cases h
    next =>
      obtain ⟨s, _, rfl⟩ := Option.map_eq_some_iff.mp h
      exact own channel
  | moves l =>
    simp only [Mocked.step] at h
    split at h
    next => cases h
    next =>
      obtain ⟨s, _, rfl⟩ := Option.map_eq_some_iff.mp h
      exact own channel

/-- A step of the providers is none of the service; every other one is a step of it, with answers of its
mock providers. -/
theorem Mocked.step_cases (own : ∀ channel, (m.providers channel).channel = channel) (h : m.step cfg l = some m') :
    m'.sys = m.sys ∨ m'.providers = m.providers ∧ ∃ l', m.sys.step cfg l' = some m'.sys ∧ m.sys.Mocks l' ∧
      ∀ i fault env, l' = .run i fault env → ∃ op e, m.sys.ops[i]? = some op ∧ env = m.env op e := by
  cases l with
  | simulateDowntime channel => cases Option.some.inj h; exact Or.inl rfl
  | simulateRecovery channel => cases Option.some.inj h; exact Or.inl rfl
  | run i fault e =>
    obtain ⟨op, hop, h⟩ := Option.bind_eq_some_iff.mp h
    split at h
    next => cases h
    next =>
      obtain ⟨s, step, rfl⟩ := Option.map_eq_some_iff.mp h
      refine Or.inr ⟨rfl, _, step, ?_, fun i' fault' env is => ?_⟩
      · intro id t there
        cases hop.symm.trans there
        rcases t with pc | pc | pc | pc
        · cases pc with
          | select => rfl
          | send n => exact ⟨m.providers n.channel, e.draws, own n.channel, rfl⟩
          | _ => trivial
        · trivial
        · trivial
        · trivial
      · cases is
        exact ⟨op, e, hop, rfl⟩
  | moves l =>
    simp only [Mocked.step] at h
    split at h
    next => cases h
    next silent =>
      obtain ⟨s, step, rfl⟩ := Option.map_eq_some_iff.mp h
      refine Or.inr ⟨rfl, l, step, ?_, fun i fault env is => ?_⟩
      · cases l with
        | run i fault env => exact absurd rfl silent
        | _ => trivial
      · subst is
        exact absurd rfl silent

theorem Mocked.reach_own {ok : Mocked → MockLabel → Prop} (run : Mocked.Reach cfg ok (.start rate) m) :
    ∀ channel, (m.providers channel).channel = channel := by
  induction run with
  | start => exact fun _ => rfl
  | next _ _ step own => exact Mocked.step_channel own step

/-- A run with mock providers is a run of the service. -/
theorem Mocked.refines {ok : Mocked → MockLabel → Prop} (run : Mocked.Reach cfg ok (.start rate) m) :
    Sys.Reach cfg Sys.Mocks .initial m.sys := by
  induction run with
  | start => exact .start
  | next reached _ step ih =>
    rcases Mocked.step_cases (Mocked.reach_own reached) step with same | ⟨_, l', moved, mocks, _⟩
    · rw [same]
      exact ih
    · exact .next ih mocks moved

theorem Mocked.reach_note {ok : Mocked → MockLabel → Prop} (run : Mocked.Reach cfg ok (.start rate) m) (id : Nat) :
    (m.sys.note id).Mocked := by
  have noted : Transition.Reach (Note.Step cfg id) (fun _ e => e.Mocks) Note.absent (m.sys.note id) :=
    note_reach (fun _ _ _ mocks seen => seen_mocks mocks seen) (Mocked.refines run)
  exact noted.invariant (Note.absent_keeps _ _ _) fun _ _ _ mocked mocks step => mocked.step mocks step

end Runs

/-- With the providers of `main`, whatever else fails, and however often they go down: a stored error is one
that the channel's provider has for that recipient, a stored external id was made for the channel, and no SMS
is sent or identified whose number does not begin with a plus sign. -/
theorem mock_outcomes {cfg : Config} {rate : NotificationChannel → Rat} {m : Mocked}
    (run : Mocked.Reach cfg (fun _ _ => True) (.start rate) m) {id : Nat} {r : Notification}
    (row : m.sys.world.rows id = some r) : r.Mocked :=
  (Mocked.reach_note run id).row r row

/-- The calls of one operation, with draws that make no provider fail. -/
def mockCalls (i count : Nat) : List MockLabel :=
  List.replicate count (.run i .none ⟨⟨1 / 2, 1 / 2, "0123456789abcdef"⟩, 100000, 0⟩)

/-- An OTP to a number without a plus sign. -/
def undialableOtp : List MockLabel :=
  [.moves (.createNotification { otpRequest with
    recipient := ⟨none, some "4915112345678", none⟩, hasRecipient := by decide })] ++
    mockCalls 0 5 ++ [.moves (.dequeue .none)] ++ mockCalls 1 7

theorem mock_outcomes_undialable : ∃ m r,
    Mocked.Reach defaultConfig (fun _ _ => True) (.start fun _ => 1 / 10) m ∧ m.sys.world.rows 1 = some r ∧
      r.status = .failed ∧ r.errorCode = some .invalidRecipient ∧ r.Mocked := by
  have ran : ((Transition.trace (Mocked.step defaultConfig) (fun _ _ => true) (.start fun _ => 1 / 10)
      undialableOtp).bind fun m => (m.sys.world.rows 1).map fun r => (r.status, r.errorCode)) =
        some (.failed, some .invalidRecipient) := by decide +kernel
  obtain ⟨m, reached, ran⟩ := Option.bind_eq_some_iff.mp ran
  obtain ⟨r, row, facts⟩ := Option.map_eq_some_iff.mp ran
  simp only [Prod.mk.injEq] at facts
  have run : Mocked.Reach defaultConfig (fun _ _ => True) (.start fun _ => 1 / 10) m :=
    (Transition.trace_reach .start reached).mono fun _ _ _ => trivial
  exact ⟨m, r, run, row, facts.1, facts.2, mock_outcomes run row⟩

/-- A call that delivers is a `send` that its provider accepted. -/
theorem Task.run_delivered {cfg : Config} {env : Env} {id : Nat} {q : QueueService} {db : Option Notification}
    {fault : Fault} {t : Task} (h : (t.run cfg env id q db fault).delivered = true) :
    ∃ n, t = .dispatch (.send n) ∧ env.result.success = true := by
  have acted : (t.act cfg env id q db).delivered = true := by
    cases fault with
    | none => exact h
    | raised effect => cases effect <;> cases h
    | stopped effect => cases effect <;> cases h
  rw [(t.act_effects cfg env id q db).delivered] at acted
  rcases t with pc | pc | pc | pc
  · cases pc with
    | send n => exact ⟨n, rfl, acted⟩
    | _ => cases acted
  · cases acted
  · cases acted
  · cases acted

section Downtime

variable {cfg : Config} {ok : Mocked → MockLabel → Prop} {m m' : Mocked} {l : MockLabel}
  {rate : NotificationChannel → Rat}

theorem Mocked.reach_fresh (run : Mocked.Reach cfg ok (.start rate) m) : m.sys.world.Fresh :=
  NotificationEngine.reach_fresh (fun _ _ => rfl) (Mocked.refines run)

/-- A row that is there stays there, on its channel. -/
theorem Mocked.step_row (run : Mocked.Reach cfg ok (.start rate) m) (h : m.step cfg l = some m') {id : Nat}
    {r : Notification} (row : m.sys.world.rows id = some r) :
    ∃ r', m'.sys.world.rows id = some r' ∧ r'.channel = r.channel := by
  rcases Mocked.step_cases (Mocked.reach_own run) h with same | ⟨_, l', moved, _⟩
  · rw [same]
    exact ⟨r, row, rfl⟩
  · have one : Sys.Reach cfg (fun _ _ => True) m.sys m'.sys := .next .start trivial moved
    have kept : (m'.sys.world.rows id).map (·.channel) = some r.channel :=
      reach_column (Mocked.reach_fresh run) (fun _ _ _ => rfl) one (by rw [row]; rfl)
    exact Option.map_eq_some_iff.mp kept

/-- Only a healthy provider delivers, and only notifications of its channel. -/
theorem Mocked.step_deliveries (run : Mocked.Reach cfg ok (.start rate) m) (h : m.step cfg l = some m') :
    m'.sys.world.deliveries = m.sys.world.deliveries ∨ ∃ id r,
      m'.sys.world.deliveries = m.sys.world.deliveries ++ [id] ∧ m.sys.world.rows id = some r ∧
        (m.providers r.channel).healthy = true := by
  rcases Mocked.step_cases (Mocked.reach_own run) h with same | ⟨_, l', moved, _, answers⟩
  · rw [same]
    exact Or.inl rfl
  · cases l' with
    | run i fault env =>
      obtain ⟨op, e, hop, env_is⟩ := answers i fault env rfl
      obtain ⟨op', hop', ran⟩ := Option.map_eq_some_iff.mp moved
      cases hop.symm.trans hop'
      have world := congrArg Sys.world ran
      rcases Op.run_cases cfg env m.sys.world fault op with ⟨id, t, own, call⟩ | ⟨_, rows, nextId, idemKeys, call⟩
      · rw [call] at world
        cases delivered : (t.run cfg env id m.sys.world.service (m.sys.world.rows id) fault).delivered with
        | false =>
          rw [← world]
          exact Or.inl (by simp [World.apply, delivered])
        | true =>
          refine Or.inr ⟨id, ?_⟩
          obtain ⟨n, rfl, success⟩ := Task.run_delivered delivered
          have here : Task.dispatch (.send n) ∈ (m.sys.note id).tasks :=
            List.mem_filterMap.mpr ⟨op, List.mem_of_getElem? hop, own⟩
          have mocked := Mocked.reach_note run id
          cases row : m.sys.world.rows id with
          | none => cases (mocked.rooted row).tasks _ here
          | some r =>
            refine ⟨r, by rw [← world]; simp [World.apply, delivered], rfl, ?_⟩
            have same : n.SameNotice r := mocked.tasks _ here r row
            rcases taskOf_eq_some own with rfl | ⟨c, pc, rest, rfl, _, is⟩
            · by_contra down
              have refused := (m.providers n.channel).send_down e.draws n.recipient
                (by rw [same.channel]; simpa using down)
              rw [env_is] at success
              exact absurd success (by simp [Mocked.env, Op.calling, refused])
            · cases is
      · rw [call] at world
        exact Or.inl (by rw [← world])
    | _ =>
      obtain ⟨_, _, _, _, _, world⟩ := Sys.step_parks moved fun _ _ _ is => by cases is
      exact Or.inl (by rw [world])

theorem Mocked.step_down {channel : NotificationChannel} (down : (m.providers channel).healthy = false)
    (kept : l.recovers channel = false) (h : m.step cfg l = some m') : (m'.providers channel).healthy = false := by
  cases l with
  | simulateDowntime other =>
    cases Option.some.inj h
    by_cases same : channel = other
    · subst same
      simp [MockProvider.simulateDowntime]
    · simpa [same] using down
  | simulateRecovery other =>
    cases Option.some.inj h
    have other_is : channel ≠ other := fun same => of_decide_eq_false kept same.symm
    simpa [other_is] using down
  | run i fault e =>
    obtain ⟨op, _, h⟩ := Option.bind_eq_some_iff.mp h
    split at h
    next => cases h
    next =>
      obtain ⟨s, _, rfl⟩ := Option.map_eq_some_iff.mp h
      exact down
  | moves l =>
    simp only [Mocked.step] at h
    split at h
    next => cases h
    next =>
      obtain ⟨s, _, rfl⟩ := Option.map_eq_some_iff.mp h
      exact down

/-- What is not of another channel is not delivered while the channel is down. -/
theorem Mocked.down_reach {channel : NotificationChannel} (run : Mocked.Reach cfg ok (.start rate) m)
    (down : (m.providers channel).healthy = false)
    (later : Mocked.Reach cfg (fun _ l => l.recovers channel = false) m m') :
    Mocked.Reach cfg (fun _ _ => True) (.start rate) m' ∧ (m'.providers channel).healthy = false ∧
      ∀ id, (∀ r, m'.sys.world.rows id = some r → r.channel = channel) →
        m'.sys.world.deliveries.count id = m.sys.world.deliveries.count id := by
  induction later with
  | start => exact ⟨run.mono fun _ _ _ => trivial, down, fun _ _ => rfl⟩
  | @next b c l _ kept step ih =>
    obtain ⟨reached, still, same⟩ := ih
    refine ⟨.next reached trivial step, Mocked.step_down still kept step, fun id own => ?_⟩
    have before : ∀ r, b.sys.world.rows id = some r → r.channel = channel := by
      intro r row
      obtain ⟨r', row', stays⟩ := Mocked.step_row reached step row
      exact stays.symm.trans (own r' row')
    rcases Mocked.step_deliveries reached step with none | ⟨other, r, more, row, healthy⟩
    · rw [none]
      exact same id before
    · have ne : other ≠ id := by
        rintro rfl
        rw [before r row, still] at healthy
        cases healthy
      rw [more, List.count_append, same id before, List.count_singleton]
      simp [ne]

end Downtime

/-- While the provider of a channel is down, nothing of that channel is delivered, whatever else happens. -/
theorem down_delivers_nothing {cfg : Config} {rate : NotificationChannel → Rat} {m m' : Mocked}
    (run : Mocked.Reach cfg (fun _ _ => True) (.start rate) m) {channel : NotificationChannel}
    (down : (m.providers channel).healthy = false)
    (later : Mocked.Reach cfg (fun _ l => l.recovers channel = false) m m') {id : Nat} {r : Notification}
    (row : m'.sys.world.rows id = some r) (own : r.channel = channel) :
    (m'.providers channel).healthy = false ∧
      m'.sys.world.deliveries.count id = m.sys.world.deliveries.count id := by
  obtain ⟨_, still, same⟩ := Mocked.down_reach run down later
  refine ⟨still, same id fun r' row' => ?_⟩
  cases row.symm.trans row'
  exact own

/-- An OTP that is created while its provider is down, and one attempt at it. -/
theorem down_delivers_nothing_sms : ∃ m m' r,
    Mocked.Reach defaultConfig (fun _ _ => True) (.start fun _ => 1 / 10) m ∧
      (m.providers .sms).healthy = false ∧
      Mocked.Reach defaultConfig (fun _ l => l.recovers .sms = false) m m' ∧
      m'.sys.world.rows 1 = some r ∧ r.channel = .sms ∧ r.status = .retrying ∧
      m'.sys.world.deliveries.count 1 = m.sys.world.deliveries.count 1 := by
  have ran : ((Transition.trace (Mocked.step defaultConfig) (fun _ _ => true) (.start fun _ => 1 / 10)
      [.simulateDowntime .sms]).bind fun m => (Transition.trace (Mocked.step defaultConfig)
        (fun _ l => l.recovers .sms = false) m ([.moves (.createNotification otpRequest)] ++ mockCalls 0 5 ++
          [.moves (.dequeue .none)] ++ mockCalls 1 7)).bind fun m' =>
        (m'.sys.world.rows 1).map fun r => ((m.providers .sms).healthy, r.channel, r.status)) =
      some (false, .sms, .retrying) := by decide +kernel
  obtain ⟨m, early, ran⟩ := Option.bind_eq_some_iff.mp ran
  obtain ⟨m', late, ran⟩ := Option.bind_eq_some_iff.mp ran
  obtain ⟨r, row, facts⟩ := Option.map_eq_some_iff.mp ran
  simp only [Prod.mk.injEq] at facts
  have run : Mocked.Reach defaultConfig (fun _ _ => True) (.start fun _ => 1 / 10) m :=
    (Transition.trace_reach .start early).mono fun _ _ _ => trivial
  have later : Mocked.Reach defaultConfig (fun _ l => l.recovers .sms = false) m m' :=
    (Transition.trace_reach .start late).mono fun _ _ kept => of_decide_eq_true kept
  exact ⟨m, m', r, run, facts.1, later, row, facts.2.1, facts.2.2,
    (down_delivers_nothing run facts.1 later row facts.2.1).2⟩

end NotificationEngine
