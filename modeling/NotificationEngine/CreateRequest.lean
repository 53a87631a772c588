import NotificationEngine.CreateAnswer

namespace NotificationEngine

/-- How the insert of a channel's row ends. -/
inductive InsertOutcome
  | success | uniqueViolation | otherError
  deriving DecidableEq, Repr

/-- The outcome of a channel's insert, the database refusing the rows of the channels in `refused`
with an error of its own. -/
def World.insertOutcome (w : World) (p : NotificationCreate) (refused : NotificationChannel → Bool)
    (channel : NotificationChannel) : InsertOutcome :=
  if refused channel then .otherError
  else match w.insertResult (p.row channel 0) with
    | .inserted => .success
    | .uniqueViolation => .uniqueViolation
    | .tooLong => .otherError

/-- A request in `create_notification`. `session` is the identity map of its `AsyncSession`: the
attributes of each instance, `none` where they are expired or there is no instance. -/
structure CreateRequest where
  world : World
  op : CreateOp
  session : Nat → Option Notification

/-- The identity map after the awaited call: `commit` keeps the attributes of every instance,
`refresh` loads those of its own, `rollback` expires all. -/
def CreateOp.instances (env : Env) (w : World) (session : Nat → Option Notification) (c : CreateOp) :
    Nat → Option Notification :=
  match c.pc with
  | .insert channel _ =>
    match w.insertResult (c.newRow env channel) with
    | .inserted => fun i => if i = w.nextId then some (c.newRow env channel) else session i
    | _ => session
  | .saving id .refresh _ => fun i => if i = id then w.rows id else session i
  | .rollback _ => fun _ => none
  | _ => session

/-- How the awaited call ends: every one is answered but the insert of a refused channel. -/
def CreateOp.fault (refused : NotificationChannel → Bool) (c : CreateOp) : Fault :=
  match c.pc with
  | .insert channel _ => if refused channel then .raised false else .none
  | _ => .none

def CreateRequest.call (cfg : Config) (env : Env) (refused : NotificationChannel → Bool)
    (r : CreateRequest) : CreateRequest :=
  match r.op.fault refused with
  | .none =>
    ⟨(r.op.act cfg env r.world).1, (r.op.act cfg env r.world).2, r.op.instances env r.world r.session⟩
  | _ => { r with op := r.op.afterRaise }

def CreateRequest.finish (cfg : Config) (env : Nat → Env) (refused : NotificationChannel → Bool) :
    Nat → Nat → CreateRequest → CreateRequest
  | 0, _, r => r
  | fuel + 1, k, r =>
    match r.op.pc with
    | .returned _ => r
    | .raised => r
    | _ => finish cfg env refused fuel (k + 1) (r.call cfg (env k) refused)

/-- A request from its start in a new session to its end. -/
def World.request (cfg : Config) (p : NotificationCreate) (env : Nat → Env)
    (refused : NotificationChannel → Bool) (w : World) : CreateRequest :=
  let c : CreateOp := ⟨p, [], .setnx⟩
  CreateRequest.finish cfg env refused c.rank 0 ⟨w, c, fun _ => none⟩

section Outcomes

variable {w w' : World} {p : NotificationCreate} {refused : NotificationChannel → Bool}
  {channel : NotificationChannel}

theorem insertOutcome_congr (same : w'.hasKey (channelIdemKey p.idempotencyKey channel) =
    w.hasKey (channelIdemKey p.idempotencyKey channel)) :
    w'.insertOutcome p refused channel = w.insertOutcome p refused channel := by
  have key : (p.row channel 0).idempotencyKey = channelIdemKey p.idempotencyKey channel := rfl
  simp only [World.insertOutcome, World.insertResult, key, same]

theorem insertOutcome_cases (w : World) (p : NotificationCreate) (refused : NotificationChannel → Bool)
    (channel : NotificationChannel) (ctime : Int) :
    w.insertOutcome p refused channel = .otherError ∧
        (refused channel = true ∨ w.insertResult (p.row channel ctime) = .tooLong) ∨
      w.insertOutcome p refused channel = .uniqueViolation ∧ refused channel = false ∧
        w.insertResult (p.row channel ctime) = .uniqueViolation ∨
      w.insertOutcome p refused channel = .success ∧ refused channel = false ∧
        w.insertResult (p.row channel ctime) = .inserted := by
  have timeless : w.insertResult (p.row channel ctime) = w.insertResult (p.row channel 0) := rfl
  unfold World.insertOutcome
  rw [timeless]
  cases refused channel with
  | true => exact Or.inl ⟨rfl, Or.inl rfl⟩
  | false =>
    cases w.insertResult (p.row channel 0) with
    | tooLong => exact Or.inl ⟨rfl, Or.inr rfl⟩
    | uniqueViolation => exact Or.inr (Or.inl ⟨rfl, rfl, rfl⟩)
    | inserted => exact Or.inr (Or.inr ⟨rfl, rfl, rfl⟩)

theorem hasKey_of_insertOutcome (known : w.insertOutcome p refused channel ≠ .otherError) :
    w.hasKey (channelIdemKey p.idempotencyKey channel) = true ↔
      w.insertOutcome p refused channel = .uniqueViolation := by
  have key : (p.row channel 0).idempotencyKey = channelIdemKey p.idempotencyKey channel := rfl
  rcases insertOutcome_cases w p refused channel 0 with ⟨error, _⟩ | ⟨is, _, result⟩ | ⟨is, _, result⟩
  · exact absurd error known
  · refine iff_of_true ?_ is
    unfold World.insertResult at result
    split at result
    next => cases result
    next =>
      split at result
      next taken => exact key ▸ taken
      next => cases result
  · refine iff_of_false ?_ (by rw [is]; decide)
    unfold World.insertResult at result
    split at result
    next => cases result
    next =>
      split at result
      next => cases result
      next free => exact key ▸ free

end Outcomes

/-- The rounds of the loop over the channels, up to the end of the request. -/
inductive CreateRequest.Loop (refused : NotificationChannel → Bool) : List NotificationChannel → World →
    CreateOp → (Nat → Option Notification) → CreateRequest → Prop
  | done {w c session} : Loop refused [] w c session ⟨w, c.nextChannel [], session⟩
  | error {channel rest w c session} : w.insertOutcome c.payload refused channel = .otherError →
      Loop refused (channel :: rest) w c session
        ⟨if refused channel then w else w.skipId, { c with pc := .raised }, session⟩
  | duplicate {channel rest w c session r} : w.insertOutcome c.payload refused channel = .uniqueViolation →
      Loop refused rest w.skipId c (fun _ => none) r → Loop refused (channel :: rest) w c session r
  | created {channel rest w c session r} (ctime score) :
      w.insertOutcome c.payload refused channel = .success →
      Loop refused rest ((w.insert (c.payload.row channel ctime)).enqueue w.nextId score)
        { c with created := c.created ++ [w.nextId] }
        (fun i => if i = w.nextId then some (c.payload.row channel ctime) else session i) r →
      Loop refused (channel :: rest) w c session r

section Rounds

variable {cfg : Config} {env : Nat → Env} {refused : NotificationChannel → Bool} {fuel k : Nat}
  {w : World} {c : CreateOp} {session : Nat → Option Notification} {channel : NotificationChannel}
  {rest : List NotificationChannel}

theorem request_ended (ended : c.rank = 0) :
    CreateRequest.finish cfg env refused fuel k ⟨w, c, session⟩ = ⟨w, c, session⟩ := by
  cases fuel with
  | zero => rfl
  | succ fuel =>
    obtain ⟨payload, created, pc⟩ := c
    cases pc with
    | returned isDuplicate => rfl
    | raised => rfl
    | saving id pc rest => cases pc <;> simp [CreateOp.rank] at ended
    | _ => simp [CreateOp.rank] at ended

theorem request_call (live : 0 < c.rank) :
    CreateRequest.finish cfg env refused (fuel + 1) k ⟨w, c, session⟩ =
      CreateRequest.finish cfg env refused fuel (k + 1)
        (CreateRequest.call cfg (env k) refused ⟨w, c, session⟩) := by
  obtain ⟨payload, created, pc⟩ := c
  cases pc with
  | returned isDuplicate => simp [CreateOp.rank] at live
  | raised => simp [CreateOp.rank] at live
  | _ => rfl

theorem round_error (error : w.insertOutcome c.payload refused channel = .otherError) :
    CreateRequest.finish cfg env refused (fuel + 3) k ⟨w, c.nextChannel (channel :: rest), session⟩ =
      ⟨if refused channel then w else w.skipId, { c with pc := .raised }, session⟩ := by
  have live : 0 < (c.nextChannel (channel :: rest)).rank := Nat.succ_pos _
  have failed : CreateRequest.call cfg (env k) refused ⟨w, c.nextChannel (channel :: rest), session⟩ =
      ⟨if refused channel then w else w.skipId, { c with pc := .raised }, session⟩ := by
    by_cases refusal : refused channel = true
    · simp [CreateRequest.call, CreateOp.fault, CreateOp.nextChannel, CreateOp.afterRaise, refusal]
    · have long : w.insertResult (c.payload.row channel (env k).now) = .tooLong := by
        rcases insertOutcome_cases w c.payload refused channel (env k).now with
          ⟨_, refusal' | long⟩ | ⟨is, _⟩ | ⟨is, _⟩
        · exact absurd refusal' refusal
        · exact long
        · cases error.symm.trans is
        · cases error.symm.trans is
      simp [CreateRequest.call, CreateOp.fault, CreateOp.nextChannel, CreateOp.act, CreateOp.newRow,
        CreateOp.instances, refusal, long]
  rw [request_call live, failed, request_ended rfl]

theorem round_duplicate (violation : w.insertOutcome c.payload refused channel = .uniqueViolation) :
    CreateRequest.finish cfg env refused (fuel + 3) k ⟨w, c.nextChannel (channel :: rest), session⟩ =
      CreateRequest.finish cfg env refused (fuel + 1) (k + 2) ⟨w.skipId, c.nextChannel rest, fun _ => none⟩ := by
  rcases insertOutcome_cases w c.payload refused channel (env k).now with
    ⟨is, _⟩ | ⟨_, accepted, result⟩ | ⟨is, _⟩
  · cases violation.symm.trans is
  · have inserted : CreateRequest.call cfg (env k) refused ⟨w, c.nextChannel (channel :: rest), session⟩ =
        ⟨w.skipId, { c with pc := .rollback rest }, session⟩ := by
      simp [CreateRequest.call, CreateOp.fault, CreateOp.nextChannel, CreateOp.act, CreateOp.newRow,
        CreateOp.instances, accepted, result]
    have live : 0 < (c.nextChannel (channel :: rest)).rank := Nat.succ_pos _
    have live₁ : 0 < ({ c with pc := .rollback rest } : CreateOp).rank := Nat.succ_pos _
    rw [request_call live, inserted, request_call live₁]
    rfl
  · cases violation.symm.trans is

theorem round_created (success : w.insertOutcome c.payload refused channel = .success) :
    let n := c.payload.row channel (env k).now
    CreateRequest.finish cfg env refused (fuel + 3) k ⟨w, c.nextChannel (channel :: rest), session⟩ =
      CreateRequest.finish cfg env refused fuel (k + 3)
        ⟨(w.insert n).enqueue w.nextId (queueScore c.payload.priority (env (k + 1)).now),
          { c with created := c.created ++ [w.nextId] }.nextChannel rest,
          fun i => if i = w.nextId then some n else session i⟩ := by
  intro n
  rcases insertOutcome_cases w c.payload refused channel (env k).now with
    ⟨is, _⟩ | ⟨is, _⟩ | ⟨_, accepted, result⟩
  · cases success.symm.trans is
  · cases success.symm.trans is
  · let loaded : Nat → Option Notification := fun i => if i = w.nextId then some n else session i
    let c₁ : CreateOp := { c with pc := .saving w.nextId .refresh rest }
    let c₂ : CreateOp := { c with
      pc := .saving w.nextId (.enqueue (queueScore n.priority (env (k + 1)).now)) rest }
    have row := w.rows_insert n
    have inserted : CreateRequest.call cfg (env k) refused ⟨w, c.nextChannel (channel :: rest), session⟩ =
        ⟨w.insert n, c₁, loaded⟩ := by
      simp [CreateRequest.call, CreateOp.fault, CreateOp.nextChannel, CreateOp.act, CreateOp.newRow,
        CreateOp.instances, accepted, result, n, c₁, loaded]
    have refreshed : CreateRequest.call cfg (env (k + 1)) refused ⟨w.insert n, c₁, loaded⟩ =
        ⟨w.insert n, c₂, loaded⟩ := by
      have again : c₁.instances (env (k + 1)) (w.insert n) loaded = loaded := by
        funext i
        by_cases own : i = w.nextId
        · simp [CreateOp.instances, c₁, loaded, own, row]
        · simp [CreateOp.instances, c₁, loaded, own]
      simp only [CreateRequest.call, CreateOp.fault, c₁]
      rw [act_refresh rfl row]
      exact congrArg _ again
    have enqueued : CreateRequest.call cfg (env (k + 2)) refused ⟨w.insert n, c₂, loaded⟩ =
        ⟨(w.insert n).enqueue w.nextId (queueScore n.priority (env (k + 1)).now),
          { c with created := c.created ++ [w.nextId] }.nextChannel rest, loaded⟩ := by
      simp only [CreateRequest.call, CreateOp.fault, c₂]
      rw [act_enqueue rfl]
      rfl
    have live : 0 < (c.nextChannel (channel :: rest)).rank := Nat.succ_pos _
    have live₁ : 0 < c₁.rank := Nat.succ_pos _
    have live₂ : 0 < c₂.rank := Nat.succ_pos _
    rw [request_call live, inserted, request_call live₁, refreshed, request_call live₂, enqueued]
    rfl

theorem finish_loop (cfg : Config) (env : Nat → Env) (refused : NotificationChannel → Bool)
    {channels : List NotificationChannel} {fuel : Nat} (enough : 3 * channels.length ≤ fuel) (k : Nat)
    (w : World) (c : CreateOp) (session : Nat → Option Notification) :
    CreateRequest.Loop refused channels w c session
      (CreateRequest.finish cfg env refused fuel k ⟨w, c.nextChannel channels, session⟩) := by
  induction channels generalizing fuel k w c session with
  | nil =>
    rw [request_ended rfl]
    exact .done
  | cons channel rest ih =>
    rw [List.length_cons] at enough
    obtain ⟨fuel, rfl⟩ : ∃ m, fuel = m + 3 := ⟨fuel - 3, by omega⟩
    rcases insertOutcome_cases w c.payload refused channel 0 with ⟨is, _⟩ | ⟨is, _⟩ | ⟨is, _⟩
    · rw [round_error is]
      exact .error is
    · rw [round_duplicate is]
      exact .duplicate is (ih (by omega) (k + 2) w.skipId c fun _ => none)
    · rw [round_created is]
      exact .created _ _ is (ih (by omega) (k + 3) _ _ _)

end Rounds

section Start

variable {cfg : Config} {p : NotificationCreate} {env : Nat → Env} {w : World}

/-- A request whose key is new comes to the loop over its channels. -/
theorem request_unclaimed (refused : NotificationChannel → Bool) (free : p.redisKey ∉ w.idemKeys) :
    w.request cfg p env refused =
      CreateRequest.finish cfg env refused (3 * (eventChannelMap p.eventType).length) 2
        ⟨{ w with idemKeys := p.redisKey :: w.idemKeys },
          (⟨p, [], .expire⟩ : CreateOp).nextChannel (eventChannelMap p.eventType), fun _ => none⟩ := by
  let c : CreateOp := ⟨p, [], .setnx⟩
  let c₁ : CreateOp := ⟨p, [], .expire⟩
  have live : 0 < c.rank := Nat.succ_pos _
  have live₁ : 0 < c₁.rank := Nat.succ_pos _
  have claimed : CreateRequest.call cfg (env 0) refused ⟨w, c, fun _ => none⟩ =
      ⟨{ w with idemKeys := p.redisKey :: w.idemKeys }, c₁, fun _ => none⟩ := by
    simp [CreateRequest.call, CreateOp.fault, CreateOp.act, CreateOp.instances, c, c₁, free]
  have start : w.request cfg p env refused =
      CreateRequest.finish cfg env refused (3 * (eventChannelMap p.eventType).length + 1) 1
        (CreateRequest.call cfg (env 0) refused ⟨w, c, fun _ => none⟩) := request_call live
  rw [start, claimed, request_call live₁]
  rfl

theorem request_loop (cfg : Config) (env : Nat → Env) (refused : NotificationChannel → Bool)
    (free : p.redisKey ∉ w.idemKeys) :
    CreateRequest.Loop refused (eventChannelMap p.eventType) { w with idemKeys := p.redisKey :: w.idemKeys }
      ⟨p, [], .expire⟩ (fun _ => none) (w.request cfg p env refused) := by
  rw [request_unclaimed refused free]
  exact finish_loop cfg env refused le_rfl 2 _ ⟨p, [], .expire⟩ _

/-- Where the database refuses nothing of its own, a request is a `create_notification` all of whose
calls are answered. -/
theorem request_create (cfg : Config) (p : NotificationCreate) (env : Nat → Env) (w : World) :
    ((w.request cfg p env fun _ => false).world,
      (Op.create (w.request cfg p env fun _ => false).op).answer) = w.create cfg p env := by
  have same (fuel k : Nat) (w : World) (c : CreateOp) (session : Nat → Option Notification) :
      let r := CreateRequest.finish cfg env (fun _ => false) fuel k ⟨w, c, session⟩
      c.finish cfg ⟨fun _ => .none, env⟩ fuel k w = (r.world, .create r.op) := by
    induction fuel generalizing k w c session with
    | zero => rfl
    | succ fuel ih =>
      rcases Nat.eq_zero_or_pos c.rank with ended | live
      · rw [finish_ended ended, request_ended ended]
      · have answered : c.fault (fun _ => false) = .none := by
          unfold CreateOp.fault
          split <;> rfl
        have called : CreateRequest.call cfg (env k) (fun _ => false) ⟨w, c, session⟩ =
            ⟨(c.act cfg (env k) w).1, (c.act cfg (env k) w).2, c.instances (env k) w session⟩ := by
          simp only [CreateRequest.call, answered]
        rw [request_call live, called, finish_act live rfl]
        exact ih _ _ _ _
  exact (congrArg (fun r => (r.1, r.2.answer)) (same _ 0 w ⟨p, [], .setnx⟩ fun _ => none)).symm

end Start

end NotificationEngine
