import NotificationEngine.CreateRequest
import NotificationEngine.Isolation

namespace NotificationEngine

def NotificationStatus.label : NotificationStatus → String
  | pending => "pending" | queued => "queued" | sent => "sent" | failed => "failed"
  | retrying => "retrying"

structure NotificationChannelStatus where
  id : Nat
  channel : String
  status : String
  ctime : Int
  deriving DecidableEq

/-- `NotificationChannelStatus.model_validate` of an instance by its id; `none` is the exception that
reading an expired attribute raises. -/
def NotificationChannelStatus.convert (session : Nat → Option Notification) (id : Nat) :
    Option NotificationChannelStatus :=
  (session id).map fun n => ⟨id, n.channel.label, n.status.label, n.ctime⟩

structure NotificationCreatedResponse where
  idempotencyKey : String
  eventType : String
  notifications : List NotificationChannelStatus
  deriving DecidableEq

/-- The answers of `POST /notifications`: 201, 409 and 500. -/
inductive CreateResponse
  | created (body : NotificationCreatedResponse)
  | conflict (message idempotencyKey : String)
  | internalServerError
  deriving DecidableEq

/-- The endpoint after `create_notification`. -/
def CreateRequest.response (r : CreateRequest) : CreateResponse :=
  match r.op.pc with
  | .returned true =>
    .conflict "duplicate request, notification already exists" r.op.payload.idempotencyKey
  | .returned false =>
    match r.op.created.mapM (NotificationChannelStatus.convert r.session) with
    | none => .internalServerError
    | some notifications =>
      .created ⟨r.op.payload.idempotencyKey, r.op.payload.eventType.label, notifications⟩
  | _ => .internalServerError

/-- Every notification returned can be read, and the endpoint answers 201 with exactly the rows that
are new since `w`. -/
structure CreateRequest.Listed (w : World) (p : NotificationCreate) (r : CreateRequest) : Prop where
  readable : ∀ id ∈ r.op.created, (r.session id).isSome = true
  response : ∃ notifications, r.response = .created ⟨p.idempotencyKey, p.eventType.label, notifications⟩ ∧
    (notifications.map (·.id)).Nodup ∧
    ∀ s, s ∈ notifications ↔ ∃ n, w.rows s.id = none ∧ r.world.rows s.id = some n ∧
      s = ⟨s.id, n.channel.label, n.status.label, n.ctime⟩

/-- Instances that can be read are converted one by one. -/
theorem convert_all {session : Nat → Option Notification} {ids : List Nat}
    (readable : ∀ id ∈ ids, (session id).isSome = true) :
    ids.mapM (NotificationChannelStatus.convert session) =
        some (ids.filterMap (NotificationChannelStatus.convert session)) ∧
      (ids.filterMap (NotificationChannelStatus.convert session)).map (·.id) = ids := by
  induction ids with
  | nil => exact ⟨rfl, rfl⟩
  | cons id rest ih =>
    obtain ⟨n, loaded⟩ := Option.isSome_iff_exists.mp (readable id List.mem_cons_self)
    obtain ⟨converted, same⟩ := ih fun id mem => readable id (List.mem_cons_of_mem _ mem)
    have here : NotificationChannelStatus.convert session id =
        some ⟨id, n.channel.label, n.status.label, n.ctime⟩ := by
      simp [NotificationChannelStatus.convert, loaded]
    constructor
    · simp [here, converted]
    · simp [here, same]

/-- What the loop over the channels, of which some are `taken`, adds to the rows and instances that
it found: the rows `ids`. -/
structure CreateRequest.Adds (w : World) (p : NotificationCreate) (taken : NotificationChannel → Bool)
    (created : List Nat) (session : Nat → Option Notification) (channels : List NotificationChannel)
    (ids : List Nat) (r : CreateRequest) : Prop where
  pc : r.op.pc = .returned false
  payload : r.op.payload = p
  created : r.op.created = created ++ ids
  nodup : ids.Nodup
  beyond : ∀ id ∈ ids, w.nextId ≤ id
  rows : ∀ id ∈ ids, ∃ n, r.world.rows id = some n ∧ (r.session id = none ∨ r.session id = some n)
  others : ∀ id ∉ ids, r.world.rows id = w.rows id
  expired : ∀ id ∉ ids, r.session id = if channels.any taken then none else session id
  readable : (∀ id ∈ ids, (r.session id).isSome = true) ↔
    channels.Pairwise fun before after => taken after = true → taken before = true

section Loop

variable {w : World} {p : NotificationCreate} {taken : NotificationChannel → Bool} {created ids : List Nat}
  {session : Nat → Option Notification} {channel : NotificationChannel} {rest : List NotificationChannel}
  {r : CreateRequest}

theorem adds_nil (c : CreateOp) :
    CreateRequest.Adds w c.payload taken c.created session [] [] ⟨w, c.nextChannel [], session⟩ where
  pc := rfl
  payload := rfl
  created := (List.append_nil _).symm
  nodup := .nil
  beyond _ mem := absurd mem List.not_mem_nil
  rows _ mem := absurd mem List.not_mem_nil
  others _ _ := rfl
  expired _ _ := rfl
  readable := iff_of_true (fun _ mem => absurd mem List.not_mem_nil) .nil

/-- A duplicate adds nothing and expires every instance. -/
theorem adds_duplicate (duplicate : taken channel = true)
    (later : CreateRequest.Adds w.skipId p taken created (fun _ => none) rest ids r) :
    CreateRequest.Adds w p taken created session (channel :: rest) ids r where
  pc := later.pc
  payload := later.payload
  created := later.created
  nodup := later.nodup
  beyond id mem := Nat.le_of_succ_le (later.beyond id mem)
  rows := later.rows
  others := later.others
  expired id other := by
    rw [later.expired id other]
    simp [duplicate]
  readable := by
    rw [later.readable, List.pairwise_cons]
    exact ⟨fun pairs => ⟨fun _ _ _ => duplicate, pairs⟩, fun pairs => pairs.2⟩

/-- A new row can be read at the end if no duplicate comes after it. -/
theorem adds_created {n : Notification} {score : Int} (new : taken channel = false)
    (later : CreateRequest.Adds ((w.insert n).enqueue w.nextId score) p taken (created ++ [w.nextId])
      (fun i => if i = w.nextId then some n else session i) rest ids r) :
    CreateRequest.Adds w p taken created session (channel :: rest) (w.nextId :: ids) r := by
  have above : ∀ id ∈ ids, w.nextId < id := later.beyond
  have first : w.nextId ∉ ids := fun mem => Nat.lt_irrefl _ (above _ mem)
  have row : r.world.rows w.nextId = some n := by
    rw [later.others _ first]
    simp [World.enqueue, World.insert]
  have instances : r.session w.nextId = if rest.any taken then none else some n := by
    rw [later.expired _ first]
    simp
  refine ⟨later.pc, later.payload, by rw [later.created]; simp, List.nodup_cons.mpr ⟨first, later.nodup⟩,
    ?_, ?_, ?_, ?_, ?_⟩
  · intro id mem
    rcases List.mem_cons.mp mem with rfl | mem
    · exact le_rfl
    · exact Nat.le_of_lt (above id mem)
  · intro id mem
    rcases List.mem_cons.mp mem with rfl | mem
    · refine ⟨n, row, ?_⟩
      rw [instances]
      split
      next => exact Or.inl rfl
      next => exact Or.inr rfl
    · exact later.rows id mem
  · intro id other
    obtain ⟨old, absent⟩ := not_or.mp (mt List.mem_cons.mpr other)
    rw [later.others id absent]
    simp [World.enqueue, World.insert, old]
  · intro id other
    obtain ⟨old, absent⟩ := not_or.mp (mt List.mem_cons.mpr other)
    rw [later.expired id absent]
    simp [new, old]
  · have own : (r.session w.nextId).isSome = true ↔ ∀ after ∈ rest, taken after = true → taken channel = true := by
      rw [instances, new]
      by_cases duplicates : rest.any taken = true
      · obtain ⟨after, mem, duplicate⟩ := List.any_eq_true.mp duplicates
        rw [if_pos duplicates]
        exact iff_of_false Bool.false_ne_true fun none => Bool.false_ne_true (none after mem duplicate)
      · rw [if_neg duplicates]
        refine iff_of_true rfl fun after mem duplicate => absurd ?_ duplicates
        exact List.any_eq_true.mpr ⟨after, mem, duplicate⟩
    rw [List.forall_mem_cons, own, later.readable, List.pairwise_cons]

theorem loop_adds {refused : NotificationChannel → Bool} {channels : List NotificationChannel} {c : CreateOp}
    (loop : CreateRequest.Loop refused channels w c session r) (sound : w.Sound) (distinct : channels.Nodup)
    (known : ∀ channel ∈ channels, w.hasKey (channelIdemKey c.payload.idempotencyKey channel) = taken channel) :
    r.op.pc = .raised ∨ ∃ ids, CreateRequest.Adds w c.payload taken c.created session channels ids r := by
  induction loop with
  | @done w c session => exact Or.inr ⟨[], adds_nil c⟩
  | error is => exact Or.inl rfl
  | @duplicate channel rest w c session r is _ ih =>
    obtain ⟨new, distinct⟩ := List.nodup_cons.mp distinct
    have duplicate : taken channel = true :=
      known channel List.mem_cons_self ▸ (hasKey_of_insertOutcome (by rw [is]; decide)).mpr is
    rcases ih sound.skipId distinct
      (fun other mem => (hasKey_skipId sound _).trans (known other (List.mem_cons_of_mem _ mem))) with
      raised | ⟨ids, later⟩
    · exact Or.inl raised
    · exact Or.inr ⟨ids, adds_duplicate duplicate later⟩
  | @created channel rest w c session r ctime score is _ ih =>
    obtain ⟨new, distinct⟩ := List.nodup_cons.mp distinct
    have free : taken channel = false := by
      rw [← known channel List.mem_cons_self, Bool.eq_false_iff, ne_eq,
        hasKey_of_insertOutcome (by rw [is]; decide), is]
      decide
    have key : (c.payload.row channel ctime).idempotencyKey =
        channelIdemKey c.payload.idempotencyKey channel := rfl
    rcases ih sound.created distinct
      (fun other mem => (hasKey_insert_other sound key (ne_of_mem_of_not_mem mem new)).trans
        (known other (List.mem_cons_of_mem _ mem))) with raised | ⟨ids, later⟩
    · exact Or.inl raised
    · exact Or.inr ⟨_, adds_created free later⟩

end Loop

theorem CreateRequest.Adds.listed {w : World} {p : NotificationCreate} {taken : NotificationChannel → Bool}
    {channels : List NotificationChannel} {ids : List Nat} {r : CreateRequest} (fresh : w.Fresh)
    (adds : CreateRequest.Adds w p taken [] (fun _ => none) channels ids r) :
    r.Listed w p ↔ channels.Pairwise fun before after => taken after = true → taken before = true := by
  have created : r.op.created = ids := adds.created
  rw [← adds.readable]
  constructor
  · intro listed id mem
    exact listed.readable id (created ▸ mem)
  · intro readable
    obtain ⟨converted, same⟩ := convert_all readable
    have loaded {id : Nat} (mem : id ∈ ids) : ∃ n, r.world.rows id = some n ∧ r.session id = some n := by
      obtain ⟨n, row, expired | loaded⟩ := adds.rows id mem
      · have visible := readable id mem
        rw [expired] at visible
        cases visible
      · exact ⟨n, row, loaded⟩
    refine ⟨by rwa [created], ids.filterMap (NotificationChannelStatus.convert r.session), ?_, ?_, ?_⟩
    · simp only [CreateRequest.response, adds.pc, created, converted, adds.payload]
    · rw [same]
      exact adds.nodup
    · intro s
      rw [List.mem_filterMap]
      constructor
      · rintro ⟨id, mem, is⟩
        obtain ⟨n, row, instance_⟩ := loaded mem
        simp only [NotificationChannelStatus.convert, instance_, Option.map_some, Option.some.injEq] at is
        subst is
        exact ⟨n, fresh id (adds.beyond id mem), row, rfl⟩
      · rintro ⟨n, absent, row, is⟩
        have mem : s.id ∈ ids := by
          by_contra old
          rw [adds.others _ old, absent] at row
          cases row
        obtain ⟨m, row', instance_⟩ := loaded mem
        cases row.symm.trans row'
        exact ⟨s.id, mem, by simp only [NotificationChannelStatus.convert, instance_, Option.map_some, ← is]⟩

/-- When `create_notification` returns, its notifications can be read and are answered with 201 exactly
if no channel whose row existed comes after a channel whose row is new. -/
theorem created_listed_iff (cfg : Config) (p : NotificationCreate) (env : Nat → Env)
    (refused : NotificationChannel → Bool) {w : World} (sound : w.Sound)
    (unclaimed : p.redisKey ∉ w.idemKeys)
    (returned : ∃ isDuplicate, (w.request cfg p env refused).op.pc = .returned isDuplicate) :
    (w.request cfg p env refused).Listed w p ↔
      (eventChannelMap p.eventType).Pairwise fun before after =>
        w.hasKey (channelIdemKey p.idempotencyKey after) = true →
          w.hasKey (channelIdemKey p.idempotencyKey before) = true := by
  have sound' : World.Sound { w with idemKeys := p.redisKey :: w.idemKeys } :=
    ⟨sound.fresh, sound.enqueued⟩
  obtain ⟨isDuplicate, returned⟩ := returned
  rcases loop_adds (request_loop cfg env refused unclaimed) sound' (eventChannelMap_nodup p.eventType)
    (fun _ _ => rfl) with raised | ⟨ids, adds⟩
  · cases raised.symm.trans returned
  · have listed := adds.listed sound'.fresh
    exact ⟨fun h => listed.mp ⟨h.readable, h.response⟩,
      fun pairs => ⟨(listed.mpr pairs).readable, (listed.mpr pairs).response⟩⟩

/-- The database after the one request of a shipment whose `channel` alone was stored. -/
def shipmentStored (channel : NotificationChannel) : World :=
  World.initial.insert (delayedShipment.row channel 0)

theorem shipmentStored_sound (channel : NotificationChannel) : (shipmentStored channel).Sound := by
  have sound : World.initial.Sound := ⟨fun _ _ => rfl, fun _ mem => absurd mem List.not_mem_nil⟩
  exact sound.insert _

/-- The email had its row already. -/
theorem created_listed_sms :
    ((shipmentStored .email).request defaultConfig delayedShipment (fun _ => accepting true)
      fun _ => false).Listed (shipmentStored .email) delayedShipment :=
  (created_listed_iff defaultConfig delayedShipment (fun _ => accepting true) (fun _ => false)
    (shipmentStored_sound .email) List.not_mem_nil ⟨false, by rfl⟩).mpr (by decide +kernel)

/-- The request of a shipment whose SMS had its row already. -/
def halfDuplicate : CreateRequest :=
  (shipmentStored .sms).request defaultConfig delayedShipment (fun _ => accepting true) fun _ => false

/-- `create_notification` returns the new email, whose instance is expired, and the endpoint fails. -/
theorem created_email_unreadable :
    delayedShipment.redisKey ∉ (shipmentStored .sms).idemKeys ∧
      (Op.create halfDuplicate.op).answer = some ([2], false) ∧
      (halfDuplicate.session 2).isNone = true ∧ halfDuplicate.response = .internalServerError ∧
      ¬halfDuplicate.Listed (shipmentStored .sms) delayedShipment := by
  have failed : halfDuplicate.response = .internalServerError := by decide +kernel
  refine ⟨List.not_mem_nil, by decide +kernel, by decide +kernel, failed, fun listed => ?_⟩
  obtain ⟨notifications, response, _⟩ := listed.response
  cases failed.symm.trans response

end NotificationEngine
