import NotificationEngine.AcceptedPayloads
import NotificationEngine.CreatedResponse
import NotificationEngine.NewEvent
import NotificationEngine.UniqueRows

namespace NotificationEngine

structure NotificationDetailResponse where
  id : Nat
  idempotencyKey : String
  sourceService : String
  eventType : String
  channel : String
  recipient : String
  priority : String
  status : String
  errorCode : Option String
  retryCount : Nat
  nextRetryTime : Option Int
  externalId : Option String
  content : List (String × JsonValue)
  ctime : Int
  mtime : Option Int
  stime : Option Int

/-- `NotificationDetailResponse.model_validate` of the row with the given id. Every column but `content`
has the type of its field. Only the database ever sets `mtime`. -/
def NotificationDetailResponse.convert (id : Nat) (n : Notification) (mtime : Option Int) :
    Except FieldError NotificationDetailResponse :=
  match dictField "content" n.content with
  | .error e => .error e
  | .ok content => .ok {
      id := id
      idempotencyKey := n.idempotencyKey
      sourceService := n.sourceService.label
      eventType := n.eventType.label
      channel := n.channel.label
      recipient := n.recipient
      priority := n.priority.label
      status := n.status.label
      errorCode := n.errorCode.map (·.label)
      retryCount := n.retryCount
      nextRetryTime := n.nextRetryTime
      externalId := n.externalId
      content := content
      ctime := n.ctime
      mtime := mtime
      stime := n.stime }

/-- The answers of `GET /notifications/{id}`: 200, 404 and 500. -/
inductive DetailAnswer
  | found (body : NotificationDetailResponse)
  | notFound (detail : String)
  | internalServerError (e : FieldError)

def World.getNotification (w : World) (mtime : Option Int) (id : Nat) : DetailAnswer :=
  match w.rows id with
  | none => .notFound "Notification not found"
  | some n => match NotificationDetailResponse.convert id n mtime with
    | .error e => .internalServerError e
    | .ok body => .found body

theorem convert_content (id : Nat) (n : Notification) (mtime : Option Int) :
    (∃ fields body, n.content = .dict fields ∧
        NotificationDetailResponse.convert id n mtime = .ok body) ∨
      (∀ fields, n.content ≠ .dict fields) ∧ NotificationDetailResponse.convert id n mtime =
        .error ⟨["content"], "Input should be a valid dictionary"⟩ := by
  unfold NotificationDetailResponse.convert
  cases content : n.content with
  | dict fields => exact Or.inl ⟨fields, _, rfl, rfl⟩
  | _ => exact Or.inr ⟨fun fields h => (by cases h), rfl⟩

/-- The channels whose rows a request has still to insert. -/
def CreateOp.upcoming (c : CreateOp) : List NotificationChannel :=
  match c.pc with
  | .setnx => eventChannelMap c.payload.eventType
  | .expire => eventChannelMap c.payload.eventType
  | .insert channel rest => channel :: rest
  | .rollback rest => rest
  | .saving _ _ rest => rest
  | .returned _ => []
  | .raised => []

/-- A request inserts rows of its own event's channels only. -/
def CreateOp.Mapped (c : CreateOp) : Prop :=
  ∀ channel ∈ c.upcoming, channel ∈ eventChannelMap c.payload.eventType

theorem CreateOp.Mapped.nextChannel {c : CreateOp} {rest : List NotificationChannel}
    (h : ∀ channel ∈ rest, channel ∈ eventChannelMap c.payload.eventType) :
    (c.nextChannel rest).Mapped := by
  cases rest with
  | nil => exact fun channel mem => absurd mem List.not_mem_nil
  | cons channel rest => exact h

theorem CreateOp.Mapped.saved {c : CreateOp} {id : Nat} {rest : List NotificationChannel} {next : Option Task}
    (h : ∀ channel ∈ rest, channel ∈ eventChannelMap c.payload.eventType) :
    (c.saved id rest next).Mapped := by
  unfold CreateOp.saved
  split
  next => exact h
  next => exact CreateOp.Mapped.nextChannel h

theorem CreateOp.Mapped.act {cfg : Config} {env : Env} {w : World} {c : CreateOp} (mapped : c.Mapped) :
    (c.act cfg env w).2.Mapped := by
  have done : ({ c with pc := .raised } : CreateOp).Mapped := fun channel mem => absurd mem List.not_mem_nil
  cases pc : c.pc with
  | setnx =>
    simp only [CreateOp.act, pc]
    split
    next => exact fun channel mem => absurd mem List.not_mem_nil
    next => exact fun channel mem => mem
  | expire =>
    simp only [CreateOp.act, pc]
    exact CreateOp.Mapped.nextChannel fun channel mem => mem
  | insert channel rest =>
    have later : ∀ other ∈ rest, other ∈ eventChannelMap c.payload.eventType := fun other mem =>
      mapped other (by simp [CreateOp.upcoming, pc, mem])
    simp only [CreateOp.act, pc]
    split
    next => exact later
    next => exact later
    next => exact done
  | rollback rest =>
    simp only [CreateOp.act, pc]
    exact CreateOp.Mapped.nextChannel fun other mem => mapped other (by simpa [CreateOp.upcoming, pc] using mem)
  | saving id pc' rest =>
    have later : ∀ other ∈ rest, other ∈ eventChannelMap c.payload.eventType := fun other mem =>
      mapped other (by simpa [CreateOp.upcoming, pc] using mem)
    simp only [CreateOp.act, pc]
    split
    next => exact done
    next => exact CreateOp.Mapped.saved later
  | returned isDuplicate => simpa [CreateOp.act, pc] using mapped
  | raised => simpa [CreateOp.act, pc] using mapped

theorem CreateOp.Mapped.afterRaise {c : CreateOp} (mapped : c.Mapped) : c.afterRaise.Mapped := by
  unfold CreateOp.afterRaise
  split
  next pc => exact CreateOp.Mapped.saved fun other mem => mapped other (by simpa [CreateOp.upcoming, pc] using mem)
  next => exact fun channel mem => absurd mem List.not_mem_nil

theorem CreateOp.Mapped.run {cfg : Config} {env : Env} {w : World} {fault : Fault} {c c' : CreateOp}
    (mapped : c.Mapped) (h : (c.run cfg env w fault).2 = .create c') : c'.Mapped := by
  cases fault with
  | none =>
    cases h
    exact mapped.act
  | raised effect =>
    cases h
    exact mapped.afterRaise
  | stopped effect => cases h

theorem Sys.step_mapped {cfg : Config} {s s' : Sys} {l : Label}
    (mapped : ∀ c, .create c ∈ s.ops → c.Mapped) (h : s.step cfg l = some s') :
    ∀ c, .create c ∈ s'.ops → c.Mapped := by
  intro c mem
  obtain ⟨k, there⟩ := List.mem_iff_getElem?.mp mem
  rcases Sys.step_create h there with old | arrived | ⟨fault, env, c₀, _, before, ran⟩
  · exact mapped c (List.mem_of_getElem? old)
  · intro channel coming
    simpa [CreateOp.upcoming, arrived] using coming
  · exact (mapped c₀ (List.mem_of_getElem? before)).run ran

theorem reach_mapped {cfg : Config} {ok : Sys → Label → Prop} {s : Sys}
    (h : Sys.Reach cfg ok .initial s) : ∀ c, .create c ∈ s.ops → c.Mapped := by
  induction h with
  | start => exact fun c mem => absurd mem List.not_mem_nil
  | next _ _ step ih => exact Sys.step_mapped ih step

/-- The step commits row `id`, for `channel` of a request with the payload. -/
structure Sys.Creates (cfg : Config) (s : Sys) (l : Label) (s' : Sys) (p : NotificationCreate)
    (channel : NotificationChannel) (id : Nat) : Prop where
  step : s.step cfg l = some s'
  inserting : ∃ i fault env c rest, l = .run i fault env ∧ s.ops[i]? = some (.create c) ∧
    c.payload = p ∧ c.pc = .insert channel rest
  absent : s.world.rows id = none
  stored : (s'.world.rows id).isSome = true

theorem Sys.Creates.row {cfg : Config} {s s' : Sys} {l : Label} {p : NotificationCreate}
    {channel : NotificationChannel} {id : Nat} (h : s.Creates cfg l s' p channel id) :
    ∃ ctime, s'.world.rows id = some (p.row channel ctime) := by
  obtain ⟨i, fault, env, c, rest, rfl, hop, rfl, pc⟩ := h.inserting
  obtain ⟨n, row⟩ := Option.isSome_iff_exists.mp h.stored
  rcases Sys.step_keys h.step with kept | ⟨_, _, env', c', channel', rest', same, hop', pc', _, ran⟩
  · have keys := kept.keys id
    simp [World.keyAt, h.absent, row] at keys
  · cases same
    cases hop.symm.trans hop'
    cases pc.symm.trans pc'
    refine ⟨env.now, ?_⟩
    rw [ran] at row ⊢
    by_cases own : id = s.world.nextId
    · simp [World.insert, own, CreateOp.newRow]
    · simp [World.insert, own, h.absent] at row

/-- A notification can be shown in every later state exactly if its payload has an object under the name
of its channel. -/
theorem shown_iff {cfg : Config} {ok later : Sys → Label → Prop} {s s' s'' : Sys} {l : Label}
    {p : NotificationCreate} {channel : NotificationChannel} {id : Nat}
    (run : Sys.Reach cfg ok .initial s) (created : s.Creates cfg l s' p channel id)
    (since : Sys.Reach cfg later s' s'') (mtime : Option Int) :
    (∃ body, s''.world.getNotification mtime id = .found body) ↔
      ∃ fields, p.content.lookup channel.label = some (.dict fields) := by
  obtain ⟨ctime, row⟩ := created.row
  have fresh : s'.world.Fresh := Sys.step_fresh (reach_fresh (fun _ _ => rfl) run) created.step
  have kept : (s''.world.rows id).map (·.content) = some (p.row channel ctime).content :=
    reach_column fresh (fun _ _ _ => rfl) since (by rw [row]; rfl)
  obtain ⟨n, row', content⟩ := Option.map_eq_some_iff.mp kept
  have given : p.content.lookup channel.label = some n.content := by
    obtain ⟨i, fault, env, c, rest, _, hop, rfl, pc⟩ := created.inserting
    have upcoming : channel ∈ c.upcoming := by simp [CreateOp.upcoming, pc]
    have mapped := reach_mapped run c (List.mem_of_getElem? hop) channel upcoming
    exact (c.payload.rowOf_row ctime mapped).content.trans (congrArg some content.symm)
  rw [given]
  simp only [World.getNotification, row', Option.some.injEq]
  rcases convert_content id n mtime with ⟨fields, body, dict, shown⟩ | ⟨scalar, refused⟩
  · rw [shown]
    exact iff_of_true ⟨body, rfl⟩ ⟨fields, dict⟩
  · rw [refused]
    exact iff_of_false (fun ⟨body, h⟩ => (by cases h)) fun ⟨fields, dict⟩ => scalar fields dict

/-- A first request, about to insert the row of its first channel. -/
def inserting (p : NotificationCreate) (channel : NotificationChannel) (rest : List NotificationChannel) : Sys :=
  ⟨{ World.initial with idemKeys := [p.redisKey] }, [.create ⟨p, [], .insert channel rest⟩]⟩

/-- The same request once the row is committed. -/
def inserted (p : NotificationCreate) (channel : NotificationChannel) (rest : List NotificationChannel) : Sys :=
  ⟨World.insert { World.initial with idemKeys := [p.redisKey] } (p.row channel 100000),
    [.create ⟨p, [], .saving 1 .refresh rest⟩]⟩

section FirstRow

variable {p : NotificationCreate} {channel : NotificationChannel} {rest : List NotificationChannel}

theorem reach_inserting (mapped : eventChannelMap p.eventType = channel :: rest) :
    Sys.Reach defaultConfig (fun _ _ => True) .initial (inserting p channel rest) := by
  let env := accepting true
  have asked : Sys.Reach defaultConfig (fun _ _ => True) .initial
      ⟨.initial, [.create ⟨p, [], .setnx⟩]⟩ :=
    .next (l := .createNotification p) .start trivial rfl
  have claimed : Sys.Reach defaultConfig (fun _ _ => True) .initial
      ⟨{ World.initial with idemKeys := [p.redisKey] }, [.create ⟨p, [], .expire⟩]⟩ :=
    .next (l := .run 0 .none env) asked trivial rfl
  refine .next (l := .run 0 .none env) claimed trivial ?_
  simp [Sys.step, Op.run, CreateOp.run, CreateOp.act, mapped, CreateOp.nextChannel, inserting]

theorem inserting_creates (fits : p.Fits channel) :
    (inserting p channel rest).Creates defaultConfig (.run 0 .none (accepting true)) (inserted p channel rest)
      p channel 1 where
  step := by
    let c : CreateOp := ⟨p, [], .insert channel rest⟩
    let w : World := { World.initial with idemKeys := [p.redisKey] }
    have result : w.insertResult (c.newRow (accepting true) channel) = .inserted := by
      rcases insertResult_cases (c := c) w (accepting true) channel rfl with
        ⟨_, unfit⟩ | ⟨_, _, taken⟩ | ⟨result, _⟩
      · exact absurd fits unfit
      · cases taken
      · exact result
    have acted : c.act defaultConfig (accepting true) w =
        (w.insert (p.row channel 100000), ⟨p, [], .saving 1 .refresh rest⟩) := by
      simp only [CreateOp.act, c, result]
      rfl
    exact congrArg (fun r => some (Sys.mk r.1 [.create r.2])) acted
  inserting := ⟨0, .none, accepting true, _, rest, rfl, rfl, rfl, rfl⟩
  absent := rfl
  stored := rfl

end FirstRow

theorem shown_otp : ∃ body,
    (inserted otpRequest .sms []).world.getNotification none 1 = .found body :=
  (shown_iff (reach_inserting rfl) (inserting_creates ⟨by decide, by decide⟩)
    (.start : Sys.Reach defaultConfig (fun _ _ => True) _ _) none).mpr ⟨[("body", .str "1234")], by rfl⟩

/-- The request for an OTP with the bare text where the object for the channel should be. -/
def textOtp : NotificationCreate :=
  { otpRequest with content := [("sms", .str "1234")], hasContent := by decide }

/-- The payload is accepted and its row stored, but the row cannot be shown. -/
theorem text_content_not_shown : ∃ s s' l,
    Sys.Reach defaultConfig (fun _ _ => True) .initial s ∧ s.Creates defaultConfig l s' textOtp .sms 1 ∧
      s'.world.getNotification none 1 =
        .internalServerError ⟨["content"], "Input should be a valid dictionary"⟩ :=
  ⟨inserting textOtp .sms [], inserted textOtp .sms [], _, reach_inserting rfl,
    inserting_creates ⟨by decide, by decide⟩, by rfl⟩

end NotificationEngine
