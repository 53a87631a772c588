import NotificationEngine.NewEvent

namespace NotificationEngine

def maxDeliveryAttempts : Nat := 3

/-- A message of `notification.queue`: its body, and its header `x-delivery-count` if it has
one. -/
structure IncomingMessage where
  body : ByteArray
  deliveryCount : Option Int

/-- `ack()`, `nack(requeue=False)` and `nack(requeue=True)`. -/
inductive Settlement
  | ack | drop | requeue
  deriving DecidableEq, Repr

/-- The `except` branches of `_on_new_event`. -/
def IncomingMessage.settle (m : IncomingMessage) : PyException → Settlement
  | .json .jsonDecodeError => .drop
  | .keyError _ => .drop
  | _ => if maxDeliveryAttempts ≤ m.deliveryCount.getD 0 then .drop else .requeue

/-- A value that a field of type `Optional[str] = None` takes. -/
def NullableStr (value : Option JsonValue) : Prop :=
  value = none ∨ value = some .null ∨ ∃ text, value = some (.str text)

/-- An object that `RecipientInfo` takes. -/
def IsRecipient : JsonValue → Prop
  | .dict fields =>
    ∀ field ∈ ["email", "phone", "device_token"], NullableStr (fields.lookup field)
  | _ => False

/-- The body lacks a key that `_on_new_event` reads before any other check fails. -/
def LacksField (fields : List (String × JsonValue)) : Prop :=
  (∃ key ∈ ["idempotency_key", "source_service", "event_type", "recipient"],
    fields.lookup key = none) ∨
  (fields.lookup "content" = none ∧
    ∃ recipient, fields.lookup "recipient" = some recipient ∧ IsRecipient recipient)

/-- The body is text, and not JSON or an object that lacks a field. -/
def Unusable (json : String → Except JsonError JsonValue) (body : ByteArray) : Prop :=
  ∃ text, String.fromUTF8? body = some text ∧
    (json text = .error .jsonDecodeError ∨
      ∃ fields, json text = .ok (.dict fields) ∧ LacksField fields)

/-- The two exceptions whose `except` branches drop the message at once. -/
def PyException.isDropped : PyException → Bool
  | json .jsonDecodeError => true
  | keyError _ => true
  | _ => false

theorem optionalStrField_ok_iff (field : String) (value : Option JsonValue) :
    (∃ text, optionalStrField field value = .ok text) ↔ NullableStr value := by
  cases value with
  | none => simp [optionalStrField, NullableStr]
  | some value => cases value <;> simp [optionalStrField, NullableStr]

theorem recipient_ofJson_ok_iff (value : JsonValue) :
    (∃ recipient, RecipientInfo.ofJson value = .ok recipient) ↔ IsRecipient value := by
  cases value with
  | dict fields =>
    have email := optionalStrField_ok_iff "email" (fields.lookup "email")
    have phone := optionalStrField_ok_iff "phone" (fields.lookup "phone")
    have token := optionalStrField_ok_iff "device_token" (fields.lookup "device_token")
    simp only [IsRecipient, List.forall_mem_cons, List.not_mem_nil, false_implies, implies_true,
      and_true, ← email, ← phone, ← token, RecipientInfo.ofJson]
    split
    next email phone token he hp hd => simp [he, hp, hd]
    next email phone token bad =>
      constructor
      · rintro ⟨recipient, h⟩
        cases h
      · rintro ⟨⟨e, he⟩, ⟨p, hp⟩, ⟨d, hd⟩⟩
        exact (bad e p d he hp hd).elim
  | _ => simp [RecipientInfo.ofJson, IsRecipient]

theorem recipient_ofJson_error {value : JsonValue} {e : PyException}
    (h : RecipientInfo.ofJson value = .error e) : e.isDropped = false := by
  unfold RecipientInfo.ofJson at h
  split at h
  next => split at h <;> cases h; rfl
  next => cases h; rfl

theorem ofFields_error {key source event priority content : JsonValue} {recipient : RecipientInfo}
    {e : PyException}
    (h : NotificationCreate.ofFields key source event priority recipient content = .error e) :
    e.isDropped = false := by
  unfold NotificationCreate.ofFields at h
  split at h
  next => split at h <;> cases h; rfl
  next => cases h; rfl

/-- Whether reading the payload ends in an exception that drops the message. -/
def Drops {α : Type} : Except PyException α → Prop
  | .ok _ => False
  | .error e => e.isDropped = true

@[simp] theorem drops_ok {α : Type} (a : α) : ¬Drops (.ok a : Except PyException α) := id

@[simp] theorem drops_error {α : Type} (e : PyException) :
    Drops (.error e : Except PyException α) ↔ e.isDropped = true := Iff.rfl

theorem drops_item_bind {α : Type} (fields : List (String × JsonValue)) (key : String)
    (rest : JsonValue → Except PyException α) :
    Drops ((JsonValue.dict fields).item key >>= rest) ↔
      fields.lookup key = none ∨ ∃ value, fields.lookup key = some value ∧ Drops (rest value) := by
  unfold JsonValue.item
  cases found : fields.lookup key with
  | none => simp [bind, Except.bind, found, PyException.isDropped]
  | some value => simp [bind, Except.bind, found]

theorem drops_recipient_bind {α : Type} (value : JsonValue)
    (rest : RecipientInfo → Except PyException α) :
    Drops (RecipientInfo.ofJson value >>= rest) ↔
      ∃ recipient, RecipientInfo.ofJson value = .ok recipient ∧ Drops (rest recipient) := by
  cases h : RecipientInfo.ofJson value with
  | error e => simp [bind, Except.bind, recipient_ofJson_error h]
  | ok recipient => simp [bind, Except.bind]

theorem ofFields_not_drops (key source event priority content : JsonValue)
    (recipient : RecipientInfo) :
    ¬Drops (NotificationCreate.ofFields key source event priority recipient content) := by
  cases h : NotificationCreate.ofFields key source event priority recipient content with
  | error e => simp [ofFields_error h]
  | ok payload => exact id

theorem fields_drop_iff (fields : List (String × JsonValue)) :
    Drops (do
      let key ← (JsonValue.dict fields).item "idempotency_key"
      let source ← (JsonValue.dict fields).item "source_service"
      let event ← (JsonValue.dict fields).item "event_type"
      let priority ← (JsonValue.dict fields).get "priority" (.str "medium")
      let recipient ← (JsonValue.dict fields).item "recipient"
      let recipient ← RecipientInfo.ofJson recipient
      let content ← (JsonValue.dict fields).item "content"
      NotificationCreate.ofFields key source event priority recipient content) ↔
    LacksField fields := by
  have priority_bind {α : Type} (rest : JsonValue → Except PyException α) :
      ((JsonValue.dict fields).get "priority" (.str "medium") >>= rest) =
        rest ((fields.lookup "priority").getD (.str "medium")) := rfl
  simp only [drops_item_bind, drops_recipient_bind, priority_bind, ofFields_not_drops, and_false,
    exists_false, or_false]
  simp only [LacksField, List.mem_cons, List.not_mem_nil, or_false, exists_eq_or_imp, exists_eq_left]
  -- The first key that is missing decides; the recipient is read before the content is.
  cases fields.lookup "idempotency_key" with
  | none => simp only [true_or]
  | some key =>
    cases fields.lookup "source_service" with
    | none => simp only [reduceCtorEq, Option.some.injEq, exists_eq_left', true_or, or_true]
    | some source =>
      cases fields.lookup "event_type" with
      | none => simp only [reduceCtorEq, Option.some.injEq, exists_eq_left', true_or, or_true]
      | some event =>
        cases fields.lookup "recipient" with
        | none => simp only [reduceCtorEq, Option.some.injEq, exists_eq_left', true_or, or_true]
        | some recipient =>
          simp only [reduceCtorEq, Option.some.injEq, exists_eq_left', false_or, exists_and_right,
            recipient_ofJson_ok_iff]
          exact and_comm

theorem newEvent_drops_iff (json : String → Except JsonError JsonValue) (body : ByteArray) :
    Drops (newEvent json body) ↔ Unusable json body := by
  unfold newEvent Unusable decode
  cases String.fromUTF8? body with
  | none => simp [bind, Except.bind, PyException.isDropped]
  | some text =>
    unfold loads
    cases parsed : json text with
    | error e => cases e <;> simp [bind, Except.bind, PyException.isDropped, parsed]
    | ok value =>
      cases value with
      | dict fields =>
        have drops := fields_drop_iff fields
        simpa [bind, Except.bind, parsed] using drops
      | _ => simp [bind, Except.bind, PyException.isDropped, parsed, JsonValue.item]

end NotificationEngine
