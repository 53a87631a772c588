import NotificationEngine.NotificationCreate

namespace NotificationEngine

/-- An error of a pydantic `ValidationError`: the path of the field, and the text. -/
structure FieldError where
  loc : List String
  msg : String
  deriving DecidableEq, Repr

/-- What `json.loads` raises: `JSONDecodeError`, the `ValueError` of an integer with too many
digits, or the `RecursionError` of a value nested too deeply. -/
inductive JsonError
  | jsonDecodeError | valueError | recursionError
  deriving DecidableEq, Repr

/-- The exceptions of `_on_new_event` up to the claim of the idempotency key. -/
inductive PyException
  | unicodeDecodeError
  | json (e : JsonError)
  | keyError (key : String)
  | typeError
  | attributeError
  | validationError (errors : List FieldError)
  | redisError
  deriving DecidableEq, Repr

/-- `message.body.decode()`. -/
def decode (body : ByteArray) : Except PyException String :=
  match String.fromUTF8? body with
  | none => .error .unicodeDecodeError
  | some text => .ok text

/-- `json.loads(text)`, for any JSON decoder. -/
def loads (json : String → Except JsonError JsonValue) (text : String) :
    Except PyException JsonValue :=
  match json text with
  | .error e => .error (.json e)
  | .ok value => .ok value

/-- `value[key]`. -/
def JsonValue.item (value : JsonValue) (key : String) : Except PyException JsonValue :=
  match value with
  | dict fields => match fields.lookup key with
    | none => .error (.keyError key)
    | some value => .ok value
  | _ => .error .typeError

/-- `value.get(key, default)`. -/
def JsonValue.get (value : JsonValue) (key : String) (default : JsonValue) :
    Except PyException JsonValue :=
  match value with
  | dict fields => .ok ((fields.lookup key).getD default)
  | _ => .error .attributeError

def strField (field : String) : JsonValue → Except FieldError String
  | .str value => .ok value
  | _ => .error ⟨[field], "Input should be a valid string"⟩

/-- A field of type `Optional[str] = None`. -/
def optionalStrField (field : String) : Option JsonValue → Except FieldError (Option String)
  | none => .ok none
  | some .null => .ok none
  | some (.str value) => .ok (some value)
  | some _ => .error ⟨[field], "Input should be a valid string"⟩

def dictField (field : String) : JsonValue → Except FieldError (List (String × JsonValue))
  | .dict fields => .ok fields
  | _ => .error ⟨[field], "Input should be a valid dictionary"⟩

/-- The text of a Python set of strings; the model prints the members in the order given. -/
def setRepr (members : List String) : String :=
  "\x7b" ++ String.intercalate ", " (members.map fun member => "'" ++ member ++ "'") ++ "\x7d"

/-- A field whose validator looks the lower-cased value up among the names of an enumeration. -/
def enumField {α : Type} (field : String) (members : List α) (label : α → String) (value : JsonValue) :
    Except FieldError α :=
  match strField field value with
  | .error e => .error e
  | .ok v => match members.find? fun member => label member = v.toLower with
    | some member => .ok member
    | none =>
      .error ⟨[field], "Value error, " ++ field ++ " must be one of " ++ setRepr (members.map label)⟩

def validateSourceService : JsonValue → Except FieldError SourceService :=
  enumField "source_service" [.order, .payment, .shipping] SourceService.label

def validateEventType : JsonValue → Except FieldError EventType :=
  enumField "event_type"
    [.orderCreated, .orderCancelled, .paymentConfirmed, .paymentFailed, .paymentOtpRequested,
      .shipmentDispatched, .shipmentDelivered, .shipmentDelayed] EventType.label

def validatePriority : JsonValue → Except FieldError NotificationPriority :=
  enumField "priority" [.critical, .high, .medium, .low] NotificationPriority.label

def fieldErrors {α : Type} : Except FieldError α → List FieldError
  | .ok _ => []
  | .error e => [e]

/-- `RecipientInfo(**value)`. -/
def RecipientInfo.ofJson : JsonValue → Except PyException RecipientInfo
  | .dict fields =>
    match optionalStrField "email" (fields.lookup "email"),
      optionalStrField "phone" (fields.lookup "phone"),
      optionalStrField "device_token" (fields.lookup "device_token") with
    | .ok email, .ok phone, .ok deviceToken => .ok ⟨email, phone, deviceToken⟩
    | email, phone, deviceToken =>
      .error (.validationError (fieldErrors email ++ fieldErrors phone ++ fieldErrors deviceToken))
  | _ => .error .typeError

/-- `CHANNEL_RECIPIENT_FIELD`. -/
def channelRecipientField : NotificationChannel → String
  | .email => "email" | .sms => "phone" | .push => "device_token"

/-- The `ValueError` that `validate_recipient_and_content` raises at a channel. -/
def channelError (event : EventType) (recipient : RecipientInfo) (content : List (String × JsonValue))
    (channel : NotificationChannel) : Option String :=
  if (recipient.fieldFor channel).getD "" = "" then
    some ("recipient." ++ channelRecipientField channel ++ " is required for event_type=" ++
      event.label ++ " (channel=" ++ channel.label ++ ")")
  else if (content.lookup channel.label).isNone then
    some ("content." ++ channel.label ++ " is required for event_type=" ++ event.label)
  else none

theorem channelError_eq_none {event : EventType} {recipient : RecipientInfo}
    {content : List (String × JsonValue)} {channel : NotificationChannel}
    (h : channelError event recipient content channel = none) :
    (∃ value, recipient.fieldFor channel = some value ∧ value ≠ "") ∧
      (content.lookup channel.label).isSome := by
  unfold channelError at h
  split at h
  next => cases h
  next filled =>
    split at h
    next => cases h
    next present =>
      refine ⟨?_, by simpa using present⟩
      cases field : recipient.fieldFor channel with
      | none => exact absurd (by rw [field]; rfl) filled
      | some value => exact ⟨value, rfl, by simpa [field] using filled⟩

/-- `NotificationCreate(...)` of the six arguments. -/
def NotificationCreate.ofFields (idempotencyKey sourceService eventType priority : JsonValue)
    (recipient : RecipientInfo) (content : JsonValue) : Except PyException NotificationCreate :=
  match strField "idempotency_key" idempotencyKey, validateSourceService sourceService,
    validateEventType eventType, validatePriority priority, dictField "content" content with
  | .ok key, .ok source, .ok event, .ok priority, .ok content =>
    match h : (eventChannelMap event).findSome? (channelError event recipient content) with
    | some msg => .error (.validationError [⟨[], "Value error, " ++ msg⟩])
    | none => .ok {
        idempotencyKey := key
        sourceService := source
        eventType := event
        priority := priority
        recipient := recipient
        content := content
        hasRecipient := fun channel mem =>
          (channelError_eq_none (List.findSome?_eq_none_iff.mp h channel mem)).1
        hasContent := fun channel mem =>
          (channelError_eq_none (List.findSome?_eq_none_iff.mp h channel mem)).2 }
  | key, source, event, priority, content =>
    .error (.validationError (fieldErrors key ++ fieldErrors source ++ fieldErrors event ++
      fieldErrors priority ++ fieldErrors content))

/-- `_on_new_event` up to the payload it hands to `create_notification`. -/
def newEvent (json : String → Except JsonError JsonValue) (body : ByteArray) :
    Except PyException NotificationCreate := do
  let text ← decode body
  let body ← loads json text
  let idempotencyKey ← body.item "idempotency_key"
  let sourceService ← body.item "source_service"
  let eventType ← body.item "event_type"
  let priority ← body.get "priority" (.str "medium")
  let recipient ← body.item "recipient"
  let recipient ← RecipientInfo.ofJson recipient
  let content ← body.item "content"
  NotificationCreate.ofFields idempotencyKey sourceService eventType priority recipient content

end NotificationEngine
