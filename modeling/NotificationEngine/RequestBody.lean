import NotificationEngine.PoisonMessages

namespace NotificationEngine

/-- The error of a nested value, as an error of the value that has it in a field. -/
def FieldError.under (field : String) (e : FieldError) : FieldError := ⟨field :: e.loc, e.msg⟩

/-- What pydantic says of a value that is no object where a model is expected. -/
def notAnObject : String := "Input should be a valid dictionary or object to extract fields from"

/-- A field without a default, and what validates its value. -/
def requiredField {α : Type} (field : String) (validate : JsonValue → Except FieldError α) :
    Option JsonValue → Except FieldError α
  | none => .error ⟨[field], "Field required"⟩
  | some value => validate value

/-- `priority: str = "medium"`; a default is not validated. -/
def priorityField : Option JsonValue → Except FieldError NotificationPriority
  | none => .ok .medium
  | some value => validatePriority value

/-- `recipient: RecipientInfo`. -/
def recipientField : Option JsonValue → Except (List FieldError) RecipientInfo
  | none => .error [⟨["recipient"], "Field required"⟩]
  | some value =>
    match RecipientInfo.ofJson value with
    | .ok recipient => .ok recipient
    | .error (.validationError errors) => .error (errors.map (·.under "recipient"))
    | .error _ => .error [⟨["recipient"], notAnObject⟩]

def nestedErrors {α : Type} : Except (List FieldError) α → List FieldError
  | .ok _ => []
  | .error errors => errors

/-- `validate_recipient_and_content`, once every field is valid. -/
def NotificationCreate.checked (key : String) (source : SourceService) (event : EventType)
    (priority : NotificationPriority) (recipient : RecipientInfo) (content : List (String × JsonValue)) :
    Except (List FieldError) NotificationCreate :=
  match h : (eventChannelMap event).findSome? (channelError event recipient content) with
  | some msg => .error [⟨[], "Value error, " ++ msg⟩]
  | none => .ok {
      idempotencyKey := key
      sourceService := source
      eventType := event
      priority := priority
      recipient := recipient
      content := content
      hasRecipient := fun channel mem => (channelError_eq_none (List.findSome?_eq_none_iff.mp h channel mem)).1
      hasContent := fun channel mem => (channelError_eq_none (List.findSome?_eq_none_iff.mp h channel mem)).2 }

/-- A `NotificationCreate` of its validated fields, or the errors of all of them. -/
def NotificationCreate.collect (key : Except FieldError String) (source : Except FieldError SourceService)
    (event : Except FieldError EventType) (priority : Except FieldError NotificationPriority)
    (recipient : Except (List FieldError) RecipientInfo)
    (content : Except FieldError (List (String × JsonValue))) : Except (List FieldError) NotificationCreate :=
  match key, source, event, priority, recipient, content with
  | .ok key, .ok source, .ok event, .ok priority, .ok recipient, .ok content =>
    checked key source event priority recipient content
  | key, source, event, priority, recipient, content =>
    .error (fieldErrors key ++ fieldErrors source ++ fieldErrors event ++ fieldErrors priority ++
      nestedErrors recipient ++ fieldErrors content)

/-- `NotificationCreate` of a JSON value. -/
def NotificationCreate.ofJson : JsonValue → Except (List FieldError) NotificationCreate
  | .dict fields => collect
      (requiredField "idempotency_key" (strField "idempotency_key") (fields.lookup "idempotency_key"))
      (requiredField "source_service" validateSourceService (fields.lookup "source_service"))
      (requiredField "event_type" validateEventType (fields.lookup "event_type"))
      (priorityField (fields.lookup "priority"))
      (recipientField (fields.lookup "recipient"))
      (requiredField "content" (dictField "content") (fields.lookup "content"))
  | _ => .error [⟨[], notAnObject⟩]

/-- What `_on_new_event` makes of a decoded body. -/
def JsonValue.newEvent (body : JsonValue) : Except PyException NotificationCreate := do
  let idempotencyKey ← body.item "idempotency_key"
  let sourceService ← body.item "source_service"
  let eventType ← body.item "event_type"
  let priority ← body.get "priority" (.str "medium")
  let recipient ← body.item "recipient"
  let recipient ← RecipientInfo.ofJson recipient
  let content ← body.item "content"
  NotificationCreate.ofFields idempotencyKey sourceService eventType priority recipient content

section Fields

variable {key : Except FieldError String} {source : Except FieldError SourceService}
  {event : Except FieldError EventType} {priority : Except FieldError NotificationPriority}
  {recipient : Except (List FieldError) RecipientInfo} {content : Except FieldError (List (String × JsonValue))}

end Fields

section Doors

variable {fields : List (String × JsonValue)}

end Doors

end NotificationEngine
