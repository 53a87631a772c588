import NotificationEngine.Notification

namespace NotificationEngine

/-- `EVENT_CHANNEL_MAP`. -/
def eventChannelMap : EventType → List NotificationChannel
  | .orderCreated => [.email, .push]
  | .orderCancelled => [.email, .push]
  | .paymentConfirmed => [.email, .push]
  | .paymentFailed => [.email, .sms, .push]
  | .paymentOtpRequested => [.sms]
  | .shipmentDispatched => [.email, .push]
  | .shipmentDelivered => [.email, .push]
  | .shipmentDelayed => [.email, .sms]

structure RecipientInfo where
  email : Option String
  phone : Option String
  deviceToken : Option String

/-- `getattr(recipient, CHANNEL_RECIPIENT_FIELD[channel])`. -/
def RecipientInfo.fieldFor (r : RecipientInfo) : NotificationChannel → Option String
  | .email => r.email
  | .sms => r.phone
  | .push => r.deviceToken

/-- A payload that passed the validators; the last two fields are what
`validate_recipient_and_content` checks. -/
structure NotificationCreate where
  idempotencyKey : String
  sourceService : SourceService
  eventType : EventType
  priority : NotificationPriority
  recipient : RecipientInfo
  content : List (String × JsonValue)
  hasRecipient : ∀ channel ∈ eventChannelMap eventType,
    ∃ value, recipient.fieldFor channel = some value ∧ value ≠ ""
  hasContent : ∀ channel ∈ eventChannelMap eventType, (content.lookup channel.label).isSome

/-- `f"idem:{payload.idempotency_key}"`. -/
def NotificationCreate.redisKey (p : NotificationCreate) : String := "idem:" ++ p.idempotencyKey

/-- `f"{payload.idempotency_key}-{channel.name.lower()}"`. -/
def channelIdemKey (key : String) (channel : NotificationChannel) : String :=
  key ++ "-" ++ channel.label

/-- The row `create_notification` builds for a channel, with the creation time the database
gives it. -/
def NotificationCreate.row (p : NotificationCreate) (channel : NotificationChannel) (ctime : Int) :
    Notification where
  idempotencyKey := channelIdemKey p.idempotencyKey channel
  sourceService := p.sourceService
  eventType := p.eventType
  channel := channel
  recipient := (p.recipient.fieldFor channel).getD ""
  priority := p.priority
  status := .pending
  errorCode := none
  retryCount := 0
  nextRetryTime := none
  externalId := none
  content := (p.content.lookup channel.label).getD (.dict [])
  ctime := ctime
  stime := none

/-- A request for one OTP by SMS. -/
def otpRequest : NotificationCreate where
  idempotencyKey := "otp-1"
  sourceService := .payment
  eventType := .paymentOtpRequested
  priority := .critical
  recipient := ⟨none, some "+4915112345678", none⟩
  content := [("sms", .dict [("body", .str "1234")])]
  hasRecipient := by simp [eventChannelMap, RecipientInfo.fieldFor]
  hasContent := by decide

end NotificationEngine
