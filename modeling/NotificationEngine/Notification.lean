import NotificationEngine.SnapshotWrite

namespace NotificationEngine

inductive NotificationStatus
  | pending | queued | sent | failed | retrying
  deriving DecidableEq, Repr

inductive NotificationChannel
  | email | sms | push
  deriving DecidableEq, Repr

inductive NotificationPriority
  | critical | high | medium | low
  deriving DecidableEq, Repr

inductive SourceService
  | order | payment | shipping
  deriving DecidableEq, Repr

inductive EventType
  | orderCreated | orderCancelled | paymentConfirmed | paymentFailed | paymentOtpRequested
  | shipmentDispatched | shipmentDelivered | shipmentDelayed
  deriving DecidableEq, Repr

inductive NotificationErrorCode
  | timeout | providerDown | rateLimited | invalidRecipient | invalidToken | unknown
  deriving DecidableEq, Repr

def NotificationPriority.value : NotificationPriority → Int
  | critical => 1 | high => 2 | medium => 3 | low => 4

/-- The lower-case member name, as the idempotency keys and the payloads spell it. -/
def NotificationChannel.label : NotificationChannel → String
  | email => "email" | sms => "sms" | push => "push"

def EventType.label : EventType → String
  | orderCreated => "order_created"
  | orderCancelled => "order_cancelled"
  | paymentConfirmed => "payment_confirmed"
  | paymentFailed => "payment_failed"
  | paymentOtpRequested => "payment_otp_requested"
  | shipmentDispatched => "shipment_dispatched"
  | shipmentDelivered => "shipment_delivered"
  | shipmentDelayed => "shipment_delayed"

def SourceService.label : SourceService → String
  | order => "order" | payment => "payment" | shipping => "shipping"

def NotificationPriority.label : NotificationPriority → String
  | critical => "critical" | high => "high" | medium => "medium" | low => "low"

def NotificationErrorCode.name : NotificationErrorCode → String
  | timeout => "TIMEOUT"
  | providerDown => "PROVIDER_DOWN"
  | rateLimited => "RATE_LIMITED"
  | invalidRecipient => "INVALID_RECIPIENT"
  | invalidToken => "INVALID_TOKEN"
  | unknown => "UNKNOWN"

def NotificationErrorCode.label : NotificationErrorCode → String
  | timeout => "timeout"
  | providerDown => "provider_down"
  | rateLimited => "rate_limited"
  | invalidRecipient => "invalid_recipient"
  | invalidToken => "invalid_token"
  | unknown => "unknown"

def NotificationErrorCode.value : NotificationErrorCode → Int
  | timeout => 1 | providerDown => 2 | rateLimited => 3 | invalidRecipient => 4 | invalidToken => 5
  | unknown => 6

/-- `NotificationErrorCode(value)`; `none` is the `ValueError` of an undefined code. -/
def NotificationErrorCode.ofValue? (value : Int) : Option NotificationErrorCode :=
  if value = 1 then some timeout
  else if value = 2 then some providerDown
  else if value = 3 then some rateLimited
  else if value = 4 then some invalidRecipient
  else if value = 5 then some invalidToken
  else if value = 6 then some unknown
  else none

def retryableErrorCodes : List NotificationErrorCode :=
  [.timeout, .providerDown, .rateLimited, .unknown]

/-- A decoded JSON value: what `json.loads` returns, each object with the last value of each of
its keys. A string with lone surrogates, which no `String` holds, is `illFormedStr`. -/
inductive JsonValue
  | null
  | bool (b : Bool)
  | int (i : Int)
  | float (text : String)
  | str (s : String)
  | illFormedStr (codePoints : List Nat)
  | list (items : List JsonValue)
  | dict (fields : List (String × JsonValue))

/-- A row of the `notifications` table less its primary key, which the table is indexed by, and
the attributes an ORM instance of the row holds. -/
structure Notification where
  idempotencyKey : String
  sourceService : SourceService
  eventType : EventType
  channel : NotificationChannel
  recipient : String
  priority : NotificationPriority
  status : NotificationStatus
  errorCode : Option NotificationErrorCode
  retryCount : Nat
  nextRetryTime : Option Int
  externalId : Option String
  content : JsonValue
  ctime : Int
  stime : Option Int

/-- The `UPDATE` a session flushes at commit: of the columns `update_status` can set, those
whose new value differs from the loaded one. -/
def Notification.flush (loaded new stored : Notification) : Notification :=
  { stored with
    status := SnapshotWrite.column loaded.status new.status stored.status
    errorCode := SnapshotWrite.column loaded.errorCode new.errorCode stored.errorCode
    retryCount := SnapshotWrite.column loaded.retryCount new.retryCount stored.retryCount
    nextRetryTime := SnapshotWrite.column loaded.nextRetryTime new.nextRetryTime stored.nextRetryTime
    externalId := SnapshotWrite.column loaded.externalId new.externalId stored.externalId
    stime := SnapshotWrite.column loaded.stime new.stime stored.stime }

/-- The statuses in which some carrier of the id is still expected. -/
def NotificationStatus.Live : NotificationStatus → Prop
  | pending => True | queued => True | retrying => True
  | sent => False | failed => False

instance (s : NotificationStatus) : Decidable s.Live := by
  cases s <;> unfold NotificationStatus.Live <;> infer_instance

end NotificationEngine
