import NotificationEngine.RetryDelay
import NotificationEngine.QueueService

namespace NotificationEngine

structure ProviderResult where
  success : Bool
  externalId : Option String
  errorCode : Option Int

/-- What a deployment fixes: the RabbitMQ library, the retry configuration and the UTC offset
of the host in milliseconds. -/
structure Config where
  aioPika : AioPika
  retryConfig : EventType → Option RetryConfig
  hostOffset : Int

/-- What the outside answers to one awaited call. Each call reads only the fields it asks for. -/
structure Env where
  hasProvider : Bool
  healthy : Bool
  result : ProviderResult
  now : Int
  draw : Nat

/-- The payload of a message in `notification.dlq`. -/
structure DeadLetter where
  notificationId : Nat
  idempotencyKey : String
  eventType : String
  channel : String
  recipient : String
  errorCode : String
  retryCount : Nat
  failureReason : String
  failedAt : Int

/-- The awaits of `dispatch` and of the methods it calls, each with the local variables still
needed; `n` is the ORM instance as last loaded. -/
inductive DispatchPc
  | select
  | commitQueued (n : Notification)
  | refreshQueued
  | health (n : Notification)
  | send (n : Notification)
  | commitSent (n : Notification) (externalId : Option String) (now : Int)
  | refreshSent
  | commitFailed (n : Notification) (code : NotificationErrorCode) (exhausted : Bool)
  | refreshFailed (code : NotificationErrorCode) (exhausted : Bool)
  | commitRetrying (n : Notification) (code : NotificationErrorCode) (count delay : Nat)
  | refreshRetrying (delay : Nat)
  | publishing (delay : Nat) (pc : PublishPc)
  | sendToDlq (n : Notification) (code : NotificationErrorCode)

/-- `RETRY_CONFIG.get(event_type, DEFAULT_RETRY_CONFIG)`. -/
def Config.retryConfigFor (cfg : Config) (event : EventType) : RetryConfig :=
  (cfg.retryConfig event).getD defaultRetryConfig

/-- `_schedule_retry` up to its first await; `none` is an error raised by `get_retry_delay`. -/
def scheduleRetry (cfg : Config) (env : Env) (n : Notification) (code : NotificationErrorCode) :
    Option DispatchPc :=
  let config := cfg.retryConfigFor n.eventType
  let newRetryCount := n.retryCount + 1
  if config.maxRetries < newRetryCount then some (.commitFailed n code true)
  else (getRetryDelay newRetryCount config.baseDelay config.maxDelay config.useJitter env.draw).map
    fun delay => .commitRetrying n code newRetryCount delay

/-- `NotificationErrorCode(result.error_code) if result.error_code else UNKNOWN`. -/
def ProviderResult.code (r : ProviderResult) : Option NotificationErrorCode :=
  match r.errorCode with
  | none => some .unknown
  | some value => if value = 0 then some .unknown else NotificationErrorCode.ofValue? value

/-- `dispatch` from the result of `send` to the next await; `none` is a raised exception. -/
def afterSend (cfg : Config) (env : Env) (n : Notification) : Option DispatchPc :=
  if env.result.success then some (.commitSent n env.result.externalId env.now)
  else match env.result.code with
    | none => none
    | some code =>
      if code ∉ retryableErrorCodes then some (.commitFailed n code false)
      else scheduleRetry cfg env n code

/-- The instant the driver stores for the naive UTC datetime that `_mark_sent` builds: it takes
a datetime without zone for local time of the host. -/
def Config.storedStime (cfg : Config) (now : Int) : Int := now - cfg.hostOffset

def Notification.markQueued (n : Notification) : Notification := { n with status := .queued }

def Notification.markSent (cfg : Config) (n : Notification) (externalId : Option String) (now : Int) :
    Notification :=
  { n with status := .sent, externalId := externalId, stime := some (cfg.storedStime now) }

def Notification.markFailed (n : Notification) (code : NotificationErrorCode) : Notification :=
  { n with status := .failed, errorCode := some code }

def Notification.markRetrying (n : Notification) (code : NotificationErrorCode) (count : Nat) :
    Notification :=
  { n with status := .retrying, retryCount := count, errorCode := some code }

/-- The payload `_send_to_dlq` builds for the notification with the given id. -/
def Notification.deadLetter (n : Notification) (id : Nat) (code : NotificationErrorCode)
    (now : Int) : DeadLetter where
  notificationId := id
  idempotencyKey := n.idempotencyKey
  eventType := n.eventType.label
  channel := n.channel.label
  recipient := n.recipient
  errorCode := code.label
  retryCount := n.retryCount
  failureReason := "Exhausted all retries. Last error: " ++ code.name
  failedAt := now

/-- The deployment as it is configured, on a host in UTC. -/
def defaultConfig : Config := ⟨aioPika954, retryConfig, 0⟩

/-- A provider that accepts the message, if it is healthy at all. -/
def accepting (healthy : Bool) : Env := ⟨true, healthy, ⟨true, some "SM1", none⟩, 100000, 0⟩

end NotificationEngine
