import Mathlib.Algebra.Group.Nat.Defs
import NotificationEngine.Notification

namespace NotificationEngine

structure RetryConfig where
  maxRetries : Nat
  baseDelay : Nat
  maxDelay : Nat
  useJitter : Bool
  deriving DecidableEq, Repr

/-- Per event type retry configuration, `RETRY_CONFIG`. -/
def retryConfig : EventType → Option RetryConfig
  | .paymentOtpRequested => some ⟨3, 5, 30, false⟩
  | .paymentFailed => some ⟨3, 15, 3600, true⟩
  | .paymentConfirmed => some ⟨3, 15, 3600, true⟩
  | .orderCreated => some ⟨3, 15, 3600, true⟩
  | .orderCancelled => some ⟨3, 15, 3600, true⟩
  | .shipmentDispatched => some ⟨3, 15, 3600, true⟩
  | .shipmentDelivered => some ⟨3, 15, 3600, true⟩
  | .shipmentDelayed => some ⟨3, 15, 3600, true⟩

def defaultRetryConfig : RetryConfig := ⟨3, 15, 3600, true⟩

/-- `random.randint`: any value from `low` to `high`, picked by `draw`. -/
def randint (low high draw : Nat) : Option Nat :=
  if low ≤ high then some (low + draw % (high - low + 1)) else none

/-- Delay in seconds before attempt `retryCount`; `none` is an error raised by `randint`. -/
def getRetryDelay (retryCount baseDelay maxDelay : Nat) (useJitter : Bool) (draw : Nat) : Option Nat :=
  let low := min (baseDelay * 2 ^ (retryCount - 1)) maxDelay
  let high := min (baseDelay * 2 ^ retryCount) maxDelay
  if useJitter then randint low high draw else some low

theorem retryWindow_le (retryCount baseDelay maxDelay : Nat) :
    min (baseDelay * 2 ^ (retryCount - 1)) maxDelay ≤ min (baseDelay * 2 ^ retryCount) maxDelay := by
  have hpow : 2 ^ (retryCount - 1) ≤ 2 ^ retryCount := Nat.pow_le_pow_right (by omega) (by omega)
  have hmul := Nat.mul_le_mul_left baseDelay hpow
  omega

theorem getRetryDelay_total (retryCount baseDelay maxDelay : Nat) (useJitter : Bool) (draw : Nat) :
    ∃ delay, getRetryDelay retryCount baseDelay maxDelay useJitter draw = some delay := by
  cases useJitter with
  | false => exact ⟨_, rfl⟩
  | true =>
    have window := retryWindow_le retryCount baseDelay maxDelay
    exact ⟨_, if_pos window⟩

end NotificationEngine
