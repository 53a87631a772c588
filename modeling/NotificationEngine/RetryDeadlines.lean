import Mathlib.Data.Int.Order.Basic
import NotificationEngine.HeadExpiry
import NotificationEngine.System

namespace NotificationEngine

/-- The delays `get_retry_delay` produces for the event types of `RETRY_CONFIG`. -/
def Producible (event : EventType) (delay : Nat) : Prop :=
  ∃ config retryCount draw, retryConfig event = some config ∧ 1 ≤ retryCount ∧
    getRetryDelay retryCount config.baseDelay config.maxDelay config.useJitter draw = some delay

/-- No retry is held in `notification.retry` past its deadline, by a broker that expires the head
of the queue as soon as it may. -/
def RetriesOnTime (published : List RetryMessage) : Prop :=
  HeadExpiry.NeverOverdue RetryMessage.deadline RetryMessage.publishedAt published

/-- The expiries the broker can carry out at one instant leave what `HeadExpiry.settle` leaves. -/
theorem expire_settles (cfg : Config) (ops : List Op) (now : Int) (w : World) :
    ∃ w', Transition.trace (Sys.step cfg) (fun _ _ => true) ⟨w, ops⟩
        (List.replicate (w.retryQueue.takeWhile fun m => m.deadline ≤ now).length (.expire now)) =
          some ⟨w', ops⟩ ∧
      w'.retryQueue = HeadExpiry.settle RetryMessage.deadline (now + 1) w.retryQueue := by
  induction hq : w.retryQueue generalizing w with
  | nil => exact ⟨w, rfl, by rw [hq]; rfl⟩
  | cons m rest ih =>
    by_cases hm : m.deadline ≤ now
    · obtain ⟨w', ran, left⟩ := ih
        { w with retryQueue := rest, retryResult := w.retryResult ++ [m.notificationId] } rfl
      refine ⟨w', ?_, ?_⟩
      · simpa [hm, List.replicate_succ, Transition.trace, Sys.step, hq] using ran
      · have due : m.deadline < now + 1 := Int.lt_add_one_iff.mpr hm
        rw [left, HeadExpiry.settle, HeadExpiry.settle, List.dropWhile_cons_of_pos (by simpa using due)]
    · refine ⟨w, by simp [hm, Transition.trace], ?_⟩
      have later : ¬m.deadline < now + 1 := fun h => hm (Int.lt_add_one_iff.mp h)
      rw [HeadExpiry.settle, List.dropWhile_cons_of_neg (by simpa using later)]
      exact hq

/-- Retries leave the queue on time exactly if they are published in the order of their deadlines. -/
theorem retries_on_time_iff (published : List RetryMessage) :
    RetriesOnTime published ↔ published.Pairwise fun a b => a.deadline ≤ b.deadline := by
  apply HeadExpiry.neverOverdue_iff
  intro m _
  simp only [RetryMessage.deadline]
  omega

/-- A third retry of an order notification, held for a minute, and the OTP retry behind it. -/
def orderBeforeOtp : List RetryMessage := [⟨1, 0, 60⟩, ⟨2, 1000, 5⟩]

theorem otp_held_up : Producible .orderCreated 60 ∧ Producible .paymentOtpRequested 5 ∧
    ¬RetriesOnTime orderBeforeOtp := by
  refine ⟨⟨_, 3, 0, rfl, by decide, by decide⟩, ⟨_, 1, 0, rfl, by decide, by decide⟩, fun onTime => ?_⟩
  have stuck : (⟨2, 1000, 5⟩ : RetryMessage) ∈
      HeadExpiry.queueAt RetryMessage.deadline RetryMessage.publishedAt orderBeforeOtp 30000 := by
    decide
  exact onTime 30000 _ stuck (by decide)

end NotificationEngine
