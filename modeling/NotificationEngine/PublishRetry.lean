import NotificationEngine.QueueService

namespace NotificationEngine

/-- How many awaited calls `publish_retry` has left. -/
def PublishPc.rank : PublishPc → Nat
  | connect => 4 | openChannel => 3 | declareQueue => 2 | publish => 1

theorem PublishPc.step_rank {q : QueueService} {pc next : PublishPc}
    (h : (pc.step q).2 = some next) : next.rank < pc.rank := by
  cases pc <;> cases h <;> decide

/-- What a call of `publish_retry` leaves behind: the service, the value it returned, and the
messages it put into `notification.retry`. -/
structure Published where
  service : QueueService
  returned : Bool
  messages : List RetryMessage

/-- The rest of `publish_retry` when the broker accepts every call. -/
def PublishPc.finish (m : RetryMessage) : Nat → QueueService → PublishPc → Published
  | 0, q, _ => ⟨q, false, []⟩
  | fuel + 1, q, pc =>
    let sent := if pc = .publish then [m] else []
    match pc.step q with
    | (q, none) => ⟨q, true, sent⟩
    | (q, some next) =>
      let rest := finish m fuel q next
      { rest with messages := sent ++ rest.messages }

/-- `publish_retry` when the broker accepts every call. -/
def QueueService.publishRetry (lib : AioPika) (q : QueueService) (m : RetryMessage) : Published :=
  match q.getRabbitmqChannel lib with
  | (q, none) => ⟨q, false, []⟩
  | (q, some pc) => pc.finish m pc.rank q

/-- One call after the other, with everything they returned and published. -/
def QueueService.publishAll (lib : AioPika) : QueueService → List RetryMessage →
    QueueService × List Bool × List RetryMessage
  | q, [] => (q, [], [])
  | q, m :: ms =>
    let first := q.publishRetry lib m
    let (q, returned, messages) := publishAll lib first.service ms
    (q, first.returned :: returned, first.messages ++ messages)

/-- Every call returned `True` and published its message, and the service has one connection. -/
def AllPublished (lib : AioPika) (calls : List RetryMessage) : Prop :=
  let (q, returned, messages) := QueueService.fresh.publishAll lib calls
  (∀ ok ∈ returned, ok = true) ∧ messages = calls ∧ (calls ≠ [] → q.openConnections = 1)

/-- The service after a first call. -/
def QueueService.connected : QueueService := ⟨some ⟨false⟩, some ⟨false⟩, 1⟩

theorem publishRetry_fresh (lib : AioPika) (m : RetryMessage) :
    QueueService.fresh.publishRetry lib m = ⟨.connected, true, [m]⟩ := rfl

theorem publishRetry_connected {lib : AioPika} (callable : lib.isClosedIsMethod = true)
    (m : RetryMessage) : QueueService.connected.publishRetry lib m = ⟨.connected, true, [m]⟩ := by
  obtain ⟨_⟩ := lib
  cases callable
  rfl

/-- If `is_closed` cannot be called, the call after a successful one fails. -/
theorem publishRetry_connected_fails {lib : AioPika} (property : lib.isClosedIsMethod = false)
    (m : RetryMessage) :
    QueueService.connected.publishRetry lib m = ⟨⟨none, none, 1⟩, false, []⟩ := by
  obtain ⟨_⟩ := lib
  cases property
  rfl

theorem publishAll_connected {lib : AioPika} (callable : lib.isClosedIsMethod = true)
    (ms : List RetryMessage) :
    QueueService.connected.publishAll lib ms = (.connected, ms.map fun _ => true, ms) := by
  induction ms with
  | nil => rfl
  | cons m ms ih => simp [QueueService.publishAll, publishRetry_connected callable, ih]

theorem publishAll_fresh (lib : AioPika) (m : RetryMessage) (ms : List RetryMessage) :
    QueueService.fresh.publishAll lib (m :: ms) =
      ((QueueService.connected.publishAll lib ms).1,
        true :: (QueueService.connected.publishAll lib ms).2.1,
        m :: (QueueService.connected.publishAll lib ms).2.2) := by
  simp [QueueService.publishAll, publishRetry_fresh]

/-- Successive retries are all published exactly if there is at most one, or if `is_closed` can
be called. -/
theorem all_published_iff (lib : AioPika) (calls : List RetryMessage) :
    AllPublished lib calls ↔ calls.length ≤ 1 ∨ lib.isClosedIsMethod = true := by
  cases calls with
  | nil => simp [AllPublished, QueueService.publishAll]
  | cons m ms =>
    rw [AllPublished, publishAll_fresh]
    cases callable : lib.isClosedIsMethod with
    | true =>
      rw [publishAll_connected callable]
      simp [QueueService.connected]
    | false =>
      cases ms with
      | nil => simp [QueueService.publishAll, QueueService.connected]
      | cons m' ms =>
        simp [QueueService.publishAll, publishRetry_connected_fails callable]

theorem second_retry_unpublished : ¬AllPublished aioPika954 [⟨1, 0, 5⟩, ⟨2, 0, 5⟩] := by
  rintro ⟨returned, _⟩
  exact Bool.false_ne_true (returned false (by decide))

end NotificationEngine
