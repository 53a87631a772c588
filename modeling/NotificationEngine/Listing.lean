import NotificationEngine.CreatedResponse
import NotificationEngine.Paging

namespace NotificationEngine

/-- The query parameters of `GET /notifications`. -/
structure ListQuery where
  status : Option String
  channel : Option String
  sourceService : Option String
  eventType : Option String

/-- The columns `NotificationRepository.list` selects by. -/
structure ListFilters where
  status : Option NotificationStatus
  channel : Option NotificationChannel
  sourceService : Option SourceService
  eventType : Option EventType

def NotificationStatus.name : NotificationStatus → String
  | pending => "PENDING" | queued => "QUEUED" | sent => "SENT" | failed => "FAILED"
  | retrying => "RETRYING"

def NotificationChannel.name : NotificationChannel → String
  | email => "EMAIL" | sms => "SMS" | push => "PUSH"

def SourceService.name : SourceService → String
  | order => "ORDER" | payment => "PAYMENT" | shipping => "SHIPPING"

def EventType.name : EventType → String
  | orderCreated => "ORDER_CREATED"
  | orderCancelled => "ORDER_CANCELLED"
  | paymentConfirmed => "PAYMENT_CONFIRMED"
  | paymentFailed => "PAYMENT_FAILED"
  | paymentOtpRequested => "PAYMENT_OTP_REQUESTED"
  | shipmentDispatched => "SHIPMENT_DISPATCHED"
  | shipmentDelivered => "SHIPMENT_DELIVERED"
  | shipmentDelayed => "SHIPMENT_DELAYED"

/-- `Enum[value.upper()].value if value else None`; `none` is the `KeyError` of an unknown name. -/
def enumFilter {α : Type} (upper : String → String) (members : List α) (name : α → String) :
    Option String → Option (Option α)
  | none => some none
  | some value =>
    if value = "" then some none
    else (members.find? fun member => name member = upper value).map some

/-- The first part of `list_notifications`, for any `str.upper`. -/
def ListQuery.filters (upper : String → String) (q : ListQuery) : Option ListFilters := do
  let status ← enumFilter upper [.pending, .queued, .sent, .failed, .retrying] NotificationStatus.name q.status
  let channel ← enumFilter upper [.email, .sms, .push] NotificationChannel.name q.channel
  let sourceService ← enumFilter upper [.order, .payment, .shipping] SourceService.name q.sourceService
  let eventType ← enumFilter upper
    [.orderCreated, .orderCancelled, .paymentConfirmed, .paymentFailed, .paymentOtpRequested,
      .shipmentDispatched, .shipmentDelivered, .shipmentDelayed] EventType.name q.eventType
  return ⟨status, channel, sourceService, eventType⟩

def ListFilters.selects (f : ListFilters) (n : Notification) : Bool :=
  f.status.all (· = n.status) && f.channel.all (· = n.channel) &&
    f.sourceService.all (· = n.sourceService) && f.eventType.all (· = n.eventType)

/-- The rows the `WHERE` clause selects, in the order of their ids. -/
def World.select (w : World) (f : ListFilters) : List (Nat × Notification) :=
  (List.range w.nextId).filterMap fun id =>
    (w.rows id).bind fun n => if f.selects n then some (id, n) else none

/-- `NotificationRepository.list`; `order` is what PostgreSQL makes of `ORDER BY` in this query. -/
def World.list (w : World) (order : List (Nat × Notification) → List (Nat × Notification))
    (f : ListFilters) (limit offset : Nat) : List (Nat × Notification) :=
  ((order (w.select f)).drop offset).take limit

def World.listNotifications (upper : String → String) (w : World)
    (order : List (Nat × Notification) → List (Nat × Notification)) (q : ListQuery) (limit offset : Nat) :
    Option (List (Nat × Notification)) :=
  (q.filters upper).map fun f => w.list order f limit offset

/-- `ORDER BY ctime DESC`: rows with equal times come in any order. -/
def ByCtime (order : List (Nat × Notification) → List (Nat × Notification)) : Prop :=
  ∀ rows, Paging.Arranged (fun row => row.2.ctime) rows (order rows)

section Select

variable {w : World} (f : ListFilters)

theorem mem_select (fresh : w.Fresh) {id : Nat} {n : Notification} :
    (id, n) ∈ w.select f ↔ w.rows id = some n ∧ f.selects n = true := by
  rw [World.select, List.mem_filterMap]
  constructor
  · rintro ⟨i, _, selected⟩
    obtain ⟨m, row, selected⟩ := Option.bind_eq_some_iff.mp selected
    split at selected
    next holds =>
      cases selected
      exact ⟨row, holds⟩
    next => cases selected
  · rintro ⟨row, holds⟩
    refine ⟨id, List.mem_range.mpr ?_, by simp [row, holds]⟩
    by_contra beyond
    rw [fresh id (Nat.le_of_not_lt beyond)] at row
    cases row

theorem select_nodup (w : World) : (w.select f).Nodup := by
  refine List.nodup_range.filterMap fun i j row hi hj => ?_
  obtain ⟨m, _, hi⟩ := Option.bind_eq_some_iff.mp hi
  obtain ⟨m', _, hj⟩ := Option.bind_eq_some_iff.mp hj
  split at hi
  next =>
    split at hj
    next =>
      cases hi
      cases hj
      rfl
    next => cases hj
  next => cases hi

end Select

theorem exists_byCtime (rows : List (Nat × Notification)) {l : List (Nat × Notification)}
    (arranged : Paging.Arranged (fun row => row.2.ctime) rows l) : ∃ order, ByCtime order ∧ order rows = l := by
  classical
  choose sorted arrangements using Paging.exists_arranged fun row : Nat × Notification => row.2.ctime
  refine ⟨fun rows' => if rows' = rows then l else sorted rows', fun rows' => ?_, if_pos rfl⟩
  beta_reduce
  split
  next same =>
    rw [same]
    exact arranged
  next => exact arrangements rows'

/-- The pages at offsets 0, `size`, 2 `size`, … up to the first empty one hold each row that the filters
select exactly once. -/
def World.PagedOnce (upper : String → String) (w : World) (q : ListQuery) (f : ListFilters) (size : Nat)
    (order : Nat → List (Nat × Notification) → List (Nat × Notification)) : Prop :=
  ∃ pages : Nat → List (Nat × Notification),
    (∀ k, w.listNotifications upper (order k) q size (k * size) = some (pages k)) ∧
    ∃ listed, Paging.Collects pages 0 listed ∧ listed.Nodup ∧
      ∀ id n, (id, n) ∈ listed ↔ w.rows id = some n ∧ f.selects n = true

section Pages

variable {upper : String → String} {w : World} {q : ListQuery} {f : ListFilters} {size : Nat}

theorem list_page (valid : q.filters upper = some f)
    (order : List (Nat × Notification) → List (Nat × Notification)) (k : Nat) :
    w.listNotifications upper order q size (k * size) =
      some (Paging.page (order (w.select f)) size k) := by
  rw [World.listNotifications, valid]
  rfl

theorem pagedOnce_iff (fresh : w.Fresh) (valid : q.filters upper = some f)
    {order : Nat → List (Nat × Notification) → List (Nat × Notification)} :
    w.PagedOnce upper q f size order ↔
      ∃ listed, Paging.Collects (fun k => Paging.page (order k (w.select f)) size k) 0 listed ∧
        listed.Nodup ∧ ∀ row, row ∈ listed ↔ row ∈ w.select f := by
  constructor
  · rintro ⟨pages, given, listed, collected, nodup, mem⟩
    have same : pages = fun k => Paging.page (order k (w.select f)) size k := by
      funext k
      exact Option.some.inj ((given k).symm.trans (list_page valid (order k) k))
    refine ⟨listed, same ▸ collected, nodup, ?_⟩
    rintro ⟨id, n⟩
    rw [mem, mem_select f fresh]
  · rintro ⟨listed, collected, nodup, mem⟩
    refine ⟨_, fun k => list_page valid (order k) k, listed, collected, nodup, fun id n => ?_⟩
    rw [mem, mem_select f fresh]

/-- Orders can be chosen query by query, so they meet the arrangements of any list of answers. -/
theorem paged_iff_collected (fresh : w.Fresh) (valid : q.filters upper = some f) :
    (∀ order : Nat → List (Nat × Notification) → List (Nat × Notification),
        (∀ k, ByCtime (order k)) → w.PagedOnce upper q f size order) ↔
      ∀ answer : Nat → List (Nat × Notification),
        (∀ k, Paging.Arranged (fun row => row.2.ctime) (w.select f) (answer k)) →
          ∃ listed, Paging.Collects (fun k => Paging.page (answer k) size k) 0 listed ∧
            listed.Nodup ∧ ∀ row, row ∈ listed ↔ row ∈ w.select f := by
  constructor
  · intro paged answer arranged
    choose order ordered same using fun k => exists_byCtime (w.select f) (arranged k)
    have collected := (pagedOnce_iff fresh valid).mp (paged order ordered)
    simpa only [same] using collected
  · intro once order ordered
    exact (pagedOnce_iff fresh valid).mpr (once (fun k => order k (w.select f)) fun k => ordered k _)

end Pages

/-- The pages partition the listing, whatever order PostgreSQL gives rows of equal time in each query,
exactly if the selected rows of any one creation time are all on one page. -/
theorem pages_partition_iff (upper : String → String) {w : World} (fresh : w.Fresh) {q : ListQuery}
    {f : ListFilters} (valid : q.filters upper = some f) {size : Nat} (pos : 1 ≤ size) :
    (∀ order : Nat → List (Nat × Notification) → List (Nat × Notification),
        (∀ k, ByCtime (order k)) → w.PagedOnce upper q f size order) ↔
      ∀ row ∈ w.select f, Paging.OnePage (fun row => row.2.ctime) (w.select f) size row :=
  (paged_iff_collected fresh valid).trans (Paging.collected_once_iff pos (select_nodup f w))

/-- The two rows of a shipment, created at the given times. -/
def shipmentRows (email sms : Int) : World :=
  (World.initial.insert (delayedShipment.row .email email)).insert (delayedShipment.row .sms sms)

theorem shipmentRows_fresh (email sms : Int) : (shipmentRows email sms).Fresh := by
  have fresh : World.initial.Fresh := fun _ _ => rfl
  exact (fresh.insert _).insert _

/-- Two rows that were created at different times. -/
theorem pages_partition_two_times :
    ((shipmentRows 0 1).select ⟨none, none, none, none⟩).length = 2 ∧
      ∀ order : Nat → List (Nat × Notification) → List (Nat × Notification), (∀ k, ByCtime (order k)) →
        (shipmentRows 0 1).PagedOnce String.toUpper ⟨none, none, none, none⟩ ⟨none, none, none, none⟩ 1
          order := by
  have apart := (pages_partition_iff String.toUpper (shipmentRows_fresh 0 1)
    (q := ⟨none, none, none, none⟩) rfl le_rfl).mpr (by decide +kernel)
  exact ⟨by decide +kernel, apart⟩

/-- Both rows were created at one time, and a page holds one row. -/
theorem pages_repeat :
    ¬∀ order : Nat → List (Nat × Notification) → List (Nat × Notification), (∀ k, ByCtime (order k)) →
      (shipmentRows 0 0).PagedOnce String.toUpper ⟨none, none, none, none⟩ ⟨none, none, none, none⟩ 1 order := by
  rw [paged_iff_collected (shipmentRows_fresh 0 0) rfl,
    Paging.collected_once_iff Nat.one_pos (select_nodup _ _)]
  decide +kernel

end NotificationEngine
