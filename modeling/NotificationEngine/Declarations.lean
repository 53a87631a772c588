import NotificationEngine.Amqp
import NotificationEngine.Dispatch

namespace NotificationEngine

open Amqp

def exchangeName : String := "notification.exchange"

def retryExchange : String := "notification.retry.exchange"

def queueName : String := "notification.queue"

def retryQueue : String := "notification.retry"

def retryResultQueue : String := "notification.retry.result"

def dlqExchange : String := "notification.dlq.exchange"

def dlqQueue : String := "notification.dlq"

def routingKeys : List String := ["order.*", "payment.*", "shipping.*"]

/-- A body as it is sent; the dict of a dead letter stands for its JSON text. -/
inductive MessageBody
  | text (s : String)
  | deadLetter (d : DeadLetter)

/-- What `RabbitMQHandler.start` asks of the broker before it consumes; a binding without a routing key has
the queue's name for one. -/
def startRequests : List (Request MessageBody) :=
  [.declareExchange exchangeName .topic, .declareExchange retryExchange .fanout, .declareQueue queueName none] ++
    routingKeys.map (fun key => .bind ⟨exchangeName, queueName, key⟩) ++
    [.declareQueue retryQueue (some retryExchange), .declareQueue retryResultQueue none,
      .bind ⟨retryExchange, retryResultQueue, retryResultQueue⟩]

/-- The message of `publish_retry`, by default with the name of the retry queue for its key. -/
def retryLetter (id : Nat) (deadline : Option Int) : Letter MessageBody :=
  ⟨retryQueue, .text (toString id), deadline⟩

/-- The two requests of `publish_retry` on its channel. -/
def declareRetryQueue : Request MessageBody := .declareQueue retryQueue (some retryExchange)

def publishRetry (id : Nat) (deadline : Int) : Request MessageBody :=
  .publish "" (retryLetter id (some deadline))

def deadLetterMessage (d : DeadLetter) : Letter MessageBody := ⟨"", .deadLetter d, none⟩

/-- The requests of `_send_to_dlq`. -/
def dlqDeclarations : List (Request MessageBody) :=
  [.declareExchange dlqExchange .fanout, .declareQueue dlqQueue none, .bind ⟨dlqExchange, dlqQueue, dlqQueue⟩]

def dlqRequests (d : DeadLetter) : List (Request MessageBody) :=
  dlqDeclarations ++ [.publish dlqExchange (deadLetterMessage d)]

/-- A microservice that publishes events, as the publisher script does: each with a routing key and a body. -/
def publisherRequests (events : List (String × String)) : List (Request MessageBody) :=
  .declareExchange exchangeName .topic ::
    events.map fun (routingKey, body) => .publish exchangeName ⟨routingKey, .text body, none⟩

/-- Everything that the programs declare. -/
def declarations : Topology where
  exchanges name :=
    if name = exchangeName then some .topic
    else if name = retryExchange ∨ name = dlqExchange then some .fanout
    else none
  queues name :=
    if name = retryQueue then some (some retryExchange)
    else if name = queueName ∨ name = retryResultQueue ∨ name = dlqQueue then some none
    else none
  bindings := routingKeys.map (fun key => ⟨exchangeName, queueName, key⟩) ++
    [⟨retryExchange, retryResultQueue, retryResultQueue⟩, ⟨dlqExchange, dlqQueue, dlqQueue⟩]

section Programs

variable {t : Topology} (within : t.Within declarations)

include within

theorem start_serves : declarations.Serves t startRequests :=
  ((Topology.empty_within _).serves (by decide) (by decide)).mono (Topology.empty_within t) within

theorem declareRetryQueue_serves : declarations.Serves t [declareRetryQueue] :=
  ((Topology.empty_within _).serves rfl rfl).mono (Topology.empty_within t) within

theorem publishRetry_serves (id : Nat) (deadline : Int) : declarations.Serves t [publishRetry id deadline] :=
  ⟨rfl, within⟩

theorem dlqDeclarations_serve : declarations.Serves t dlqDeclarations :=
  ((Topology.empty_within _).serves (by decide) (by decide)).mono (Topology.empty_within t) within

theorem dlq_serves (d : DeadLetter) : declarations.Serves t (dlqRequests d) :=
  ((Topology.empty_within _).serves rfl rfl).mono (Topology.empty_within t) within

theorem publisher_serves (events : List (String × String)) :
    declarations.Serves t (publisherRequests events) := by
  have declared : declarations.Serves Topology.empty (publisherRequests events) := by
    refine ⟨rfl, ?_⟩
    have within : (Topology.empty.adding (.declareExchange exchangeName .topic : Request MessageBody)).Within
        declarations := (Topology.empty_within _).adding rfl
    induction events with
    | nil => exact within
    | cons e events ih => exact ⟨rfl, ih⟩
  exact declared.mono (Topology.empty_within t) within

end Programs

/-- `notification.retry.result` is bound. -/
def returning : Binding := ⟨retryExchange, retryResultQueue, retryResultQueue⟩

/-- `notification.queue` is bound to all its families. -/
def Listening (t : Topology) : Prop := ∀ key ∈ routingKeys, ⟨exchangeName, queueName, key⟩ ∈ t.bindings

/-- Two words, the first of which is one of the microservices. -/
def EventKey (key : String) : Prop :=
  ∃ service ∈ ["order", "payment", "shipping"], ∃ last : String, '.' ∉ last.toList ∧ key = service ++ "." ++ last

section Routing

variable {t : Topology} (within : t.Within declarations)

theorem routingKey_matches {service : String} (mem : service ∈ ["order", "payment", "shipping"]) (key : String) :
    wordsMatch (words (service ++ ".*")) (words key) = true ↔
      ∃ last : String, '.' ∉ last.toList ∧ key = service ++ "." ++ last := by
  have pattern : words (service ++ ".*") = [service.toList, ['*']] ∧ service.toList ≠ ['#'] ∧
      service.toList ≠ ['*'] ∧ '.' ∉ service.toList := by
    simp only [List.mem_cons, List.not_mem_nil, or_false] at mem
    rcases mem with rfl | rfl | rfl <;> decide
  obtain ⟨is, hash, star, clean⟩ := pattern
  rw [is, star_matches hash star]
  constructor
  · rintro ⟨last, h⟩
    obtain ⟨_, clean', whole⟩ := words_eq_pair.mp h
    refine ⟨String.ofList last, by simpa using clean', ?_⟩
    apply String.toList_inj.mp
    simp [whole]
  · rintro ⟨last, clean', rfl⟩
    exact ⟨last.toList, words_eq_pair.mpr ⟨clean, clean', by simp⟩⟩

include within

theorem event_binding {b : Binding} (mem : b ∈ t.bindings) (own : b.exchange = exchangeName) :
    b.queue = queueName ∧ ∃ service ∈ ["order", "payment", "shipping"], b.pattern = service ++ ".*" := by
  have planned := within.bindings b mem
  simp only [declarations, routingKeys, List.map_cons, List.map_nil, List.cons_append, List.nil_append,
    List.mem_cons, List.not_mem_nil, or_false] at planned
  rcases planned with rfl | rfl | rfl | rfl | rfl
  · exact ⟨rfl, "order", by decide, rfl⟩
  · exact ⟨rfl, "payment", by decide, rfl⟩
  · exact ⟨rfl, "shipping", by decide, rfl⟩
  · exact absurd own (by decide)
  · exact absurd own (by decide)

/-- An event goes to `notification.queue` or nowhere. -/
theorem mem_event_route {key queue : String} (mem : queue ∈ t.route exchangeName key) : queue = queueName := by
  rw [Topology.route, if_neg (by decide)] at mem
  split at mem
  next => cases mem
  next =>
    obtain ⟨b, passes, rfl⟩ := List.mem_map.mp (List.mem_dedup.mp mem)
    obtain ⟨there, passes⟩ := List.mem_filter.mp passes
    exact (event_binding within there (of_decide_eq_true (Bool.and_eq_true_iff.mp passes).1)).1

/-- A listening service gets an event once, and nothing but events of its families. -/
theorem event_route (sound : t.Sound) (listening : Listening t) (key : String) [Decidable (EventKey key)] :
    t.route exchangeName key = if EventKey key then [queueName] else [] := by
  have topic : t.exchanges exchangeName = some .topic := by
    obtain ⟨there, _⟩ := sound _ (listening "order.*" (by decide))
    obtain ⟨type, there⟩ := Option.isSome_iff_exists.mp there
    rw [there]
    exact (within.exchanges _ _ there).symm
  rw [Topology.route_eq (by decide) topic fun b mem own => (event_binding within mem own).1]
  congr 1
  refine propext ⟨?_, ?_⟩
  · rintro ⟨b, mem, own, admits⟩
    obtain ⟨_, service, known, pattern⟩ := event_binding within mem own
    refine ⟨service, known, (routingKey_matches known key).mp ?_⟩
    rw [← pattern]
    exact admits
  · rintro ⟨service, known, last⟩
    have pattern : service ++ ".*" ∈ routingKeys := by
      simp only [List.mem_cons, List.not_mem_nil, or_false] at known
      rcases known with rfl | rfl | rfl <;> decide
    exact ⟨_, listening _ pattern, rfl, (routingKey_matches known key).mpr last⟩

/-- A fanout exchange with one binding leads to its queue, once there is that binding. -/
theorem fanout_route (sound : t.Sound) {b : Binding} (named : b.exchange ≠ "")
    (fanout : declarations.exchanges b.exchange = some .fanout)
    (only : ∀ c ∈ declarations.bindings, c.exchange = b.exchange → c = b) (key : String) :
    t.route b.exchange key = if b ∈ t.bindings then [b.queue] else [] := by
  have single : ∀ c ∈ t.bindings, c.exchange = b.exchange → c = b :=
    fun c mem => only c (within.bindings c mem)
  cases there : t.exchanges b.exchange with
  | none =>
    rw [Topology.route, if_neg named, there, if_neg]
    intro bound
    have ends := (sound b bound).1
    rw [there] at ends
    cases ends
  | some type =>
    have is : some ExchangeType.fanout = some type := fanout.symm.trans (within.exchanges _ _ there)
    cases is
    rw [Topology.route_eq named there fun c mem own => congrArg Binding.queue (single c mem own)]
    congr 1
    refine propext ⟨?_, fun bound => ⟨b, bound, rfl, rfl⟩⟩
    rintro ⟨c, mem, own, _⟩
    exact single c mem own ▸ mem

/-- What expires in `notification.retry` returns once, or is lost while nothing is bound to take it. -/
theorem retry_expiresTo (sound : t.Sound) (declared : (t.queues retryQueue).isSome = true) (key : String) :
    t.expiresTo retryQueue key = if returning ∈ t.bindings then [retryResultQueue] else [] := by
  obtain ⟨dlx, declared⟩ := Option.isSome_iff_exists.mp declared
  have is : some retryExchange = dlx := Option.some.inj (within.queues _ _ declared)
  rw [Topology.expiresTo, declared, ← is]
  exact fanout_route within sound (b := returning) (by decide) (by decide) (by decide) key

end Routing

end NotificationEngine
