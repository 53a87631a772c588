import NotificationEngine.CarriedOut
import NotificationEngine.RequestBody

namespace NotificationEngine

/-- `set_qos(prefetch_count=100)`. -/
def prefetchCount : Nat := 100

/-- A message that `_on_new_event` works on, and the operation that is its `create_notification`. -/
structure Handling where
  message : Nat
  request : Nat

/-- The service beside `notification.queue`. Messages go by the order in which they were published. -/
structure Intake where
  service : Transition.Logged Sys NotificationCreate
  published : List IncomingMessage
  waiting : List Nat
  unacked : List Handling
  acked : List Nat
  dropped : List Nat

def Intake.initial (start : Int) : Intake := ⟨⟨.initial, start, []⟩, [], [], [], [], []⟩

/-- An event is published, the broker delivers the head of the queue, the handler of an unacked message comes to
its end, or the service moves. A settlement that has not landed is one the broker never learns of. -/
inductive IntakeLabel
  | publish (m : IncomingMessage)
  | receive (landed : Bool)
  | finish (k : Nat) (landed : Bool)
  | moves (l : Label)

/-- What the broker makes of a settlement: a message that is not settled goes back to the queue. -/
def Settlement.learnt (landed : Bool) (s : Settlement) : Settlement := if landed then s else .requeue

def Intake.settle (a : Intake) (i : Nat) : Settlement → Intake
  | .ack => { a with acked := a.acked ++ [i] }
  | .drop => { a with dropped := a.dropped ++ [i] }
  | .requeue => { a with waiting := i :: a.waiting }

/-- How `_on_new_event` ends once its `create_notification` has: by the ack, or by the last `except` branch. If
the process stopped, the broker takes the message back. -/
def IncomingMessage.conclude (m : IncomingMessage) : Op → Option Settlement
  | .create c => match c.pc with
    | .returned _ => some .ack
    | .raised => some (m.settle .redisError)
    | _ => none
  | .done => some .requeue
  | _ => none

def Intake.step (cfg : Config) (json : String → Except JsonError JsonValue) (a : Intake) :
    IntakeLabel → Option Intake
  | .publish m =>
    some { a with published := a.published ++ [m], waiting := a.waiting ++ [a.published.length] }
  | .receive landed => match a.waiting with
    | [] => none
    | i :: rest =>
      if prefetchCount ≤ a.unacked.length then none
      else (a.published[i]?).bind fun m => match newEvent json m.body with
        | .error e => some ({ a with waiting := rest }.settle i ((m.settle e).learnt landed))
        | .ok p => ((Sys.requested cfg).next a.service (.createNotification p)).map fun service =>
            { a with
              service
              waiting := rest
              unacked := a.unacked ++ [⟨i, a.service.state.ops.length⟩] }
  | .finish k landed => (a.unacked[k]?).bind fun h =>
      (a.published[h.message]?).bind fun m => (a.service.state.ops[h.request]?).bind fun op =>
        (m.conclude op).map fun s =>
          { a with unacked := a.unacked.eraseIdx k }.settle h.message (s.learnt landed)
  | .moves l => ((Sys.requested cfg).next a.service l).map fun service => { a with service }

abbrev Intake.Reach (cfg : Config) (json : String → Except JsonError JsonValue)
    (ok : Intake → IntakeLabel → Prop) : Intake → Intake → Prop :=
  Transition.Reach (fun a l b => a.step cfg json l = some b) ok

/-- The places a published message can be in. -/
def Intake.places (a : Intake) : List Nat :=
  a.waiting ++ a.unacked.map (·.message) ++ a.acked ++ a.dropped

/-- Message `i` was accepted, and its event asked for. -/
def Intake.Accepts (json : String → Except JsonError JsonValue) (a : Intake) (i : Nat) : Prop :=
  ∃ m p, a.published[i]? = some m ∧ newEvent json m.body = .ok p ∧ p ∈ a.service.log

/-- Message `i` is no event, or has been delivered as often as it may be. -/
def Intake.GivesUp (json : String → Except JsonError JsonValue) (a : Intake) (i : Nat) : Prop :=
  ∃ m, a.published[i]? = some m ∧ (Unusable json m.body ∨ maxDeliveryAttempts ≤ m.deliveryCount.getD 0) ∧
    ∀ p, newEvent json m.body = .ok p → p ∈ a.service.log

/-- Each published message is in one place, and where it belongs. -/
structure Intake.Accounted (json : String → Except JsonError JsonValue) (a : Intake) : Prop where
  places : a.places.Perm (List.range a.published.length)
  prefetched : a.unacked.length ≤ prefetchCount
  unacked : ∀ h ∈ a.unacked, a.Accepts json h.message
  acked : ∀ i ∈ a.acked, a.Accepts json i
  dropped : ∀ i ∈ a.dropped, a.GivesUp json i

section Steps

variable {cfg : Config} {json : String → Except JsonError JsonValue} {a b : Intake} {i : Nat} {s : Settlement}

/-- The history of `a` is the beginning of that of `b`. -/
structure Intake.Before (a b : Intake) : Prop where
  published : ∀ (i : Nat) m, a.published[i]? = some m → b.published[i]? = some m
  log : ∀ p ∈ a.service.log, p ∈ b.service.log

theorem Intake.Accepts.mono (accepts : a.Accepts json i) (before : a.Before b) : b.Accepts json i := by
  obtain ⟨m, p, there, accepted, asked⟩ := accepts
  exact ⟨m, p, before.published i m there, accepted, before.log p asked⟩

theorem Intake.GivesUp.mono (givesUp : a.GivesUp json i) (before : a.Before b) : b.GivesUp json i := by
  obtain ⟨m, there, why, asked⟩ := givesUp
  exact ⟨m, before.published i m there, why, fun p accepted => before.log p (asked p accepted)⟩

theorem settle_places (a : Intake) (i : Nat) (s : Settlement) :
    (a.settle i s).places.Perm (i :: a.places) := by
  refine List.perm_iff_count.mpr fun x => ?_
  cases s <;>
    simp only [Intake.settle, Intake.places, List.count_append, List.count_cons, List.count_nil] <;> omega

theorem mem_acked_settle {k : Nat} (mem : k ∈ (a.settle i s).acked) : k ∈ a.acked ∨ s = .ack ∧ k = i := by
  cases s with
  | ack => simpa [Intake.settle] using mem
  | _ => exact Or.inl mem

theorem mem_dropped_settle {k : Nat} (mem : k ∈ (a.settle i s).dropped) : k ∈ a.dropped ∨ s = .drop ∧ k = i := by
  cases s with
  | drop => simpa [Intake.settle] using mem
  | _ => exact Or.inl mem

/-- A message taken out of its place is put where its settlement says. -/
theorem Intake.Accounted.settle (accounted : a.Accounted json) {a₀ : Intake} (service : a₀.service = a.service)
    (published : a₀.published = a.published) (acked : a₀.acked = a.acked) (dropped : a₀.dropped = a.dropped)
    (unacked : a₀.unacked.Sublist a.unacked) (places : (i :: a₀.places).Perm a.places)
    (acks : s = .ack → a.Accepts json i) (drops : s = .drop → a.GivesUp json i) :
    (a₀.settle i s).Accounted json := by
  have same : (a₀.settle i s).service = a.service ∧ (a₀.settle i s).published = a.published ∧
      (a₀.settle i s).unacked = a₀.unacked := by
    cases s <;> exact ⟨service, published, rfl⟩
  have before : a.Before (a₀.settle i s) :=
    ⟨fun i m there => by rw [same.2.1, there], fun p mem => by rw [same.1]; exact mem⟩
  refine ⟨?_, ?_, fun h mem => ?_, fun k mem => ?_, fun k mem => ?_⟩
  · rw [same.2.1]
    exact ((settle_places a₀ i s).trans places).trans accounted.places
  · rw [same.2.2]
    exact unacked.length_le.trans accounted.prefetched
  · rw [same.2.2] at mem
    exact (accounted.unacked h (unacked.subset mem)).mono before
  · rcases mem_acked_settle mem with old | ⟨ack, rfl⟩
    · exact (accounted.acked k (acked ▸ old)).mono before
    · exact (acks ack).mono before
  · rcases mem_dropped_settle mem with old | ⟨drop, rfl⟩
    · exact (accounted.dropped k (dropped ▸ old)).mono before
    · exact (drops drop).mono before

theorem learnt_eq {landed : Bool} {r : Settlement} (h : s.learnt landed = r) (kept : r ≠ .requeue) :
    s = r := by
  unfold Settlement.learnt at h
  split at h
  next => exact h
  next => exact absurd h.symm kept

theorem IncomingMessage.settle_ne_ack (m : IncomingMessage) (e : PyException) : m.settle e ≠ .ack := by
  unfold IncomingMessage.settle
  split
  next => simp
  next => simp
  next => split <;> simp

theorem IncomingMessage.settle_drop {m : IncomingMessage} {e : PyException} (drop : m.settle e = .drop) :
    e.isDropped = true ∨ maxDeliveryAttempts ≤ m.deliveryCount.getD 0 := by
  unfold IncomingMessage.settle at drop
  split at drop
  next => exact Or.inl rfl
  next => exact Or.inl rfl
  next =>
    split at drop
    next spent => exact Or.inr spent
    next => cases drop

/-- A handler acks what was created or known, and gives up only by the count of deliveries. -/
theorem IncomingMessage.conclude_cases {m : IncomingMessage} {op : Op} (h : m.conclude op = some s) :
    s ≠ .drop ∨ maxDeliveryAttempts ≤ m.deliveryCount.getD 0 := by
  unfold IncomingMessage.conclude at h
  split at h
  next =>
    split at h
    next =>
      cases h
      exact Or.inl (by simp)
    next =>
      cases h
      by_cases drop : m.settle .redisError = .drop
      · rcases IncomingMessage.settle_drop drop with dropped | spent
        · cases dropped
        · exact Or.inr spent
      · exact Or.inl drop
    next => cases h
  next =>
    cases h
    exact Or.inl (by simp)
  next => cases h

/-- A step that moves no message but takes the history on. -/
theorem Intake.Accounted.mono (accounted : a.Accounted json) (before : a.Before b)
    (places : b.places.Perm (List.range b.published.length)) (prefetched : b.unacked.length ≤ prefetchCount)
    (unacked : ∀ h ∈ b.unacked, h ∈ a.unacked ∨ b.Accepts json h.message) (acked : b.acked = a.acked)
    (dropped : b.dropped = a.dropped) : b.Accounted json := by
  refine ⟨places, prefetched, fun h mem => ?_, fun i mem => ?_, fun i mem => ?_⟩
  · rcases unacked h mem with old | new
    · exact (accounted.unacked h old).mono before
    · exact new
  · exact (accounted.acked i (acked ▸ mem)).mono before
  · exact (accounted.dropped i (dropped ▸ mem)).mono before

theorem Intake.Accounted.step (accounted : a.Accounted json) {l : IntakeLabel} (h : a.step cfg json l = some b) :
    b.Accounted json := by
  cases l with
  | publish m =>
    cases Option.some.inj h
    refine accounted.mono ⟨fun i m' there => ?_, fun p mem => mem⟩ ?_ accounted.prefetched
      (fun h mem => Or.inl mem) rfl rfl
    · exact (List.getElem?_append_left (List.getElem?_eq_some_iff.mp there).1).trans there
    · have places := List.perm_iff_count.mp accounted.places
      refine List.perm_iff_count.mpr fun x => ?_
      have here := places x
      simp only [Intake.places, List.length_append, List.length_singleton, List.range_succ, List.count_append]
        at here ⊢
      omega
  | moves l =>
    obtain ⟨service, next, rfl⟩ := Option.map_eq_some_iff.mp h
    obtain ⟨_, _, log⟩ := Transition.Recorder.next_eq_some next
    exact accounted.mono ⟨fun _ _ there => there, fun p mem => log ▸ List.mem_append_left _ mem⟩
      accounted.places accounted.prefetched (fun h mem => Or.inl mem) rfl rfl
  | receive landed =>
    simp only [Intake.step] at h
    split at h
    next => cases h
    next i rest waiting =>
      have taken : (i :: ({ a with waiting := rest } : Intake).places).Perm a.places := by
        simp [Intake.places, waiting]
      split at h
      next => cases h
      next room =>
        obtain ⟨m, there, h⟩ := Option.bind_eq_some_iff.mp h
        split at h
        next e refused =>
          cases Option.some.inj h
          refine accounted.settle rfl rfl rfl rfl (List.Sublist.refl _) taken (fun ack => ?_) fun drop => ?_
          · exact absurd (learnt_eq ack (by simp)) (m.settle_ne_ack e)
          · refine ⟨m, there, ?_, fun p accepted => ?_⟩
            · rcases IncomingMessage.settle_drop (learnt_eq drop (by simp)) with dropped | spent
              · refine Or.inl ((newEvent_drops_iff json m.body).mp ?_)
                rw [refused]
                exact dropped
              · exact Or.inr spent
            · cases refused.symm.trans accepted
        next p accepted =>
          obtain ⟨service, next, rfl⟩ := Option.map_eq_some_iff.mp h
          obtain ⟨_, _, log⟩ := Transition.Recorder.next_eq_some next
          have asked : p ∈ service.log := log ▸ List.mem_append_right _ (List.mem_singleton_self _)
          refine accounted.mono ⟨fun _ _ there => there, fun p mem => log ▸ List.mem_append_left _ mem⟩ ?_ ?_
            (fun h mem => ?_) rfl rfl
          · refine List.Perm.trans (List.perm_iff_count.mpr fun x => ?_) (taken.trans accounted.places)
            simp only [Intake.places, List.map_append, List.map_cons, List.map_nil, List.count_append,
              List.count_cons, List.count_nil]
            omega
          · simp only [List.length_append, List.length_singleton]
            omega
          · rcases List.mem_append.mp mem with old | new
            · exact Or.inl old
            · cases List.mem_singleton.mp new
              exact Or.inr ⟨m, p, there, accepted, asked⟩
  | finish k landed =>
    obtain ⟨held, hk, h⟩ := Option.bind_eq_some_iff.mp h
    obtain ⟨m, there, h⟩ := Option.bind_eq_some_iff.mp h
    obtain ⟨op, hop, h⟩ := Option.bind_eq_some_iff.mp h
    obtain ⟨s, ended, rfl⟩ := Option.map_eq_some_iff.mp h
    obtain ⟨within, is⟩ := List.getElem?_eq_some_iff.mp hk
    have accepts := accounted.unacked held (List.mem_of_getElem? hk)
    refine accounted.settle rfl rfl rfl rfl (List.eraseIdx_sublist _ _) ?_ (fun _ => accepts) fun drop => ?_
    · have erased :
          (held.message :: (a.unacked.eraseIdx k).map (·.message)).Perm (a.unacked.map (·.message)) := by
        have perm := (List.getElem_cons_eraseIdx_perm within).map (·.message)
        rwa [is, List.map_cons] at perm
      refine List.perm_iff_count.mpr fun x => ?_
      have counted := List.perm_iff_count.mp erased x
      simp only [Intake.places, List.count_append, List.count_cons] at counted ⊢
      omega
    · obtain ⟨m', p, there', accepted, asked⟩ := accepts
      cases there.symm.trans there'
      rcases IncomingMessage.conclude_cases ended with kept | spent
      · exact absurd (learnt_eq drop (by simp)) kept
      · refine ⟨m, there, Or.inr spent, fun p' accepted' => ?_⟩
        cases accepted.symm.trans accepted'
        exact asked

end Steps

section Runs

variable {cfg : Config} {json : String → Except JsonError JsonValue} {start : Int} {a : Intake}

/-- What the service does of its own is smooth. -/
def Intake.smooth (cfg : Config) (a : Intake) : IntakeLabel → Bool
  | .moves l => a.service.state.smooth cfg l
  | _ => true

end Runs

end NotificationEngine
