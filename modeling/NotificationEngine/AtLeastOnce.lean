import NotificationEngine.ChannelLoop

namespace NotificationEngine

section Deliver

variable {cfg : Config} {p : NotificationCreate} {w : World} {d : Delivery}

/-- The delivery gets from its claim to the enqueue of `target`. -/
def Delivery.Gets (d : Delivery) (w : World) (p : NotificationCreate) (target : NotificationChannel) :
    Prop :=
  d.fault 0 = .none ∧ d.fault 1 = .none ∧ d.Stores w p target (eventChannelMap p.eventType) 2

theorem deliver_eq (cfg : Config) (p : NotificationCreate) (w : World) (d : Delivery) :
    w.deliver cfg p d =
      let r := match (⟨p, [], .setnx⟩ : CreateOp).run cfg (d.env 0) w (d.fault 0) with
        | (w, .create c) => c.finish cfg d (3 * (eventChannelMap p.eventType).length + 1) 1 w
        | (w, op) => (w, op)
      (r.1, r.2.returns) := rfl

theorem deliver_duplicate (claimed : p.redisKey ∈ w.idemKeys) : (w.deliver cfg p d).1 = w := by
  have acted : (⟨p, [], .setnx⟩ : CreateOp).act cfg (d.env 0) w = (w, ⟨p, [], .returned true⟩) := by
    simp [CreateOp.act, claimed]
  rw [deliver_eq]
  cases d.fault 0 with
  | none =>
    simp only [CreateOp.run, acted]
    rw [finish_ended rfl]
  | raised effect =>
    simp only [CreateOp.run, acted, ite_self]
    rw [finish_ended rfl]
  | stopped effect => simp only [CreateOp.run, acted, ite_self]

theorem deliver_unclaimed (unclaimed : d.claims = false) : w.deliver cfg p d = (w, false) := by
  rw [deliver_eq]
  unfold Delivery.claims at unclaimed
  cases fault : d.fault 0 with
  | none => rw [fault] at unclaimed; cases unclaimed
  | raised effect =>
    obtain rfl : effect = false := by rw [fault] at unclaimed; exact unclaimed
    simp only [CreateOp.run]
    rw [finish_ended rfl]
    rfl
  | stopped effect =>
    obtain rfl : effect = false := by rw [fault] at unclaimed; exact unclaimed
    rfl

theorem deliver_claimed (cfg : Config) (sound : w.Sound) (free : p.redisKey ∉ w.idemKeys)
    (claims : d.claims = true) :
    p.redisKey ∈ (w.deliver cfg p d).1.idemKeys ∧
      ∀ target, (w.deliver cfg p d).1.Stored p target ↔ w.Stored p target ∨ d.Gets w p target := by
  let w₁ : World := { w with idemKeys := p.redisKey :: w.idemKeys }
  have sound₁ : w₁.Sound := ⟨sound.fresh, sound.enqueued⟩
  have mine : p.redisKey ∈ w₁.idemKeys := List.mem_cons_self
  have acted : (⟨p, [], .setnx⟩ : CreateOp).act cfg (d.env 0) w = (w₁, ⟨p, [], .expire⟩) := by
    simp [CreateOp.act, free, w₁]
  have lost (h : d.fault 0 ≠ .none) (target) : w₁.Stored p target ↔
      w.Stored p target ∨ d.Gets w p target := by
    simp only [Delivery.Gets, h, false_and, or_false]
    exact Iff.rfl
  rw [deliver_eq]
  unfold Delivery.claims at claims
  cases fault : d.fault 0 with
  | stopped effect =>
    obtain rfl : effect = true := by rw [fault] at claims; exact claims
    simp only [CreateOp.run, acted, if_true]
    exact ⟨mine, lost (by simp [fault])⟩
  | raised effect =>
    obtain rfl : effect = true := by rw [fault] at claims; exact claims
    simp only [CreateOp.run, acted, if_true]
    rw [finish_ended rfl]
    exact ⟨mine, lost (by simp [fault])⟩
  | none =>
    simp only [CreateOp.run, acted]
    refine ⟨finish_idemKeys mine, fun target => ?_⟩
    have rank : 0 < (⟨p, [], .expire⟩ : CreateOp).rank := Nat.succ_pos _
    have next : (⟨p, [], .expire⟩ : CreateOp).act cfg (d.env 1) w₁ =
        (w₁, (⟨p, [], .expire⟩ : CreateOp).nextChannel (eventChannelMap p.eventType)) := rfl
    by_cases timed : d.fault 1 = .none
    · have loop := loop_stores cfg d p target _ (eventChannelMap_nodup p.eventType)
      have same : ∀ channel ∈ eventChannelMap p.eventType,
          w₁.hasKey (channelIdemKey p.idempotencyKey channel) =
            w.hasKey (channelIdemKey p.idempotencyKey channel) := fun _ _ => rfl
      rw [finish_act rank timed, next, loop _ _ _ _ sound₁ rfl le_rfl, Delivery.stores_congr same]
      simp only [Delivery.Gets, fault, timed, true_and]
      exact Iff.rfl
    · rw [finish_failed rank timed (.inl rfl), next, ite_self]
      simp only [Delivery.Gets, timed, false_and, and_false, or_false]
      exact Iff.rfl

end Deliver

theorem ingest_duplicate {cfg : Config} {p : NotificationCreate} {w : World}
    (claimed : p.redisKey ∈ w.idemKeys) (ds : List Delivery) : (w.ingest cfg p ds).1 = w := by
  induction ds with
  | nil => rfl
  | cons d ds ih =>
    rw [World.ingest, deliver_duplicate claimed]
    split
    next => rfl
    next => exact ih

theorem ingest_stored {cfg : Config} {p : NotificationCreate} {w : World} (sound : w.Sound)
    (ds : List Delivery) (target : NotificationChannel) :
    (w.ingest cfg p ds).1.Stored p target ↔ w.Stored p target ∨
      p.redisKey ∉ w.idemKeys ∧ ∃ d, ds.find? Delivery.claims = some d ∧ d.Gets w p target := by
  -- Before the claim no delivery stores anything, after it every delivery is a duplicate.
  by_cases free : p.redisKey ∉ w.idemKeys
  case neg =>
    rw [ingest_duplicate (not_not.mp free)]
    simp only [free, false_and, or_false]
  simp only [free, not_false_eq_true, true_and]
  induction ds with
  | nil => simp [World.ingest]
  | cons d ds ih =>
    cases claims : d.claims with
    | false =>
      rw [World.ingest, deliver_unclaimed claims, List.find?_cons_of_neg (by rw [claims]; exact nofun)]
      exact ih
    | true =>
      obtain ⟨mine, stored⟩ := deliver_claimed cfg sound free claims
      have after : (w.ingest cfg p (d :: ds)).1 = (w.deliver cfg p d).1 := by
        rw [World.ingest]
        split
        next => rfl
        next => exact ingest_duplicate mine ds
      rw [after, stored target, List.find?_cons_of_pos claims]
      simp only [Option.some.injEq, exists_eq_left']

/-- A delivery that does not claim a free key is not the last one. -/
theorem ingest_claims {cfg : Config} {p : NotificationCreate} {w : World} {ds : List Delivery}
    (acked : (w.ingest cfg p ds).2 = true) : ∃ d, ds.find? Delivery.claims = some d := by
  induction ds with
  | nil => cases acked
  | cons d ds ih =>
    cases claims : d.claims with
    | true => exact ⟨d, List.find?_cons_of_pos claims⟩
    | false =>
      rw [World.ingest, deliver_unclaimed claims] at acked
      rw [List.find?_cons_of_neg (by rw [claims]; exact nofun)]
      exact ih acked

/-- When a delivery is finally acked, every channel is stored exactly if it was stored before, or the
key was free and the delivery that claimed it came as far as the channel's enqueue. -/
theorem ingested_iff {cfg : Config} {s : Sys} (reached : Sys.Reach cfg (fun _ _ => True) .initial s)
    (p : NotificationCreate) (ds : List Delivery)
    (acked : (s.world.ingest cfg p ds).2 = true) :
    (∀ channel ∈ eventChannelMap p.eventType, (s.world.ingest cfg p ds).1.Stored p channel) ↔
      ∀ channel ∈ eventChannelMap p.eventType, s.world.Stored p channel ∨
        p.redisKey ∉ s.world.idemKeys ∧
          ∀ d ∈ ds.find? Delivery.claims, d.Gets s.world p channel := by
  have sound : s.world.Sound := reach_sound reached
  obtain ⟨d, first⟩ := ingest_claims acked
  refine forall₂_congr fun channel _ => ?_
  rw [ingest_stored sound, first]
  simp

/-- Every call is answered. -/
def undisturbed : Delivery := ⟨fun _ => .none, fun _ => accepting true⟩

theorem ingested_undisturbed : Sys.Reach defaultConfig (fun _ _ => True) .initial Sys.initial ∧
    (Sys.initial.world.ingest defaultConfig otpRequest [undisturbed]).2 = true ∧
    ∀ channel ∈ eventChannelMap .paymentOtpRequested,
      (Sys.initial.world.ingest defaultConfig otpRequest [undisturbed]).1.Stored otpRequest channel := by
  have acked : (Sys.initial.world.ingest defaultConfig otpRequest [undisturbed]).2 = true := by decide
  refine ⟨.start, acked, (ingested_iff .start otpRequest [undisturbed] acked).mpr ?_⟩
  intro channel mem
  obtain rfl : channel = .sms := List.mem_singleton.mp mem
  refine .inr ⟨List.not_mem_nil, fun d first => ?_⟩
  obtain rfl : undisturbed = d := Option.some.inj first
  exact ⟨rfl, rfl, ⟨by decide, by decide⟩, rfl, rfl, .inl ⟨rfl, rfl⟩⟩

/-- The call of `expire` raises after the key was claimed. -/
def expireFails : Delivery := ⟨fun k => if k = 1 then .raised false else .none, fun _ => accepting true⟩

/-- The redelivered message is taken for a duplicate and acked, and there is no row. -/
theorem acked_without_row :
    (World.initial.ingest defaultConfig otpRequest [expireFails, undisturbed]).2 = true ∧
    ¬∀ channel ∈ eventChannelMap otpRequest.eventType,
      (World.initial.ingest defaultConfig otpRequest [expireFails, undisturbed]).1.Stored
        otpRequest channel := by
  refine ⟨by decide, fun stored => ?_⟩
  obtain ⟨id, n, row, _⟩ := stored .sms (by decide)
  have empty : (none : Option Notification) = some n := row
  cases empty

end NotificationEngine
