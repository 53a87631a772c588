import NotificationEngine.System

namespace NotificationEngine

/-- One delivery to `_on_new_event` of a message whose body was accepted: how each awaited call of
`create_notification` ends, and what it meets. -/
structure Delivery where
  fault : Nat → Fault
  env : Nat → Env

/-- The rest of a `create_notification`, its awaited calls being counted from `k`. -/
def CreateOp.finish (cfg : Config) (d : Delivery) : Nat → Nat → World → CreateOp → World × Op
  | 0, _, w, c => (w, .create c)
  | fuel + 1, k, w, c =>
    match c.pc with
    | .returned _ => (w, .create c)
    | .raised => (w, .create c)
    | _ => match c.run cfg (d.env k) w (d.fault k) with
      | (w, .create c) => finish cfg d fuel (k + 1) w c
      | (w, op) => (w, op)

/-- How many awaited calls `create_notification` has left at most. -/
def CreateOp.rank (c : CreateOp) : Nat :=
  match c.pc with
  | .setnx => 3 * (eventChannelMap c.payload.eventType).length + 2
  | .expire => 3 * (eventChannelMap c.payload.eventType).length + 1
  | .insert _ rest => 3 * rest.length + 3
  | .rollback rest => 3 * rest.length + 1
  | .saving _ .refresh rest => 3 * rest.length + 2
  | .saving _ (.enqueue _) rest => 3 * rest.length + 1
  | .returned _ => 0
  | .raised => 0

/-- A delivery is acked when `create_notification` has returned. -/
def Op.returns : Op → Bool
  | create c => match c.pc with
    | .returned _ => true
    | _ => false
  | _ => false

/-- One delivery, and whether it was acked. -/
def World.deliver (cfg : Config) (p : NotificationCreate) (w : World) (d : Delivery) : World × Bool :=
  let c : CreateOp := ⟨p, [], .setnx⟩
  ((c.finish cfg d c.rank 0 w).1, (c.finish cfg d c.rank 0 w).2.returns)

/-- The deliveries of a message, up to the one that is acked. -/
def World.ingest (cfg : Config) (p : NotificationCreate) : World → List Delivery → World × Bool
  | w, [] => (w, false)
  | w, d :: ds =>
    if (w.deliver cfg p d).2 then ((w.deliver cfg p d).1, true)
    else ingest cfg p (w.deliver cfg p d).1 ds

/-- The channel has a row, and its id was put into the sorted set. -/
def World.Stored (w : World) (p : NotificationCreate) (channel : NotificationChannel) : Prop :=
  ∃ id n, w.rows id = some n ∧ n.idempotencyKey = channelIdemKey p.idempotencyKey channel ∧
    id ∈ w.enqueued

/-- The strings of the channel's row fit their columns. -/
def NotificationCreate.Fits (p : NotificationCreate) (channel : NotificationChannel) : Prop :=
  (channelIdemKey p.idempotencyKey channel).length ≤ 255 ∧
    ((p.recipient.fieldFor channel).getD "").length ≤ 255

/-- Among the remaining channels, the first of which is inserted by call `k`, the delivery comes
as far as the enqueue of `target`. -/
def Delivery.Stores (d : Delivery) (w : World) (p : NotificationCreate) (target : NotificationChannel) :
    List NotificationChannel → Nat → Prop
  | [], _ => False
  | channel :: rest, k => p.Fits channel ∧ d.fault k = .none ∧ d.fault (k + 1) = .none ∧
    if w.hasKey (channelIdemKey p.idempotencyKey channel) then d.Stores w p target rest (k + 2)
    else channel = target ∧ (d.fault (k + 2)).effect = true ∨
      (∀ effect, d.fault (k + 2) ≠ .stopped effect) ∧ d.Stores w p target rest (k + 3)

/-- The delivery claims the idempotency key. -/
def Delivery.claims (d : Delivery) : Bool := (d.fault 0).effect

section Finish

variable {cfg : Config} {d : Delivery} {fuel k : Nat} {w : World} {c : CreateOp}

theorem finish_ended (ended : c.rank = 0) : c.finish cfg d fuel k w = (w, .create c) := by
  cases fuel with
  | zero => rfl
  | succ fuel =>
    obtain ⟨payload, created, pc⟩ := c
    cases pc with
    | returned isDuplicate => rfl
    | raised => rfl
    | saving id pc rest => cases pc <;> simp [CreateOp.rank] at ended
    | _ => simp [CreateOp.rank] at ended

theorem finish_run (live : 0 < c.rank) : c.finish cfg d (fuel + 1) k w =
    match c.run cfg (d.env k) w (d.fault k) with
    | (w, .create c) => c.finish cfg d fuel (k + 1) w
    | (w, op) => (w, op) := by
  obtain ⟨payload, created, pc⟩ := c
  cases pc with
  | returned isDuplicate => simp [CreateOp.rank] at live
  | raised => simp [CreateOp.rank] at live
  | _ => rfl

theorem finish_act (live : 0 < c.rank) (answered : d.fault k = .none) :
    c.finish cfg d (fuel + 1) k w =
      (c.act cfg (d.env k) w).2.finish cfg d fuel (k + 1) (c.act cfg (d.env k) w).1 := by
  rw [finish_run live, answered]
  rfl

/-- A failed call ends the delivery, unless it is an enqueue that raised. -/
theorem finish_failed (live : 0 < c.rank) (failed : d.fault k ≠ .none)
    (lands : c.afterRaise.pc = .raised ∨ ∃ effect, d.fault k = .stopped effect) :
    (c.finish cfg d (fuel + 1) k w).1 =
      if (d.fault k).effect then (c.act cfg (d.env k) w).1 else w := by
  rw [finish_run live]
  cases fault : d.fault k with
  | none => exact absurd fault failed
  | stopped effect => rfl
  | raised effect =>
    have landed : c.afterRaise.pc = .raised := by
      rcases lands with h | ⟨effect', h⟩
      · exact h
      · rw [fault] at h
        cases h
    simp only [CreateOp.run]
    rw [finish_ended (by simp [CreateOp.rank, landed])]
    rfl

end Finish

theorem nextChannel_rank (c : CreateOp) (rest : List NotificationChannel) :
    (c.nextChannel rest).rank = 3 * rest.length := by
  cases rest <;> simp [CreateOp.nextChannel, CreateOp.rank]; omega

theorem CreateOp.act_rank (cfg : Config) (env : Env) (w : World) {c : CreateOp} (live : 0 < c.rank) :
    (c.act cfg env w).2.rank < c.rank := by
  obtain ⟨payload, created, pc⟩ := c
  cases pc with
  | setnx =>
    simp only [CreateOp.act]
    split <;> simp [CreateOp.rank]
  | expire => exact (nextChannel_rank _ _).trans_lt (Nat.lt_succ_self _)
  | insert channel rest =>
    simp only [CreateOp.act]
    split <;> simp [CreateOp.rank]
  | rollback rest => exact (nextChannel_rank _ _).trans_lt (Nat.lt_succ_self _)
  | saving id pc rest =>
    cases pc with
    | refresh =>
      cases row : w.rows id <;>
        simp [CreateOp.act, row, Task.act, SavingPc.act, CreateOp.saved, CreateOp.rank]
    | enqueue score => exact (nextChannel_rank _ _).trans_lt (Nat.lt_succ_self _)
  | returned isDuplicate => simp [CreateOp.rank] at live
  | raised => simp [CreateOp.rank] at live

theorem CreateOp.afterRaise_rank {c : CreateOp} (live : 0 < c.rank) : c.afterRaise.rank < c.rank := by
  obtain ⟨payload, created, pc⟩ := c
  cases pc with
  | saving id pc rest =>
    cases pc with
    | refresh => exact live
    | enqueue score => exact (nextChannel_rank _ _).trans_lt (Nat.lt_succ_self _)
  | returned isDuplicate => simp [CreateOp.rank] at live
  | raised => simp [CreateOp.rank] at live
  | _ => exact live

theorem finish_ends (cfg : Config) (d : Delivery) {fuel : Nat} (k : Nat) (w : World) {c : CreateOp}
    (enough : c.rank ≤ fuel) : (c.finish cfg d fuel k w).2 = .done ∨
      ∃ c', (c.finish cfg d fuel k w).2 = .create c' ∧ c'.rank = 0 := by
  induction fuel generalizing k w c with
  | zero => exact .inr ⟨c, rfl, Nat.le_zero.mp enough⟩
  | succ fuel ih =>
    rcases Nat.eq_zero_or_pos c.rank with ended | live
    · rw [finish_ended ended]
      exact .inr ⟨c, rfl, ended⟩
    · rw [finish_run live]
      cases fault : d.fault k with
      | none =>
        have := CreateOp.act_rank cfg (d.env k) w live
        exact ih (k + 1) _ (by omega)
      | raised effect =>
        have := CreateOp.afterRaise_rank live
        exact ih (k + 1) _ (by omega)
      | stopped effect => exact .inl rfl

theorem CreateOp.act_idemKeys {cfg : Config} {env : Env} {w : World} {c : CreateOp} {key : String}
    (h : key ∈ w.idemKeys) : key ∈ (c.act cfg env w).1.idemKeys := by
  cases hc : c.pc with
  | setnx =>
    simp only [CreateOp.act, hc]
    split
    next => exact h
    next => exact List.mem_cons_of_mem _ h
  | insert channel rest =>
    simp only [CreateOp.act, hc]
    split <;> exact h
  | saving id pc rest =>
    simp only [CreateOp.act, hc]
    split <;> exact h
  | _ => simpa [CreateOp.act, hc] using h

theorem finish_idemKeys {cfg : Config} {d : Delivery} {fuel k : Nat} {w : World} {c : CreateOp}
    {key : String} (h : key ∈ w.idemKeys) : key ∈ (c.finish cfg d fuel k w).1.idemKeys := by
  induction fuel generalizing k w c with
  | zero => exact h
  | succ fuel ih =>
    have acted : key ∈ (c.act cfg (d.env k) w).1.idemKeys := CreateOp.act_idemKeys h
    rcases Nat.eq_zero_or_pos c.rank with ended | live
    · rw [finish_ended ended]
      exact h
    · rw [finish_run live]
      cases fault : d.fault k with
      | none => exact ih acted
      | raised effect => cases effect <;> exact ih (by assumption)
      | stopped effect => cases effect <;> assumption

end NotificationEngine
