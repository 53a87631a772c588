import Mathlib.Data.List.Nodup
import NotificationEngine.EnqueuedRows
import NotificationEngine.Ingestion

namespace NotificationEngine

/-- What every reachable table and history of enqueues have in common. -/
structure World.Sound (w : World) : Prop where
  fresh : w.Fresh
  enqueued : w.EnqueuedRows

theorem reach_sound {cfg : Config} {ok : Sys → Label → Prop} {s : Sys}
    (h : Sys.Reach cfg ok .initial s) : s.world.Sound :=
  ⟨reach_fresh (fun _ _ => rfl) h, reach_enqueuedRows h⟩

theorem World.Sound.unknown {w : World} (sound : w.Sound) : w.nextId ∉ w.enqueued := by
  intro mem
  have row := sound.enqueued _ mem
  rw [sound.fresh _ le_rfl] at row
  cases row

theorem World.Sound.insert {w : World} (sound : w.Sound) (n : Notification) : (w.insert n).Sound :=
  ⟨sound.fresh.insert n, sound.enqueued.insert n⟩

theorem World.Sound.skipId {w : World} (sound : w.Sound) : w.skipId.Sound :=
  ⟨sound.fresh.skipId, sound.enqueued⟩

theorem World.hasKey_iff {w : World} (fresh : w.Fresh) (key : String) :
    w.hasKey key = true ↔ ∃ i n, w.rows i = some n ∧ n.idempotencyKey = key := by
  unfold World.hasKey
  rw [List.any_eq_true]
  constructor
  · rintro ⟨i, _, h⟩
    cases row : w.rows i with
    | none => simp [row] at h
    | some n => exact ⟨i, n, row, by simpa [row] using h⟩
  · rintro ⟨i, n, row, key⟩
    refine ⟨i, List.mem_range.mpr ?_, by simpa [row] using key⟩
    by_contra beyond
    rw [fresh i (Nat.le_of_not_lt beyond)] at row
    cases row

theorem World.rows_insert (w : World) (n : Notification) : (w.insert n).rows w.nextId = some n := by
  simp [World.insert]

theorem stored_insert {w : World} {p : NotificationCreate} {channel : NotificationChannel}
    (sound : w.Sound) (n : Notification) : (w.insert n).Stored p channel ↔ w.Stored p channel := by
  constructor
  · rintro ⟨id, m, row, key, mem⟩
    have known : id ≠ w.nextId := fun h => sound.unknown (h ▸ mem)
    exact ⟨id, m, by simpa [World.insert, known] using row, key, mem⟩
  · rintro ⟨id, m, row, key, mem⟩
    have known : id ≠ w.nextId := fun h => sound.unknown (h ▸ mem)
    exact ⟨id, m, by simpa [World.insert, known] using row, key, mem⟩

theorem hasKey_insert {w : World} (sound : w.Sound) (n : Notification) (key : String) :
    (w.insert n).hasKey key = true ↔ w.hasKey key = true ∨ n.idempotencyKey = key := by
  rw [World.hasKey_iff (sound.insert n).fresh, World.hasKey_iff sound.fresh]
  constructor
  · rintro ⟨i, m, row, same⟩
    by_cases h : i = w.nextId
    · obtain rfl : n = m := by simpa [World.insert, h] using row
      exact .inr same
    · exact .inl ⟨i, m, by simpa [World.insert, h] using row, same⟩
  · rintro (⟨i, m, row, same⟩ | same)
    · have known : i ≠ w.nextId := by
        rintro rfl
        rw [sound.fresh _ le_rfl] at row
        cases row
      exact ⟨i, m, by simpa [World.insert, known] using row, same⟩
    · exact ⟨w.nextId, n, by simp [World.insert], same⟩

theorem hasKey_skipId {w : World} (sound : w.Sound) (key : String) :
    w.skipId.hasKey key = w.hasKey key := by
  rw [Bool.eq_iff_iff, World.hasKey_iff sound.skipId.fresh, World.hasKey_iff sound.fresh]
  rfl

theorem label_last (channel : NotificationChannel) : channel.label.toList.getLast? = match channel with
    | .email => some 'l'
    | .sms => some 's'
    | .push => some 'h' := by
  cases channel <;> decide

/-- The suffix of a channel can be read off its last letter, so two keys with suffixes are equal only
if key and channel are, also where a key itself ends in the name of a channel. -/
theorem channelIdemKey_eq_iff {key key' : String} {channel channel' : NotificationChannel} :
    channelIdemKey key channel = channelIdemKey key' channel' ↔ key = key' ∧ channel = channel' := by
  constructor
  · intro h
    have last (k : String) (c : NotificationChannel) :
        (channelIdemKey k c).toList.getLast? = c.label.toList.getLast? := by
      unfold channelIdemKey
      rw [String.toList_append, List.getLast?_append]
      cases c <;> rfl
    have letters : channel.label.toList.getLast? = channel'.label.toList.getLast? := by
      rw [← last key channel, ← last key' channel', h]
    obtain rfl : channel = channel' := by
      rw [label_last, label_last] at letters
      cases channel <;> cases channel' <;> first | rfl | exact absurd letters (by decide)
    unfold channelIdemKey at h
    exact ⟨String.append_left_inj _ |>.mp (String.append_left_inj _ |>.mp h), rfl⟩
  · rintro ⟨rfl, rfl⟩
    rfl

theorem channelIdemKey_inj {key : String} {channel channel' : NotificationChannel} :
    channelIdemKey key channel = channelIdemKey key channel' ↔ channel = channel' := by
  simp only [channelIdemKey_eq_iff, true_and]

theorem eventChannelMap_nodup (event : EventType) : (eventChannelMap event).Nodup := by
  cases event <;> decide

/-- The calls of a delivery meet what the start says about the keys of the channels to come. -/
theorem Delivery.stores_congr {d : Delivery} {w w' : World} {p : NotificationCreate}
    {target : NotificationChannel} {channels : List NotificationChannel} {k : Nat}
    (same : ∀ channel ∈ channels, w'.hasKey (channelIdemKey p.idempotencyKey channel) =
      w.hasKey (channelIdemKey p.idempotencyKey channel)) :
    d.Stores w' p target channels k ↔ d.Stores w p target channels k := by
  induction channels generalizing k with
  | nil => exact Iff.rfl
  | cons channel rest ih =>
    have later {k : Nat} := ih (k := k) fun channel' mem => same channel' (List.mem_cons_of_mem _ mem)
    simp only [Delivery.Stores, same channel List.mem_cons_self, later]

theorem hasKey_insert_other {w : World} {n : Notification} {key : String}
    {channel channel' : NotificationChannel} (sound : w.Sound)
    (own : n.idempotencyKey = channelIdemKey key channel) (other : channel' ≠ channel) :
    (w.insert n).hasKey (channelIdemKey key channel') = w.hasKey (channelIdemKey key channel') := by
  have different : n.idempotencyKey ≠ channelIdemKey key channel' :=
    fun h => other (channelIdemKey_inj.mp (own.symm.trans h)).symm
  rw [Bool.eq_iff_iff, hasKey_insert sound]
  simp [different]

theorem apply_refresh (cfg : Config) (env : Env) (w : World) (id : Nat) :
    w.apply id ((Task.saving .refresh).act cfg env id w.service (w.rows id)) = w := by
  have rows : (fun i => if i = id then w.rows id else w.rows i) = w.rows := by
    funext i
    split
    next h => rw [h]
    next => rfl
  simp [World.apply, Task.act, SavingPc.act, rows]

def World.enqueue (w : World) (id : Nat) (score : Int) : World :=
  { w with queue := w.queue.addNX id score, enqueued := w.enqueued ++ [id] }

theorem apply_enqueue (cfg : Config) (env : Env) (w : World) (id : Nat) (score : Int) :
    w.apply id ((Task.saving (.enqueue score)).act cfg env id w.service (w.rows id)) =
      w.enqueue id score := by
  have rows : (fun i => if i = id then w.rows id else w.rows i) = w.rows := by
    funext i
    split
    next h => rw [h]
    next => rfl
  simp [World.apply, World.enqueue, Task.act, SavingPc.act, rows]

theorem World.Sound.enqueue {w : World} {id : Nat} {score : Int} (sound : w.Sound)
    (row : (w.rows id).isSome = true) : (w.enqueue id score).Sound := by
  refine ⟨sound.fresh, fun i hi => ?_⟩
  rcases List.mem_append.mp hi with old | new
  · exact sound.enqueued i old
  · rw [List.mem_singleton.mp new]
    exact row

/-- A row that is inserted and enqueued. -/
theorem World.Sound.created {w : World} {n : Notification} {score : Int} (sound : w.Sound) :
    ((w.insert n).enqueue w.nextId score).Sound :=
  (sound.insert n).enqueue (by rw [World.rows_insert]; rfl)

theorem stored_enqueue {w : World} {p : NotificationCreate} {target : NotificationChannel} {id : Nat}
    {score : Int} {n : Notification} (row : w.rows id = some n) :
    (w.enqueue id score).Stored p target ↔
      w.Stored p target ∨ n.idempotencyKey = channelIdemKey p.idempotencyKey target := by
  constructor
  · rintro ⟨i, m, there, key, mem⟩
    rcases List.mem_append.mp mem with old | new
    · exact .inl ⟨i, m, there, key, old⟩
    · obtain rfl : i = id := List.mem_singleton.mp new
      cases row.symm.trans there
      exact .inr key
  · rintro (⟨i, m, there, key, mem⟩ | key)
    · exact ⟨i, m, there, key, List.mem_append_left _ mem⟩
    · exact ⟨id, n, row, key, List.mem_append_right _ (List.mem_singleton_self id)⟩

section Channels

variable {cfg : Config} {d : Delivery} {p : NotificationCreate} {target : NotificationChannel}

theorem insert_act (cfg : Config) (p : NotificationCreate) (target : NotificationChannel) (env : Env)
    {w : World} {c : CreateOp} {channel : NotificationChannel}
    {rest : List NotificationChannel} (sound : w.Sound) (pc : c.pc = .insert channel rest) :
    (c.act cfg env w).1.Sound ∧ ((c.act cfg env w).1.Stored p target ↔ w.Stored p target) := by
  simp only [CreateOp.act, pc]
  split
  next => exact ⟨sound.insert _, stored_insert sound _⟩
  next => exact ⟨sound.skipId, Iff.rfl⟩
  next => exact ⟨sound.skipId, Iff.rfl⟩

theorem insertResult_cases {c : CreateOp} (w : World) (env : Env) (channel : NotificationChannel)
    (payload : c.payload = p) :
    w.insertResult (c.newRow env channel) = .tooLong ∧ ¬p.Fits channel ∨
      w.insertResult (c.newRow env channel) = .uniqueViolation ∧ p.Fits channel ∧
        w.hasKey (channelIdemKey p.idempotencyKey channel) = true ∨
      w.insertResult (c.newRow env channel) = .inserted ∧ p.Fits channel ∧
        w.hasKey (channelIdemKey p.idempotencyKey channel) = false := by
  subst payload
  have strings : (255 < (c.newRow env channel).idempotencyKey.length ∨
      255 < (c.newRow env channel).recipient.length) ↔ ¬c.payload.Fits channel := by
    rw [NotificationCreate.Fits, not_and_or, Nat.not_le, Nat.not_le]
    rfl
  have key : (c.newRow env channel).idempotencyKey =
      channelIdemKey c.payload.idempotencyKey channel := rfl
  unfold World.insertResult
  split
  next long => exact .inl ⟨rfl, strings.mp long⟩
  next short =>
    have fits : c.payload.Fits channel := by
      by_contra unfit
      exact short (strings.mpr unfit)
    rw [key]
    split
    next taken => exact .inr (.inl ⟨rfl, fits, taken⟩)
    next free => exact .inr (.inr ⟨rfl, fits, by simpa using free⟩)

theorem saving_rank {c : CreateOp} {id : Nat} {pc : SavingPc} {rest : List NotificationChannel}
    (h : c.pc = .saving id pc rest) : 0 < c.rank := by
  cases pc <;> simp [CreateOp.rank, h]

theorem act_refresh {id : Nat} {env : Env} {w : World} {c : CreateOp} {n : Notification}
    {rest : List NotificationChannel} (pc : c.pc = .saving id .refresh rest) (row : w.rows id = some n) :
    c.act cfg env w =
      (w, { c with pc := .saving id (.enqueue (queueScore n.priority env.now)) rest }) := by
  have world : (c.act cfg env w).1 = w := by
    simp only [CreateOp.act, pc]
    split <;> exact apply_refresh cfg env w id
  have next : (c.act cfg env w).2 =
      { c with pc := .saving id (.enqueue (queueScore n.priority env.now)) rest } := by
    simp [CreateOp.act, pc, row, Task.act, SavingPc.act, CreateOp.saved]
  exact Prod.ext world next

theorem act_enqueue {id : Nat} {score : Int} {env : Env} {w : World} {c : CreateOp}
    {rest : List NotificationChannel} (pc : c.pc = .saving id (.enqueue score) rest) :
    c.act cfg env w =
      (w.enqueue id score, { c with created := c.created ++ [id] }.nextChannel rest) := by
  simp only [CreateOp.act, pc, apply_enqueue]
  rfl

theorem finish_enqueue_stopped {fuel k id : Nat} {score : Int} {w : World} {c : CreateOp}
    {rest : List NotificationChannel} {effect : Bool} (pc : c.pc = .saving id (.enqueue score) rest)
    (fault : d.fault k = .stopped effect) :
    (c.finish cfg d (fuel + 1) k w).1 = if effect then w.enqueue id score else w := by
  rw [finish_failed (saving_rank pc) (by rw [fault]; exact nofun) (.inr ⟨effect, fault⟩), fault]
  rw [act_enqueue pc]
  rfl

/-- `enqueue` returns whatever happened to its call, and the next channel is up. -/
theorem finish_enqueue (cfg : Config) (fuel : Nat) {k id : Nat} {score : Int} {w : World} {c : CreateOp}
    {rest : List NotificationChannel} (pc : c.pc = .saving id (.enqueue score) rest)
    (lives : ∀ effect, d.fault k ≠ .stopped effect) :
    ∃ c' : CreateOp, c'.payload = c.payload ∧ c.finish cfg d (fuel + 1) k w =
      (c'.nextChannel rest).finish cfg d fuel (k + 1)
        (if (d.fault k).effect then w.enqueue id score else w) := by
  refine ⟨{ c with created := c.created ++ [id] }, rfl, ?_⟩
  have acted : c.act cfg (d.env k) w =
      (w.enqueue id score, { c with created := c.created ++ [id] }.nextChannel rest) := act_enqueue pc
  rw [finish_run (saving_rank pc)]
  cases fault : d.fault k with
  | stopped effect => exact absurd fault (lives effect)
  | none =>
    simp only [CreateOp.run, acted]
    rfl
  | raised effect =>
    have landed : c.afterRaise = { c with created := c.created ++ [id] }.nextChannel rest := by
      simp only [CreateOp.afterRaise, pc, CreateOp.saved]
    simp only [CreateOp.run, acted, landed]
    rfl

theorem finish_refresh (cfg : Config) (d : Delivery) (fuel k : Nat) {id : Nat} {w : World} {c : CreateOp}
    {n : Notification} {rest : List NotificationChannel} (pc : c.pc = .saving id .refresh rest)
    (row : w.rows id = some n) :
    (d.fault k = .none → ∃ score, c.finish cfg d (fuel + 1) k w =
      { c with pc := .saving id (.enqueue score) rest }.finish cfg d fuel (k + 1) w) ∧
    (d.fault k ≠ .none → (c.finish cfg d (fuel + 1) k w).1 = w) := by
  constructor
  · intro answered
    refine ⟨queueScore n.priority (d.env k).now, ?_⟩
    rw [finish_act (saving_rank pc) answered, act_refresh pc row]
  · intro failed
    have lands : c.afterRaise.pc = .raised := by simp only [CreateOp.afterRaise, pc]
    rw [finish_failed (saving_rank pc) failed (.inl lands), act_refresh pc row]
    split <;> rfl

/-- The channels stored from the loop head on are those the delivery comes as far as. -/
def LoopStores (cfg : Config) (d : Delivery) (p : NotificationCreate) (target : NotificationChannel)
    (channels : List NotificationChannel) : Prop :=
  ∀ (fuel k : Nat) (w : World) (c : CreateOp), w.Sound → c.payload = p →
    3 * channels.length ≤ fuel →
    (((c.nextChannel channels).finish cfg d fuel k w).1.Stored p target ↔
      w.Stored p target ∨ d.Stores w p target channels k)

theorem stored_rollback {fuel k : Nat} {w : World} {c : CreateOp} {rest : List NotificationChannel}
    (sound : w.Sound) (pc : c.pc = .rollback rest) (payload : c.payload = p)
    (enough : 3 * rest.length ≤ fuel) (later : LoopStores cfg d p target rest) :
    (c.finish cfg d (fuel + 1) k w.skipId).1.Stored p target ↔
      w.Stored p target ∨ d.fault k = .none ∧ d.Stores w p target rest (k + 1) := by
  have rank : 0 < c.rank := by simp [CreateOp.rank, pc]
  have acted : c.act cfg (d.env k) w.skipId = (w.skipId, c.nextChannel rest) := by
    simp only [CreateOp.act, pc]
  by_cases rolled : d.fault k = .none
  · have same : ∀ channel ∈ rest, w.skipId.hasKey (channelIdemKey p.idempotencyKey channel) =
        w.hasKey (channelIdemKey p.idempotencyKey channel) := fun _ _ => hasKey_skipId sound _
    rw [finish_act rank rolled, acted, later fuel (k + 1) w.skipId c sound.skipId payload enough,
      Delivery.stores_congr same]
    simp only [rolled, true_and]
    exact Iff.rfl
  · have lands : c.afterRaise.pc = .raised := by simp only [CreateOp.afterRaise, pc]
    rw [finish_failed rank rolled (.inl lands), acted, ite_self]
    simp only [rolled, false_and, or_false]
    exact Iff.rfl

/-- A channel whose row is new is stored if the row is read back and its enqueue takes effect. -/
theorem stored_saving {fuel k : Nat} {w : World} {c : CreateOp} {n : Notification}
    {channel : NotificationChannel} {rest : List NotificationChannel} (sound : w.Sound)
    (pc : c.pc = .saving w.nextId .refresh rest) (payload : c.payload = p)
    (key : n.idempotencyKey = channelIdemKey p.idempotencyKey channel) (new : channel ∉ rest)
    (enough : 3 * rest.length ≤ fuel) (later : LoopStores cfg d p target rest) :
    (c.finish cfg d (fuel + 2) k (w.insert n)).1.Stored p target ↔
      w.Stored p target ∨ d.fault k = .none ∧
        (channel = target ∧ (d.fault (k + 1)).effect = true ∨
          (∀ effect, d.fault (k + 1) ≠ .stopped effect) ∧ d.Stores w p target rest (k + 2)) := by
  have row := w.rows_insert n
  obtain ⟨refreshed, unread⟩ := finish_refresh cfg d (fuel + 1) k pc row
  by_cases read : d.fault k = .none
  case neg =>
    rw [unread read, stored_insert sound]
    simp only [read, false_and, or_false]
  obtain ⟨score, enqueuing⟩ := refreshed read
  simp only [read, true_and]
  -- what the call of `enqueue` leaves behind
  let left := if (d.fault (k + 1)).effect then (w.insert n).enqueue w.nextId score else w.insert n
  have sound' : left.Sound := by
    unfold left
    split
    next => exact sound.created
    next => exact sound.insert n
  have stored : left.Stored p target ↔
      w.Stored p target ∨ channel = target ∧ (d.fault (k + 1)).effect = true := by
    unfold left
    split
    next effect => rw [stored_enqueue row, stored_insert sound, key, channelIdemKey_inj]; simp [effect]
    next effect => rw [stored_insert sound]; simp [effect]
  have same : ∀ channel' ∈ rest, left.hasKey (channelIdemKey p.idempotencyKey channel') =
      w.hasKey (channelIdemKey p.idempotencyKey channel') := by
    intro channel' mem
    rw [← hasKey_insert_other sound key (ne_of_mem_of_not_mem mem new)]
    unfold left
    split <;> rfl
  rw [enqueuing]
  by_cases lives : ∀ effect, d.fault (k + 1) ≠ .stopped effect
  · let c₁ : CreateOp := { c with pc := .saving w.nextId (.enqueue score) rest }
    have awaits : c₁.pc = .saving w.nextId (.enqueue score) rest := rfl
    obtain ⟨c', payload', next⟩ := finish_enqueue cfg fuel awaits lives
    rw [next, later fuel (k + 2) left c' sound' (payload'.trans payload) enough,
      Delivery.stores_congr same, stored, or_assoc]
    simp only [ne_eq, lives, not_false_eq_true, implies_true, true_and]
  · obtain ⟨effect, stopped⟩ := not_forall_not.mp lives
    have ended : ({ c with pc := .saving w.nextId (.enqueue score) rest }.finish cfg d (fuel + 1) (k + 1)
        (w.insert n)).1 = left := by
      rw [finish_enqueue_stopped rfl stopped]
      simp only [left, stopped]
      rfl
    rw [ended, stored]
    simp only [lives, false_and, or_false]

variable (cfg d p target)

theorem loop_stores (channels : List NotificationChannel) (distinct : channels.Nodup) :
    LoopStores cfg d p target channels := by
  induction channels with
  | nil =>
    intro fuel k w c _ _ _
    rw [finish_ended rfl]
    simp [Delivery.Stores]
  | cons channel rest ih =>
    intro fuel k w c sound payload enough
    obtain ⟨new, distinct⟩ := List.nodup_cons.mp distinct
    have later := ih distinct
    obtain ⟨fuel, rfl⟩ : ∃ m, fuel = m + 3 := ⟨fuel - 3, by simp only [List.length_cons] at enough; omega⟩
    replace enough : 3 * rest.length ≤ fuel := by simp only [List.length_cons] at enough; omega
    have pc : (c.nextChannel (channel :: rest)).pc = .insert channel rest := rfl
    have live : 0 < (c.nextChannel (channel :: rest)).rank := Nat.succ_pos _
    rw [Delivery.Stores]
    by_cases answered : d.fault k = .none
    case neg =>
      have inserted := insert_act cfg p target (d.env k) sound pc
      rw [finish_failed live answered (.inl rfl)]
      simp only [answered, false_and, and_false, or_false]
      split
      next => exact inserted.2
      next => exact Iff.rfl
    rw [finish_act live answered]
    rcases insertResult_cases (c := c.nextChannel (channel :: rest)) w (d.env k) channel payload with
      ⟨result, unfit⟩ | ⟨result, fits, taken⟩ | ⟨result, fits, free⟩
    · have acted : (c.nextChannel (channel :: rest)).act cfg (d.env k) w =
          (w.skipId, { c with pc := .raised }) := by
        simp only [CreateOp.act, pc, result]
        rfl
      rw [acted, finish_ended rfl]
      simp only [unfit, false_and, or_false]
      exact Iff.rfl
    · have acted : (c.nextChannel (channel :: rest)).act cfg (d.env k) w =
          (w.skipId, { c with pc := .rollback rest }) := by
        simp only [CreateOp.act, pc, result]
        rfl
      let c₁ : CreateOp := { c with pc := .rollback rest }
      have awaits : c₁.pc = .rollback rest := rfl
      have payload₁ : c₁.payload = p := payload
      have enough₁ : 3 * rest.length ≤ fuel + 1 := by omega
      rw [acted]
      refine (stored_rollback sound awaits payload₁ enough₁ later).trans ?_
      simp only [fits, answered, taken, if_true, true_and]
    · have acted : (c.nextChannel (channel :: rest)).act cfg (d.env k) w =
          (w.insert (c.newRow (d.env k) channel), { c with pc := .saving w.nextId .refresh rest }) := by
        simp only [CreateOp.act, pc, result]
        rfl
      have key : (c.newRow (d.env k) channel).idempotencyKey =
          channelIdemKey p.idempotencyKey channel := by
        rw [← payload]
        rfl
      let c₁ : CreateOp := { c with pc := .saving w.nextId .refresh rest }
      have awaits : c₁.pc = .saving w.nextId .refresh rest := rfl
      have payload₁ : c₁.payload = p := payload
      rw [acted]
      refine (stored_saving sound awaits payload₁ key new enough later).trans ?_
      simp only [fits, answered, free, Bool.false_eq_true, if_false, true_and]

end Channels

end NotificationEngine
