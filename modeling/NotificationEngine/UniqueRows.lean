import NotificationEngine.ChannelLoop

namespace NotificationEngine

theorem Task.write_key (cfg : Config) (t : Task) (n : Notification) :
    (t.write cfg n).idempotencyKey = n.idempotencyKey :=
  t.write_column Notification.idempotencyKey (fun _ _ _ => rfl) cfg n

/-- The key of the row with the given id. -/
def World.keyAt (w : World) (id : Nat) : Option String := (w.rows id).map (·.idempotencyKey)

/-- Every row has the key it had. -/
structure World.SameKeys (w w' : World) : Prop where
  keys : ∀ i, w'.keyAt i = w.keyAt i
  nextId : w.nextId ≤ w'.nextId

theorem World.apply_sameKeys {w : World} {id : Nat} {o : Outcome} (cfg : Config) (t : Task)
    (effect : o.db = (w.rows id).map (t.write cfg) ∨ o.db = w.rows id) : w.SameKeys (w.apply id o) where
  keys i := by
    by_cases h : i = id
    · subst h
      rcases effect with written | kept
      · simp [World.keyAt, World.apply, written, Function.comp_def, Task.write_key]
      · simp [World.keyAt, World.apply, kept]
    · simp [World.keyAt, World.apply, h]
  nextId := le_rfl

theorem Task.run_written (cfg : Config) (env : Env) (id : Nat) (q : QueueService)
    (db : Option Notification) (fault : Fault) (t : Task) :
    (t.run cfg env id q db fault).db = db.map (t.write cfg) ∨ (t.run cfg env id q db fault).db = db := by
  rw [Task.run_db]
  split
  next => exact Or.inl rfl
  next => exact Or.inr rfl

theorem CreateOp.act_keys (cfg : Config) (env : Env) (w : World) (c : CreateOp) :
    w.SameKeys (c.act cfg env w).1 ∨
      ∃ channel rest, c.pc = .insert channel rest ∧
        w.insertResult (c.newRow env channel) = .inserted ∧
        (c.act cfg env w).1 = w.insert (c.newRow env channel) := by
  have same : w.SameKeys w := ⟨fun _ => rfl, le_rfl⟩
  cases pc : c.pc with
  | setnx =>
    simp only [CreateOp.act, pc]
    split
    next => exact Or.inl same
    next => exact Or.inl ⟨fun _ => rfl, le_rfl⟩
  | insert channel rest =>
    simp only [CreateOp.act, pc]
    split
    next inserted => exact Or.inr ⟨channel, rest, rfl, inserted, rfl⟩
    next => exact Or.inl ⟨fun _ => rfl, Nat.le_succ _⟩
    next => exact Or.inl ⟨fun _ => rfl, Nat.le_succ _⟩
  | saving id pc' rest =>
    have applied := w.apply_sameKeys cfg (.saving pc')
      (Task.run_written cfg env id w.service (w.rows id) .none (.saving pc'))
    simp only [CreateOp.act, pc]
    split
    next => exact Or.inl applied
    next => exact Or.inl applied
  | _ => exact Or.inl (by simpa [CreateOp.act, pc] using same)

theorem Op.run_keys (cfg : Config) (env : Env) (w : World) (fault : Fault) (op : Op) :
    w.SameKeys (op.run cfg env w fault).1 ∨
      ∃ c channel rest, op = .create c ∧ c.pc = .insert channel rest ∧
        w.insertResult (c.newRow env channel) = .inserted ∧
        (op.run cfg env w fault).1 = w.insert (c.newRow env channel) := by
  have same : w.SameKeys w := ⟨fun _ => rfl, le_rfl⟩
  cases op with
  | done => exact Or.inl same
  | task id t =>
    exact Or.inl (w.apply_sameKeys cfg t (t.run_written cfg env id w.service (w.rows id) fault))
  | create c =>
    have acted : w.SameKeys (c.act cfg env w).1 ∨
        ∃ c' channel rest, Op.create c = .create c' ∧ c'.pc = .insert channel rest ∧
          w.insertResult (c'.newRow env channel) = .inserted ∧
          (c.act cfg env w).1 = w.insert (c'.newRow env channel) := by
      rcases c.act_keys cfg env w with kept | ⟨channel, rest, pc, inserted, acted⟩
      · exact Or.inl kept
      · exact Or.inr ⟨c, channel, rest, rfl, pc, inserted, acted⟩
    simp only [Op.run, CreateOp.run_world]
    split
    next => exact acted
    next => exact Or.inl same

theorem Sys.step_keys {cfg : Config} {s s' : Sys} {l : Label} (h : s.step cfg l = some s') :
    s.world.SameKeys s'.world ∨ ∃ i fault env c channel rest, l = .run i fault env ∧
      s.ops[i]? = some (.create c) ∧ c.pc = .insert channel rest ∧
      s.world.insertResult (c.newRow env channel) = .inserted ∧
      s'.world = s.world.insert (c.newRow env channel) := by
  rcases Sys.step_rows h with ⟨i, fault, env, op, called, hop, ran⟩ | ⟨rows, nextId, _⟩
  · rw [ran]
    rcases op.run_keys cfg env s.world fault with kept | ⟨c, channel, rest, rfl, pc, inserted, ran⟩
    · exact Or.inl kept
    · exact Or.inr ⟨i, fault, env, c, channel, rest, called, hop, pc, inserted, ran⟩
  · exact Or.inl ⟨fun i => by unfold World.keyAt; rw [rows], nextId.ge⟩

/-- No two rows have the same key. -/
def World.UniqueKeys (w : World) : Prop :=
  ∀ i i' key, w.keyAt i = some key → w.keyAt i' = some key → i = i'

theorem World.hasKey_iff_keyAt {w : World} (fresh : w.Fresh) (key : String) :
    w.hasKey key = true ↔ ∃ i, w.keyAt i = some key := by
  rw [World.hasKey_iff fresh]
  simp [World.keyAt]

theorem World.insertResult_free {w : World} {n : Notification} (h : w.insertResult n = .inserted) :
    w.hasKey n.idempotencyKey = false := by
  unfold World.insertResult at h
  split at h
  next => cases h
  next =>
    split at h
    next => cases h
    next free => simpa using free

theorem World.keyAt_insert {w : World} {n : Notification} {i : Nat} :
    (w.insert n).keyAt i = if i = w.nextId then some n.idempotencyKey else w.keyAt i := by
  by_cases h : i = w.nextId
  · simp [World.keyAt, World.insert, h]
  · simp [World.keyAt, World.insert, h]

theorem World.UniqueKeys.insert {w : World} {n : Notification} (unique : w.UniqueKeys) (fresh : w.Fresh)
    (free : w.hasKey n.idempotencyKey = false) : (w.insert n).UniqueKeys := by
  have new (i : Nat) : w.keyAt i ≠ some n.idempotencyKey := by
    intro taken
    rw [(World.hasKey_iff_keyAt fresh _).mpr ⟨i, taken⟩] at free
    cases free
  intro i i' key h h'
  rw [World.keyAt_insert] at h h'
  split at h
  next here =>
    cases h
    split at h'
    next here' => rw [here, here']
    next => exact absurd h' (new i')
  next =>
    split at h'
    next =>
      cases h'
      exact absurd h (new i)
    next => exact unique i i' key h h'

theorem Sys.step_uniqueKeys {cfg : Config} {s s' : Sys} {l : Label} (fresh : s.world.Fresh)
    (unique : s.world.UniqueKeys) (h : s.step cfg l = some s') : s'.world.UniqueKeys := by
  rcases Sys.step_keys h with kept | ⟨i, fault, env, c, channel, rest, _, _, _, inserted, ran⟩
  · intro i i' key h h'
    exact unique i i' key (kept.keys i ▸ h) (kept.keys i' ▸ h')
  · rw [ran]
    exact unique.insert fresh (World.insertResult_free inserted)

theorem reach_uniqueKeys {cfg : Config} {ok : Sys → Label → Prop} {s : Sys}
    (h : Sys.Reach cfg ok .initial s) : s.world.UniqueKeys := by
  induction h with
  | start => exact nofun
  | next reached _ step unique =>
    exact Sys.step_uniqueKeys (reach_fresh (fun _ _ => rfl) reached) unique step

/-- The step is no call of a request with the key `key`, nor does Redis forget it. -/
def Sys.spares (s : Sys) (key : String) : Label → Prop
  | .run i _ _ => ∀ c, s.ops[i]? = some (.create c) → c.payload.idempotencyKey ≠ key
  | .forget name => name ≠ "idem:" ++ key
  | _ => True

/-- Requests with other keys neither make nor take away the rows that suppress a request. -/
theorem Sys.step_spares {cfg : Config} {s s' : Sys} {l : Label} {key : String} (sound : s.world.Sound)
    (spares : s.spares key l) (h : s.step cfg l = some s') (channel : NotificationChannel) :
    s'.world.hasKey (channelIdemKey key channel) = s.world.hasKey (channelIdemKey key channel) := by
  have fresh := Sys.step_fresh sound.fresh h
  rw [Bool.eq_iff_iff]
  rcases Sys.step_keys h with kept | ⟨i, fault, env, c, channel', rest, rfl, hop, _, _, ran⟩
  · rw [World.hasKey_iff_keyAt fresh, World.hasKey_iff_keyAt sound.fresh]
    simp only [kept.keys]
  · have other : (c.newRow env channel').idempotencyKey ≠ channelIdemKey key channel :=
      fun same => spares c hop (channelIdemKey_eq_iff.mp same).1
    rw [ran, hasKey_insert sound]
    simp only [other, or_false]

end NotificationEngine
