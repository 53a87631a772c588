import NotificationEngine.DetailResponse
import NotificationEngine.Idempotency
import NotificationEngine.RowFacts

namespace NotificationEngine

/-- The request has claimed its idempotency key. -/
def CreateOp.entered (c : CreateOp) : Bool :=
  match c.pc with
  | .setnx => false
  | .returned isDuplicate => !isDuplicate
  | _ => true

/-- The strings of the payload fit their columns, on every channel of its event. -/
def NotificationCreate.Storable (p : NotificationCreate) : Prop :=
  ∀ channel ∈ eventChannelMap p.eventType, p.Fits channel

instance (p : NotificationCreate) : Decidable p.Storable :=
  inferInstanceAs (Decidable (∀ channel ∈ eventChannelMap p.eventType,
    (channelIdemKey p.idempotencyKey channel).length ≤ 255 ∧ ((p.recipient.fieldFor channel).getD "").length ≤ 255))

section Calls

variable {cfg : Config} {env : Env} {w : World} {c : CreateOp}

theorem nextChannel_upcoming (c : CreateOp) (rest : List NotificationChannel) :
    (c.nextChannel rest).upcoming = rest := by
  cases rest <;> rfl

theorem nextChannel_entered (c : CreateOp) (rest : List NotificationChannel) :
    (c.nextChannel rest).entered = true ∧ (c.nextChannel rest).pc ≠ .raised := by
  cases rest <;> simp [CreateOp.nextChannel, CreateOp.entered]

/-- What the `setnx` of a request makes of it. -/
theorem CreateOp.act_setnx (pc : c.pc = .setnx) :
    c.payload.redisKey ∈ w.idemKeys ∧ c.act cfg env w = (w, { c with pc := .returned true }) ∨
      c.payload.redisKey ∉ w.idemKeys ∧
        c.act cfg env w = ({ w with idemKeys := c.payload.redisKey :: w.idemKeys }, { c with pc := .expire }) := by
  by_cases claimed : c.payload.redisKey ∈ w.idemKeys
  · exact Or.inl ⟨claimed, by simp [CreateOp.act, pc, claimed]⟩
  · exact Or.inr ⟨claimed, by simp [CreateOp.act, pc, claimed]⟩

/-- A call of a request past its `setnx`: a channel that was still to come has its row, or is still to come. -/
theorem CreateOp.act_covers (storable : c.payload.Storable) (sound : w.Sound) (mapped : c.Mapped)
    (saved : ∀ id pc rest, c.pc = .saving id pc rest → (w.rows id).isSome = true) (entered : c.entered = true)
    (unraised : c.pc ≠ .raised) :
    (c.act cfg env w).2.entered = true ∧ (c.act cfg env w).2.pc ≠ .raised ∧
      ∀ channel ∈ c.upcoming, channel ∈ (c.act cfg env w).2.upcoming ∨
        (c.act cfg env w).1.hasKey (channelIdemKey c.payload.idempotencyKey channel) = true := by
  cases pc : c.pc with
  | setnx => simp [CreateOp.entered, pc] at entered
  | raised => exact absurd pc unraised
  | returned isDuplicate =>
    simp only [CreateOp.act, pc]
    exact ⟨entered, by simp, fun channel mem => Or.inl mem⟩
  | expire =>
    have ahead : c.upcoming = eventChannelMap c.payload.eventType := by simp [CreateOp.upcoming, pc]
    simp only [CreateOp.act, pc]
    refine ⟨(nextChannel_entered c _).1, (nextChannel_entered c _).2, fun channel mem => Or.inl ?_⟩
    rw [nextChannel_upcoming, ← ahead]
    exact mem
  | rollback rest =>
    have ahead : c.upcoming = rest := by simp [CreateOp.upcoming, pc]
    simp only [CreateOp.act, pc]
    refine ⟨(nextChannel_entered c _).1, (nextChannel_entered c _).2, fun channel mem => Or.inl ?_⟩
    rw [nextChannel_upcoming, ← ahead]
    exact mem
  | insert channel rest =>
    have ahead : c.upcoming = channel :: rest := by simp [CreateOp.upcoming, pc]
    have here : channel ∈ c.upcoming := ahead ▸ List.mem_cons_self ..
    rcases insertResult_cases w env channel rfl with ⟨_, unfit⟩ | ⟨result, _, taken⟩ | ⟨result, _, _⟩
    · exact absurd (storable channel (mapped channel here)) unfit
    · have acted : c.act cfg env w = (w.skipId, { c with pc := .rollback rest }) := by
        simp [CreateOp.act, pc, result]
      rw [acted, ahead]
      refine ⟨rfl, by simp, fun other mem => ?_⟩
      rcases List.mem_cons.mp mem with rfl | later
      · exact Or.inr ((hasKey_skipId sound _).trans taken)
      · exact Or.inl later
    · have acted : c.act cfg env w =
          (w.insert (c.newRow env channel), { c with pc := .saving w.nextId .refresh rest }) := by
        simp [CreateOp.act, pc, result]
      rw [acted, ahead]
      refine ⟨rfl, by simp, fun other mem => ?_⟩
      rcases List.mem_cons.mp mem with rfl | later
      · exact Or.inr ((hasKey_insert sound _ _).mpr (Or.inr rfl))
      · exact Or.inl later
  | saving id pc' rest =>
    have ahead : c.upcoming = rest := by simp [CreateOp.upcoming, pc]
    cases pc' with
    | refresh =>
      obtain ⟨n, row⟩ := Option.isSome_iff_exists.mp (saved id .refresh rest pc)
      rw [act_refresh pc row, ahead]
      exact ⟨rfl, by simp, fun other mem => Or.inl mem⟩
    | enqueue score =>
      rw [act_enqueue pc, ahead]
      refine ⟨(nextChannel_entered _ rest).1, (nextChannel_entered _ rest).2, fun other mem => Or.inl ?_⟩
      rw [nextChannel_upcoming]
      exact mem

end Calls

/-- Some request with the key has claimed it. -/
def Sys.Tried (s : Sys) (key : String) : Prop :=
  ∃ c, .create c ∈ s.ops ∧ c.payload.idempotencyKey = key ∧ c.entered = true

/-- The channel has its row under the key, or a request with the key has still to come to it. -/
def Sys.Covers (s : Sys) (key : String) (channel : NotificationChannel) : Prop :=
  s.world.hasKey (channelIdemKey key channel) = true ∨
    ∃ c, .create c ∈ s.ops ∧ c.payload.idempotencyKey = key ∧ c.entered = true ∧ channel ∈ c.upcoming

/-- Once the key is claimed, in Redis or by an answer, every channel has its row or will get it. -/
structure Sys.Covered (s : Sys) (key : String) (channels : List NotificationChannel) : Prop where
  unraised : ∀ c, .create c ∈ s.ops → c.payload.idempotencyKey = key → c.pc ≠ .raised
  claimed : "idem:" ++ key ∈ s.world.idemKeys → s.Tried key
  answered : ∀ c, .create c ∈ s.ops → c.payload.idempotencyKey = key → c.pc = .returned true → s.Tried key
  covers : s.Tried key → ∀ channel ∈ channels, s.Covers key channel

section Steps

variable {cfg : Config} {s s' : Sys} {l : Label} {key : String} {channels : List NotificationChannel}

/-- Keys of rows stay. -/
theorem Sys.step_hasKey (fresh : s.world.Fresh) (h : s.step cfg l = some s')
    (taken : s.world.hasKey key = true) :
    s'.world.hasKey key = true := by
  obtain ⟨i, at_⟩ := (World.hasKey_iff_keyAt fresh key).mp taken
  refine (World.hasKey_iff_keyAt (Sys.step_fresh fresh h) key).mpr ⟨i, ?_⟩
  rcases Sys.step_keys h with kept | ⟨_, _, _, _, _, _, _, _, _, _, world⟩
  · rw [kept.keys, at_]
  · have known : i ≠ s.world.nextId := by
      rintro rfl
      rw [World.keyAt, fresh _ le_rfl] at at_
      cases at_
    rw [world, World.keyAt_insert, if_neg known, at_]

/-- A step that is no call of a request with the key leaves such requests as they are, but for a new one, and
does not claim the key. -/
theorem Sys.step_beside (h : s.step cfg l = some s') (other : ∀ i fault env c, l = .run i fault env →
      s.ops[i]? = some (.create c) → c.payload.idempotencyKey ≠ key) :
    (∀ c, .create c ∈ s.ops → c.payload.idempotencyKey = key → .create c ∈ s'.ops) ∧
      (∀ c, .create c ∈ s'.ops → c.payload.idempotencyKey = key → .create c ∈ s.ops ∨ c.pc = .setnx) ∧
      ("idem:" ++ key ∈ s'.world.idemKeys → "idem:" ++ key ∈ s.world.idemKeys) := by
  refine ⟨fun c mem own => ?_, fun c mem own => ?_, fun claimed => ?_⟩
  · rcases Sys.step_ops h with ⟨i, fault, env, op, called, hop, ops⟩ | same | ⟨op, ops, _⟩
    · obtain ⟨k, there⟩ := List.mem_iff_getElem?.mp mem
      have apart : i ≠ k := by
        rintro rfl
        exact other i fault env c called there own
      refine List.mem_of_getElem? (i := k) ?_
      rw [ops, List.getElem?_set_ne apart, there]
    · rw [same]
      exact mem
    · rw [ops]
      exact List.mem_append_left _ mem
  · obtain ⟨k, there⟩ := List.mem_iff_getElem?.mp mem
    rcases Sys.step_create h there with old | arrived | ⟨fault, env, c₀, called, hop, ran⟩
    · exact Or.inl (List.mem_of_getElem? old)
    · exact Or.inr arrived
    · have same := CreateOp.run_payload ran
      exact absurd (same ▸ own) (other k fault env c₀ called hop)
  · rcases Sys.step_idemKeys h with same | ⟨gone, _, forgot⟩ | ⟨i, fault, env, c, called, hop, grown⟩
    · exact same ▸ claimed
    · rw [forgot] at claimed
      exact (List.mem_filter.mp claimed).1
    · rw [grown] at claimed
      rcases List.mem_cons.mp claimed with same | old
      · have same : key = c.payload.idempotencyKey := by simpa [NotificationCreate.redisKey] using same
        exact absurd same.symm (other i fault env c called hop)
      · exact old

theorem Sys.Covered.beside (covered : s.Covered key channels) (fresh : s.world.Fresh)
    (h : s.step cfg l = some s') (other : ∀ i fault env c, l = .run i fault env →
      s.ops[i]? = some (.create c) → c.payload.idempotencyKey ≠ key) : s'.Covered key channels := by
  obtain ⟨stays, came, keys⟩ := Sys.step_beside h other
  have tried : s.Tried key → s'.Tried key := fun ⟨c, mem, own, entered⟩ => ⟨c, stays c mem own, own, entered⟩
  refine ⟨fun c mem own => ?_, fun claimed => tried (covered.claimed (keys claimed)), fun c mem own pc => ?_, ?_⟩
  · rcases came c mem own with old | arrived
    · exact covered.unraised c old own
    · rw [arrived]
      simp
  · rcases came c mem own with old | arrived
    · exact tried (covered.answered c old own pc)
    · rw [arrived] at pc
      cases pc
  · rintro ⟨c, mem, own, entered⟩ channel asked
    rcases came c mem own with old | arrived
    · rcases covered.covers ⟨c, old, own, entered⟩ channel asked with taken | ⟨c', mem', own', entered', ahead⟩
      · exact Or.inl (Sys.step_hasKey fresh h taken)
      · exact Or.inr ⟨c', stays c' mem' own', own', entered', ahead⟩
    · simp [CreateOp.entered, arrived] at entered

/-- A request goes on from `c` to `c'`, and the others stay as they are. -/
structure Sys.Calls (s s' : Sys) (c c' : CreateOp) : Prop where
  here : .create c' ∈ s'.ops
  stays : ∀ c₀, .create c₀ ∈ s.ops → c₀ = c ∨ .create c₀ ∈ s'.ops
  came : ∀ c₀, .create c₀ ∈ s'.ops → c₀ = c' ∨ .create c₀ ∈ s.ops
  rows : ∀ name, s.world.hasKey name = true → s'.world.hasKey name = true

theorem Sys.step_calls (fresh : s.world.Fresh) {i : Nat} {env : Env} {c : CreateOp}
    (hop : s.ops[i]? = some (.create c)) (h : s.step cfg (.run i .none env) = some s') :
    s'.world = (c.act cfg env s.world).1 ∧ s.Calls s' c (c.act cfg env s.world).2 := by
  obtain ⟨op, hop', ran⟩ := Option.map_eq_some_iff.mp h
  cases hop.symm.trans hop'
  have ops : s'.ops = s.ops.set i (.create (c.act cfg env s.world).2) := by rw [← ran]; rfl
  have within := (List.getElem?_eq_some_iff.mp hop).1
  refine ⟨by rw [← ran]; rfl, ?_, fun c₀ mem => ?_, fun c₀ mem => ?_, fun name => Sys.step_hasKey fresh h⟩
  · rw [ops]
    exact List.mem_set within _
  · obtain ⟨k, there⟩ := List.mem_iff_getElem?.mp mem
    by_cases same : i = k
    · subst same
      cases hop.symm.trans there
      exact Or.inl rfl
    · refine Or.inr (List.mem_of_getElem? (i := k) ?_)
      rw [ops, List.getElem?_set_ne same, there]
  · rw [ops] at mem
    rcases List.mem_or_eq_of_mem_set mem with old | new
    · exact Or.inr old
    · cases new
      exact Or.inl rfl

section Calls

variable {c c' : CreateOp}

theorem Sys.Covers.turned {channel : NotificationChannel} (covers : s.Covers key channel) (calls : s.Calls s' c c')
    (idle : c.entered = false) : s'.Covers key channel := by
  rcases covers with taken | ⟨c₀, mem, own, entered, ahead⟩
  · exact Or.inl (calls.rows _ taken)
  · rcases calls.stays c₀ mem with rfl | there
    · cases idle.symm.trans entered
    · exact Or.inr ⟨c₀, there, own, entered, ahead⟩

/-- A request that another one has turned away. -/
theorem Sys.Covered.turned (covered : s.Covered key channels) (calls : s.Calls s' c c') (idle : c.entered = false)
    (pc : c'.pc = .returned true) (before : s.Tried key) : s'.Covered key channels := by
  obtain ⟨c₀, mem, own, entered⟩ := before
  have tried : s'.Tried key := by
    rcases calls.stays c₀ mem with rfl | there
    · cases idle.symm.trans entered
    · exact ⟨c₀, there, own, entered⟩
  refine ⟨fun c₁ mem own => ?_, fun _ => tried, fun _ _ _ _ => tried, fun _ channel asked => ?_⟩
  · rcases calls.came c₁ mem with rfl | old
    · rw [pc]
      simp
    · exact covered.unraised c₁ old own
  · exact (covered.covers ⟨c₀, mem, own, entered⟩ channel asked).turned calls idle

/-- A request that claims the key. -/
theorem Sys.Covered.entering (covered : s.Covered key channels) (calls : s.Calls s' c c')
    (own : c'.payload.idempotencyKey = key) (pc : c'.pc = .expire)
    (event : eventChannelMap c'.payload.eventType = channels) : s'.Covered key channels := by
  have entered : c'.entered = true := by simp [CreateOp.entered, pc]
  have tried : s'.Tried key := ⟨c', calls.here, own, entered⟩
  refine ⟨fun c₁ mem own => ?_, fun _ => tried, fun _ _ _ _ => tried, fun _ channel asked => ?_⟩
  · rcases calls.came c₁ mem with rfl | old
    · rw [pc]
      simp
    · exact covered.unraised c₁ old own
  · refine Or.inr ⟨c', calls.here, own, entered, ?_⟩
    rw [CreateOp.upcoming, pc, event]
    exact asked

/-- A request past its `setnx` that goes on. -/
theorem Sys.Covered.going (covered : s.Covered key channels) (calls : s.Calls s' c c')
    (before : .create c ∈ s.ops) (own : c.payload.idempotencyKey = key) (own' : c'.payload.idempotencyKey = key)
    (entered : c.entered = true) (entered' : c'.entered = true) (unraised : c'.pc ≠ .raised)
    (ahead : ∀ channel ∈ c.upcoming, channel ∈ c'.upcoming ∨
      s'.world.hasKey (channelIdemKey key channel) = true) : s'.Covered key channels := by
  have tried : s'.Tried key := ⟨c', calls.here, own', entered'⟩
  refine ⟨fun c₁ mem own => ?_, fun _ => tried, fun _ _ _ _ => tried, fun _ channel asked => ?_⟩
  · rcases calls.came c₁ mem with rfl | old
    · exact unraised
    · exact covered.unraised c₁ old own
  · rcases covered.covers ⟨c, before, own, entered⟩ channel asked with taken | ⟨c₀, mem, own₀, entered₀, coming⟩
    · exact Or.inl (calls.rows _ taken)
    · rcases calls.stays c₀ mem with rfl | there
      · rcases ahead channel coming with still | taken
        · exact Or.inr ⟨c', calls.here, own', entered', still⟩
        · exact Or.inl taken
      · exact Or.inr ⟨c₀, there, own₀, entered₀, coming⟩

end Calls

theorem Sys.Covered.called (covered : s.Covered key channels) (sound : s.world.Sound) {i : Nat} {env : Env}
    {c : CreateOp} (hop : s.ops[i]? = some (.create c)) (own : c.payload.idempotencyKey = key)
    (h : s.step cfg (.run i .none env) = some s') (storable : c.payload.Storable) (mapped : c.Mapped)
    (event : eventChannelMap c.payload.eventType = channels)
    (saved : ∀ id pc rest, c.pc = .saving id pc rest → (s.world.rows id).isSome = true) :
    s'.Covered key channels := by
  obtain ⟨world, calls⟩ := Sys.step_calls sound.fresh hop h
  have there : .create c ∈ s.ops := List.mem_of_getElem? hop
  have payload : (c.act cfg env s.world).2.payload = c.payload := c.act_payload cfg env s.world
  have unraised := covered.unraised c there own
  cases entered : c.entered with
  | true =>
    obtain ⟨entered', unraised', ahead⟩ := CreateOp.act_covers storable sound mapped saved entered unraised
    rw [own, ← world] at ahead
    exact covered.going calls there own (by rw [payload, own]) entered entered' unraised' ahead
  | false =>
    cases pc : c.pc with
    | setnx =>
      rcases CreateOp.act_setnx pc with ⟨claimed, acted⟩ | ⟨_, acted⟩
      · rw [NotificationCreate.redisKey, own] at claimed
        exact covered.turned calls entered (by rw [acted]) (covered.claimed claimed)
      · exact covered.entering calls (by rw [payload, own]) (by rw [acted]) (by rw [payload, event])
    | returned isDuplicate =>
      cases isDuplicate with
      | false => simp [CreateOp.entered, pc] at entered
      | true =>
        have acted : (c.act cfg env s.world).2 = c := by simp [CreateOp.act, pc]
        exact covered.turned calls entered (by rw [acted, pc]) (covered.answered c there own pc)
    | _ => simp [CreateOp.entered, pc] at entered

end Steps

end NotificationEngine
