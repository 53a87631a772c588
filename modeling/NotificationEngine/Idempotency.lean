import NotificationEngine.CreateAnswer
import NotificationEngine.EnqueuedOnce

namespace NotificationEngine

theorem Op.run_idemKeys (cfg : Config) (env : Env) (w : World) (fault : Fault) (op : Op) :
    (op.run cfg env w fault).1.idemKeys = w.idemKeys ∨
      ∃ c, op = .create c ∧ (op.run cfg env w fault).1.idemKeys = c.payload.redisKey :: w.idemKeys := by
  cases op with
  | done => exact Or.inl rfl
  | task id t => exact Or.inl rfl
  | create c =>
    have acted : (c.act cfg env w).1.idemKeys = w.idemKeys ∨
        ∃ c', Op.create c = .create c' ∧
          (c.act cfg env w).1.idemKeys = c'.payload.redisKey :: w.idemKeys := by
      cases pc : c.pc with
      | setnx =>
        simp only [CreateOp.act, pc]
        split
        next => exact Or.inl rfl
        next => exact Or.inr ⟨c, rfl, rfl⟩
      | insert channel rest =>
        simp only [CreateOp.act, pc]
        split <;> exact Or.inl rfl
      | saving id pc' rest =>
        simp only [CreateOp.act, pc]
        split <;> exact Or.inl rfl
      | _ => exact Or.inl (by simp [CreateOp.act, pc])
    simp only [Op.run, CreateOp.run_world]
    split
    next => exact acted
    next => exact Or.inl rfl

theorem Sys.step_idemKeys {cfg : Config} {s s' : Sys} {l : Label} (h : s.step cfg l = some s') :
    s'.world.idemKeys = s.world.idemKeys ∨
      (∃ name, l = .forget name ∧ s'.world.idemKeys = s.world.idemKeys.filter (· ≠ name)) ∨
      ∃ i fault env c, l = .run i fault env ∧ s.ops[i]? = some (.create c) ∧
        s'.world.idemKeys = c.payload.redisKey :: s.world.idemKeys := by
  rcases Sys.step_rows h with ⟨i, fault, env, op, called, hop, ran⟩ | ⟨_, _, _, same | forgot⟩
  · rw [ran]
    rcases op.run_idemKeys cfg env s.world fault with same | ⟨c, rfl, claimed⟩
    · exact Or.inl same
    · exact Or.inr (Or.inr ⟨i, fault, env, c, called, hop, claimed⟩)
  · exact Or.inl same
  · exact Or.inr (Or.inl forgot)

/-- The request `k` is in progress and past its `setnx`. -/
def Sys.Entered (s : Sys) (k : Nat) : Prop := ∃ c, s.ops[k]? = some (.create c) ∧ c.pc ≠ .setnx

/-- While the key is in Redis, only requests that were past their `setnx` in `s₀` get beyond it. -/
structure Sys.Shut (s₀ s : Sys) (key : String) : Prop where
  claimed : "idem:" ++ key ∈ s.world.idemKeys
  late : ∀ k c, s.ops[k]? = some (.create c) → c.payload.idempotencyKey = key →
    c.pc = .setnx ∨ c.pc = .raised ∨ c.pc = .returned true ∨ s₀.Entered k

theorem nextChannel_payload (c : CreateOp) (rest : List NotificationChannel) :
    (c.nextChannel rest).payload = c.payload := by
  cases rest <;> rfl

theorem saved_payload (c : CreateOp) (id : Nat) (rest : List NotificationChannel) (next : Option Task) :
    (c.saved id rest next).payload = c.payload := by
  unfold CreateOp.saved
  split
  next => rfl
  next => exact nextChannel_payload _ rest

theorem CreateOp.act_payload (cfg : Config) (env : Env) (w : World) (c : CreateOp) :
    (c.act cfg env w).2.payload = c.payload := by
  unfold CreateOp.act
  split
  next => split <;> rfl
  next => exact nextChannel_payload c _
  next => split <;> rfl
  next rest _ => exact nextChannel_payload c rest
  next id pc rest _ =>
    dsimp only
    split
    next => rfl
    next => exact saved_payload c id rest _
  next => rfl
  next => rfl

theorem CreateOp.run_payload {cfg : Config} {env : Env} {w : World} {fault : Fault} {c c' : CreateOp}
    (ran : (c.run cfg env w fault).2 = .create c') : c'.payload = c.payload := by
  cases fault with
  | none =>
    cases ran
    exact c.act_payload cfg env w
  | raised effect =>
    cases ran
    unfold CreateOp.afterRaise
    split
    next id _ rest _ => exact saved_payload c id rest none
    next => rfl
  | stopped effect => cases ran

/-- A request that meets a claimed key, or was turned away, does not get beyond it. -/
theorem CreateOp.run_turned {cfg : Config} {env : Env} {w : World} {fault : Fault} {c c' : CreateOp}
    (claimed : c.payload.redisKey ∈ w.idemKeys)
    (turned : c.pc = .setnx ∨ c.pc = .raised ∨ c.pc = .returned true)
    (ran : (c.run cfg env w fault).2 = .create c') : c'.pc = .raised ∨ c'.pc = .returned true := by
  cases fault with
  | none =>
    cases ran
    rcases turned with pc | pc | pc
    · exact Or.inr (by simp [CreateOp.act, pc, claimed])
    · exact Or.inl (by simp [CreateOp.act, pc])
    · exact Or.inr (by simp [CreateOp.act, pc])
  | raised effect =>
    cases ran
    rcases turned with pc | pc | pc <;> exact Or.inl (by simp [CreateOp.afterRaise, pc])
  | stopped effect => cases ran

theorem Sys.Shut.step {cfg : Config} {s₀ s s' : Sys} {l : Label} {key : String} (shut : s₀.Shut s key)
    (kept : l ≠ .forget ("idem:" ++ key)) (h : s.step cfg l = some s') : s₀.Shut s' key where
  claimed := by
    rcases Sys.step_idemKeys h with same | ⟨name, rfl, forgot⟩ | ⟨_, _, _, _, _, _, claimed⟩
    · rw [same]
      exact shut.claimed
    · have other : "idem:" ++ key ≠ name := fun same => kept (by rw [same])
      rw [forgot]
      exact List.mem_filter.mpr ⟨shut.claimed, by simpa using other⟩
    · rw [claimed]
      exact List.mem_cons_of_mem _ shut.claimed
  late := by
    intro k c' there own
    rcases Sys.step_create h there with old | new | ⟨fault, env, c, _, hop, ran⟩
    · exact shut.late k c' old own
    · exact Or.inl new
    · have payload := CreateOp.run_payload ran
      have mine : c.payload.idempotencyKey = key := by rw [← payload, own]
      have claimed : c.payload.redisKey ∈ s.world.idemKeys := by
        rw [NotificationCreate.redisKey, mine]
        exact shut.claimed
      have was := shut.late k c hop mine
      rw [← or_assoc, ← or_assoc, or_assoc (b := c.pc = .raised)] at was
      rcases was with turned | entered
      · rcases CreateOp.run_turned claimed turned ran with raised | returned
        · exact Or.inr (Or.inl raised)
        · exact Or.inr (Or.inr (Or.inl returned))
      · exact Or.inr (Or.inr (Or.inr entered))

theorem Sys.step_apart {cfg : Config} {s s' : Sys} {l : Label} {key : String} (spares : s.spares key l)
    (h : s.step cfg l = some s') :
    "idem:" ++ key ∈ s'.world.idemKeys ↔ "idem:" ++ key ∈ s.world.idemKeys := by
  rcases Sys.step_idemKeys h with same | ⟨name, rfl, forgot⟩ | ⟨i, _, _, c, rfl, hop, claimed⟩
  · rw [same]
  · have other : "idem:" ++ key ≠ name := fun same => spares same.symm
    rw [forgot, List.mem_filter]
    simp [other]
  · have other : "idem:" ++ key ≠ c.payload.redisKey := by
      intro same
      exact spares c hop ((String.append_right_inj _).mp same).symm
    rw [claimed, List.mem_cons]
    simp [other]

/-- What the two layers promise of the requests in state `s`. -/
structure Sys.Idempotent (cfg : Config) (s : Sys) : Prop where
  oneRow : ∀ key channel i i', s.world.keyAt i = some (channelIdemKey key channel) →
    s.world.keyAt i' = some (channelIdemKey key channel) → i = i'
  enqueuedOnce : s.world.enqueued.Nodup
  /-- From here on until the key disappears, only requests past their `setnx` return as new. -/
  window : ∀ key s', "idem:" ++ key ∈ s.world.idemKeys →
    Sys.Reach cfg (fun _ l => l ≠ .forget ("idem:" ++ key)) s s' →
    ∀ k c, s'.ops[k]? = some (.create c) → c.payload.idempotencyKey = key → c.pc = .returned false →
      s.Entered k
  /-- Requests with other keys change nothing that suppresses a request with this one. -/
  apart : ∀ key s', Sys.Reach cfg (fun s l => s.spares key l) s s' →
    ("idem:" ++ key ∈ s'.world.idemKeys ↔ "idem:" ++ key ∈ s.world.idemKeys) ∧
    ∀ channel, s'.world.hasKey (channelIdemKey key channel) = s.world.hasKey (channelIdemKey key channel)

theorem shut_window {cfg : Config} {s₀ s : Sys} {key : String}
    (claimed : "idem:" ++ key ∈ s₀.world.idemKeys)
    (h : Sys.Reach cfg (fun _ l => l ≠ .forget ("idem:" ++ key)) s₀ s) : s₀.Shut s key := by
  induction h with
  | start =>
    refine ⟨claimed, fun k c there _ => ?_⟩
    by_cases pc : c.pc = .setnx
    · exact Or.inl pc
    · exact Or.inr (Or.inr (Or.inr ⟨c, there, pc⟩))
  | next _ kept step shut => exact shut.step kept step

theorem reach_apart {cfg : Config} {ok : Sys → Label → Prop} {s₀ s : Sys} {key : String}
    (reached : Sys.Reach cfg ok .initial s₀) (h : Sys.Reach cfg (fun s l => s.spares key l) s₀ s) :
    ("idem:" ++ key ∈ s.world.idemKeys ↔ "idem:" ++ key ∈ s₀.world.idemKeys) ∧
    ∀ channel, s.world.hasKey (channelIdemKey key channel) =
      s₀.world.hasKey (channelIdemKey key channel) := by
  induction h with
  | start => exact ⟨Iff.rfl, fun _ => rfl⟩
  | @next s s' l before spares step ih =>
    have whole : Sys.Reach cfg (fun _ _ => True) .initial s :=
      (reached.mono fun _ _ _ => trivial).trans (before.mono fun _ _ _ => trivial)
    exact ⟨(Sys.step_apart spares step).trans ih.1,
      fun channel => (Sys.step_spares (reach_sound whole) spares step channel).trans (ih.2 channel)⟩

/-- However requests interleave, and whatever calls fail and keys vanish: a key has one row for each
channel, no id is enqueued twice, no request that comes to its `setnx` while the key is there returns
as new, and requests with different keys do not suppress one another. -/
theorem create_idempotent {cfg : Config} {s : Sys}
    (run : Sys.Reach cfg (fun _ l => l.creates = true) .initial s) :
    s.Idempotent cfg ∧ ∀ key key' channel channel',
      channelIdemKey key channel = channelIdemKey key' channel' ↔ key = key' ∧ channel = channel' := by
  refine ⟨⟨?_, ?_, ?_, ?_⟩, fun _ _ _ _ => channelIdemKey_eq_iff⟩
  · exact fun key channel i i' row row' => reach_uniqueKeys run i i' _ row row'
  · have nodup := (reach_enqueuedOnce run).nodup
    exact Multiset.coe_nodup.mp (Multiset.nodup_of_le (Multiset.le_add_right _ _) nodup)
  · intro key s' claimed window k c there own returned
    rcases (shut_window claimed window).late k c there own with pc | pc | pc | entered
    · rw [returned] at pc
      cases pc
    · rw [returned] at pc
      cases pc
    · rw [returned] at pc
      cases pc
    · exact entered
  · exact fun key s' apart => reach_apart run apart

/-- Two requests for an OTP, of which the second claims the key. -/
def twiceRequested : List Label :=
  [.createNotification otpRequest, .createNotification otpRequest] ++ calls 1 1 (accepting true)

theorem create_idempotent_twice : ∃ s,
    Transition.trace (Sys.step defaultConfig) (fun _ l => l.creates) .initial twiceRequested = some s ∧
      s.Idempotent defaultConfig := by
  have ran : (Transition.trace (Sys.step defaultConfig) (fun _ l => l.creates) .initial
      twiceRequested).isSome = true := by decide +kernel
  obtain ⟨s, hs⟩ := Option.isSome_iff_exists.mp ran
  exact ⟨s, hs, (create_idempotent (Transition.trace_reach .start hs)).1⟩

def Label.keepsKeys : Label → Bool
  | .forget _ => false
  | _ => true

/-- The key vanishes and the first request claims it in its turn; then the second, whose `setnx` came
before, returns as new. -/
theorem returned_in_later_window : ∃ s₁ s s',
    Sys.Reach defaultConfig (fun _ l => l.creates = true) .initial s₁ ∧
    "idem:otp-1" ∉ s₁.world.idemKeys ∧
    s₁.step defaultConfig (.run 0 .none (accepting true)) = some s ∧
    "idem:otp-1" ∈ s.world.idemKeys ∧ s.ops.map Op.answer = [none, none] ∧
    Sys.Reach defaultConfig (fun _ l => l.keepsKeys = true) s s' ∧
    s'.ops.map Op.answer = [none, some ([1], false)] := by
  have ran : ((Transition.trace (Sys.step defaultConfig) (fun _ l => l.creates) .initial
      (twiceRequested ++ [.forget "idem:otp-1"])).bind fun s₁ =>
        (s₁.step defaultConfig (.run 0 .none (accepting true))).bind fun s =>
          (Transition.trace (Sys.step defaultConfig) (fun _ l => l.keepsKeys) s
            (calls 1 4 (accepting true))).map fun s' =>
              decide ("idem:otp-1" ∉ s₁.world.idemKeys ∧ "idem:otp-1" ∈ s.world.idemKeys ∧
                s.ops.map Op.answer = [none, none] ∧
                s'.ops.map Op.answer = [none, some ([1], false)])) = some true := by decide +kernel
  obtain ⟨s₁, hs₁, ran⟩ := Option.bind_eq_some_iff.mp ran
  obtain ⟨s, hs, ran⟩ := Option.bind_eq_some_iff.mp ran
  obtain ⟨s', hs', facts⟩ := Option.map_eq_some_iff.mp ran
  obtain ⟨gone, claimed, neither, returned⟩ := of_decide_eq_true facts
  exact ⟨s₁, s, s', Transition.trace_reach .start hs₁, gone, hs, claimed, neither,
    Transition.trace_reach .start hs', returned⟩

end NotificationEngine
