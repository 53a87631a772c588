import NotificationEngine.Clocked
import NotificationEngine.Idempotency
import NotificationEngine.LoggedRuns
import NotificationEngine.TimedKeys

namespace NotificationEngine

/-- `IDEMPOTENCY_EXPIRY`, in milliseconds. -/
def idempotencyExpiry : Int := 86400 * 1000

/-- The service with the deadlines of its keys in Redis. -/
structure Remembering where
  sys : Sys
  deadline : String → Option Int

def Remembering.initial : Remembering := ⟨.initial, fun _ => none⟩

def Remembering.store (r : Remembering) : TimedKeys String := ⟨r.sys.world.idemKeys, r.deadline⟩

/-- Redis after the call of an operation. -/
def Op.callRedis (op : Op) (fault : Fault) (now : Int) (store : TimedKeys String) : TimedKeys String :=
  match op with
  | create c =>
    if fault.effect then
      match c.pc with
      | .setnx => store.setnx c.payload.redisKey
      | .expire => store.expire c.payload.redisKey idempotencyExpiry now
      | _ => store
    else store
  | _ => store

def Remembering.called (r : Remembering) : Label → TimedKeys String
  | .run i fault env => match r.sys.ops[i]? with
    | some op => op.callRedis fault env.now r.store
    | none => r.store
  | _ => r.store

def Label.forgets : Label → Bool
  | forget _ => true
  | _ => false

/-- Redis drops a key on its own, or the service moves. -/
inductive RedisLabel
  | evict (key : String) (now : Int)
  | moves (l : Label)

def Remembering.step (cfg : Config) (r : Remembering) : RedisLabel → Option Remembering
  | .evict key now => (r.store.evict key now).bind fun store =>
    (r.sys.step cfg (.forget key)).map fun s => ⟨s, store.deadline⟩
  | .moves l =>
    if l.forgets then none else (r.sys.step cfg l).map fun s => ⟨s, (r.called l).deadline⟩

def RedisLabel.instant : RedisLabel → Option Int
  | evict _ now => some now
  | moves l => l.instant

/-- The key that a step claims, and when: a `SETNX` that takes effect and finds no such key. -/
def Remembering.claim (r : Remembering) : RedisLabel → Option (String × Int)
  | .moves (.run i fault env) => match r.sys.ops[i]? with
    | some (.create c) => match c.pc with
      | .setnx =>
        if fault.effect = true ∧ c.payload.redisKey ∉ r.sys.world.idemKeys then
          some (c.payload.redisKey, env.now)
        else none
      | _ => none
    | _ => none
  | _ => none

/-- The service with its clock, and all the keys it claimed. -/
def Remembering.claims (cfg : Config) : Transition.Recorder Remembering RedisLabel (String × Int) where
  step := Remembering.step cfg
  instant := RedisLabel.instant
  entry := Remembering.claim

section Steps

variable {cfg : Config} {r r' : Remembering} {e : RedisLabel} {x : String × Int} {clock : Int}

theorem Op.run_store (cfg : Config) (env : Env) (w : World) (fault : Fault) (op : Op)
    (deadline : String → Option Int) :
    (op.run cfg env w fault).1.idemKeys = (op.callRedis fault env.now ⟨w.idemKeys, deadline⟩).keys := by
  cases op with
  | create c =>
    have acted : (c.act cfg env w).1.idemKeys = (match c.pc with
        | .setnx => TimedKeys.setnx ⟨w.idemKeys, deadline⟩ c.payload.redisKey
        | .expire => TimedKeys.expire ⟨w.idemKeys, deadline⟩ c.payload.redisKey idempotencyExpiry env.now
        | _ => ⟨w.idemKeys, deadline⟩).keys := by
      cases pc : c.pc with
      | setnx =>
        simp only [CreateOp.act, pc, TimedKeys.setnx]
        split <;> rfl
      | expire =>
        simp only [CreateOp.act, pc, TimedKeys.expire]
        split <;> rfl
      | insert channel rest =>
        simp only [CreateOp.act, pc]
        split <;> rfl
      | saving id pc' rest =>
        simp only [CreateOp.act, pc]
        split <;> rfl
      | _ => simp [CreateOp.act, pc]
    simp only [Op.run, CreateOp.run_world, Op.callRedis]
    split
    next => exact acted
    next => rfl
  | task id t => rfl
  | done => rfl

/-- The service finds in Redis what Redis keeps. -/
theorem Remembering.moves_store {l : Label} (h : r.step cfg (.moves l) = some r') :
    r.sys.step cfg l = some r'.sys ∧ r'.store = r.called l := by
  simp only [Remembering.step] at h
  split at h
  next => cases h
  next kept =>
    obtain ⟨s, step, rfl⟩ := Option.map_eq_some_iff.mp h
    refine ⟨step, ?_⟩
    have keys : s.world.idemKeys = (r.called l).keys := by
      cases l with
      | run i fault env =>
        obtain ⟨op, hop, rfl⟩ := Option.map_eq_some_iff.mp step
        simp only [Remembering.called, hop]
        exact Op.run_store cfg env r.sys.world fault op r.deadline
      | forget key => exact absurd rfl kept
      | _ =>
        rcases Sys.step_idemKeys step with same | ⟨key, is, _⟩ | ⟨_, _, _, _, is, _⟩
        · exact same
        · cases is
        · cases is
    simp only [Remembering.store, keys]

theorem Remembering.evict_store {key : String} {now : Int} (h : r.step cfg (.evict key now) = some r') :
    r.sys.step cfg (.forget key) = some r'.sys ∧ r.store.evict key now = some r'.store := by
  obtain ⟨store, gone, h⟩ := Option.bind_eq_some_iff.mp h
  obtain ⟨s, step, rfl⟩ := Option.map_eq_some_iff.mp h
  refine ⟨step, gone.trans (congrArg some ?_)⟩
  cases Option.some.inj step
  unfold TimedKeys.evict at gone
  split at gone
  next => cases gone
  next =>
    split at gone
    next => cases gone; rfl
    next => cases gone

end Steps

/-- A request that has claimed its key, whatever became of it then. -/
def CreatePc.past : CreatePc → Bool
  | setnx => false
  | returned isDuplicate => !isDuplicate
  | raised => false
  | _ => true

section Runs

variable {cfg : Config} {start : Int} {a b : Transition.Logged Remembering (String × Int)} {e : RedisLabel}

/-- A request gets past the key only by claiming it. -/
theorem CreateOp.run_past {env : Env} {w : World} {fault : Fault} {c c' : CreateOp}
    (ran : (c.run cfg env w fault).2 = .create c') (past : c'.pc.past = true) :
    c.pc.past = true ∨ c.pc = .setnx ∧ fault.effect = true ∧ c.payload.redisKey ∉ w.idemKeys := by
  cases pc : c.pc with
  | setnx =>
    cases fault with
    | none =>
      cases ran
      by_cases there : c.payload.redisKey ∈ w.idemKeys
      · simp [CreateOp.act, pc, there, CreatePc.past] at past
      · exact Or.inr ⟨rfl, rfl, there⟩
    | raised effect =>
      cases ran
      simp [CreateOp.afterRaise, pc, CreatePc.past] at past
    | stopped effect => cases ran
  | returned isDuplicate =>
    cases fault with
    | none =>
      cases ran
      simp only [CreateOp.act, pc] at past
      exact Or.inl past
    | raised effect =>
      cases ran
      simp [CreateOp.afterRaise, pc, CreatePc.past] at past
    | stopped effect => cases ran
  | raised =>
    cases fault with
    | none =>
      cases ran
      simp [CreateOp.act, pc, CreatePc.past] at past
    | raised effect =>
      cases ran
      simp [CreateOp.afterRaise, pc, CreatePc.past] at past
    | stopped effect => cases ran
  | _ => exact Or.inl rfl

/-- Each request past its key has its claim in the log. -/
def Claimed (a : Transition.Logged Remembering (String × Int)) : Prop :=
  ∀ (k : Nat) (c : CreateOp), a.state.sys.ops[k]? = some (.create c) → c.pc.past = true →
    ∃ now, (c.payload.redisKey, now) ∈ a.log

theorem Claimed.step (claimed : Claimed a) (h : (Remembering.claims cfg).next a e = some b) : Claimed b := by
  obtain ⟨step, _, log⟩ := Transition.Recorder.next_eq_some h
  have grown {key : String} (known : ∃ now, (key, now) ∈ a.log) : ∃ now, (key, now) ∈ b.log := by
    obtain ⟨now, mem⟩ := known
    rw [log]
    exact ⟨now, List.mem_append_left _ mem⟩
  intro k c' there past
  cases e with
  | evict key now =>
    obtain ⟨forgot, _⟩ := Remembering.evict_store step
    have ops : b.state.sys.ops = a.state.sys.ops := (congrArg Sys.ops (Option.some.inj forgot)).symm
    rw [ops] at there
    exact grown (claimed k c' there past)
  | moves l =>
    obtain ⟨moved, _⟩ := Remembering.moves_store step
    rcases Sys.step_create moved there with old | new | ⟨fault, env, c, rfl, hop, ran⟩
    · exact grown (claimed k c' old past)
    · rw [new] at past
      cases past
    · rw [show c'.payload.redisKey = c.payload.redisKey by rw [CreateOp.run_payload ran]]
      rcases CreateOp.run_past ran past with before | ⟨pc, effect, new⟩
      · exact grown (claimed k c hop before)
      · have claims : (Remembering.claims cfg).entry a.state (.moves (.run k fault env)) =
            some (c.payload.redisKey, env.now) := by
          simp [Remembering.claims, Remembering.claim, hop, pc, effect, new]
        refine ⟨env.now, ?_⟩
        rw [log, claims]
        exact List.mem_append_right _ (List.mem_singleton_self _)

end Runs

end NotificationEngine
