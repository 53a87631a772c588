import NotificationEngine.ChannelLoop

namespace NotificationEngine

/-- What `create_notification` returns, its rows by their ids; `none` is a raised exception. -/
def Op.answer : Op → Option (List Nat × Bool)
  | create c => match c.pc with
    | .returned isDuplicate => some (c.created, isDuplicate)
    | _ => none
  | _ => none

/-- A run of `create_notification` all of whose calls are answered, and what it returns. -/
def World.create (cfg : Config) (p : NotificationCreate) (env : Nat → Env) (w : World) :
    World × Option (List Nat × Bool) :=
  let c : CreateOp := ⟨p, [], .setnx⟩
  let r := c.finish cfg ⟨fun _ => .none, env⟩ c.rank 0 w
  (r.1, r.2.answer)

section Rounds

variable {cfg : Config} {env : Nat → Env} {fuel k : Nat} {w : World} {c : CreateOp}
  {channel : NotificationChannel} {rest : List NotificationChannel}

theorem round_unfit (unfit : ¬c.payload.Fits channel) :
    (c.nextChannel (channel :: rest)).finish cfg ⟨fun _ => .none, env⟩ (fuel + 3) k w =
      (w.skipId, .create { c with pc := .raised }) := by
  have live : 0 < (c.nextChannel (channel :: rest)).rank := Nat.succ_pos _
  rw [finish_act live rfl]
  rcases insertResult_cases (c := c.nextChannel (channel :: rest)) w (env k) channel rfl with
    ⟨result, _⟩ | ⟨_, fits, _⟩ | ⟨_, fits, _⟩
  · have acted : (c.nextChannel (channel :: rest)).act cfg (env k) w =
        (w.skipId, { c with pc := .raised }) := by
      simp only [CreateOp.act, CreateOp.nextChannel] at result ⊢
      simp only [result]
    rw [acted]
    exact finish_ended rfl
  · exact absurd fits unfit
  · exact absurd fits unfit

theorem round_taken (fits : c.payload.Fits channel)
    (taken : w.hasKey (channelIdemKey c.payload.idempotencyKey channel) = true) :
    (c.nextChannel (channel :: rest)).finish cfg ⟨fun _ => .none, env⟩ (fuel + 3) k w =
      (c.nextChannel rest).finish cfg ⟨fun _ => .none, env⟩ (fuel + 1) (k + 2) w.skipId := by
  have live : 0 < (c.nextChannel (channel :: rest)).rank := Nat.succ_pos _
  rw [finish_act live rfl]
  rcases insertResult_cases (c := c.nextChannel (channel :: rest)) w (env k) channel rfl with
    ⟨_, unfit⟩ | ⟨result, _, _⟩ | ⟨_, _, free⟩
  · exact absurd fits unfit
  · have acted : (c.nextChannel (channel :: rest)).act cfg (env k) w =
        (w.skipId, { c with pc := .rollback rest }) := by
      simp only [CreateOp.act, CreateOp.nextChannel] at result ⊢
      simp only [result]
    let c₁ : CreateOp := { c with pc := .rollback rest }
    have rank : 0 < c₁.rank := Nat.succ_pos _
    rw [acted]
    exact finish_act rank rfl
  · have clash := taken.symm.trans free
    cases clash

end Rounds

section Claim

variable (cfg : Config) (p : NotificationCreate) (env : Nat → Env) {w : World}

theorem create_claimed (claimed : p.redisKey ∈ w.idemKeys) :
    w.create cfg p env = (w, some ([], true)) := by
  let c : CreateOp := ⟨p, [], .setnx⟩
  have live : 0 < c.rank := Nat.succ_pos _
  have acted : c.act cfg (env 0) w = (w, ⟨p, [], .returned true⟩) := by
    simp [CreateOp.act, c, claimed]
  have ended : c.finish cfg ⟨fun _ => .none, env⟩ c.rank 0 w =
      (w, .create ⟨p, [], .returned true⟩) := by
    refine (finish_act live rfl).trans ?_
    rw [acted]
    exact finish_ended rfl
  exact congrArg (fun r => (r.1, r.2.answer)) ended

theorem create_unclaimed (free : p.redisKey ∉ w.idemKeys) :
    let r := ((⟨p, [], .expire⟩ : CreateOp).nextChannel (eventChannelMap p.eventType)).finish cfg
      ⟨fun _ => .none, env⟩ (3 * (eventChannelMap p.eventType).length) 2
      { w with idemKeys := p.redisKey :: w.idemKeys }
    w.create cfg p env = (r.1, r.2.answer) := by
  let c : CreateOp := ⟨p, [], .setnx⟩
  let c₁ : CreateOp := ⟨p, [], .expire⟩
  have live : 0 < c.rank := Nat.succ_pos _
  have live₁ : 0 < c₁.rank := Nat.succ_pos _
  have acted : c.act cfg (env 0) w = ({ w with idemKeys := p.redisKey :: w.idemKeys }, c₁) := by
    simp [CreateOp.act, c, c₁, free]
  have ran : c.finish cfg ⟨fun _ => .none, env⟩ c.rank 0 w =
      (c₁.nextChannel (eventChannelMap p.eventType)).finish cfg ⟨fun _ => .none, env⟩
        (3 * (eventChannelMap p.eventType).length) 2 { w with idemKeys := p.redisKey :: w.idemKeys } := by
    refine (finish_act live rfl).trans ?_
    rw [acted]
    exact finish_act live₁ rfl
  exact congrArg (fun r => (r.1, r.2.answer)) ran

end Claim

end NotificationEngine
