import NotificationEngine.CreateAnswer

namespace NotificationEngine

/-- The status the REST endpoint answers with. -/
def createStatus : Option (List Nat × Bool) → Nat
  | none => 500
  | some (_, isDuplicate) => if isDuplicate then 409 else 201

/-- The request is answered as a duplicate, and rows and sorted set are as before. -/
structure World.Duplicate (w w' : World) (answer : Option (List Nat × Bool)) : Prop where
  answered : answer = some ([], true)
  status : createStatus answer = 409
  rows : w'.rows = w.rows
  queue : w'.queue = w.queue

theorem World.hasKey_skipId_of {w : World} {key : String} (taken : w.hasKey key = true) :
    w.skipId.hasKey key = true := by
  obtain ⟨i, mem, holds⟩ := List.any_eq_true.mp taken
  have below := List.mem_range.mp mem
  exact List.any_eq_true.mpr ⟨i, List.mem_range.mpr (Nat.lt_succ_of_lt below), holds⟩

/-- If every channel has its row, the loop adds nothing, and it returns as for a new request
unless a string is too long. -/
theorem loop_taken (cfg : Config) (env : Nat → Env) {c : CreateOp} (channels : List NotificationChannel) :
    ∀ (fuel k : Nat) (w : World), 3 * channels.length ≤ fuel →
      (∀ channel ∈ channels, w.hasKey (channelIdemKey c.payload.idempotencyKey channel) = true) →
      let r := (c.nextChannel channels).finish cfg ⟨fun _ => .none, env⟩ fuel k w
      (r.2.answer = none ∨ r.2.answer = some (c.created, false)) ∧
        r.1.rows = w.rows ∧ r.1.queue = w.queue := by
  induction channels with
  | nil =>
    intro fuel k w _ _
    rw [finish_ended rfl]
    exact ⟨Or.inr rfl, rfl, rfl⟩
  | cons channel rest ih =>
    intro fuel k w enough taken
    obtain ⟨fuel, rfl⟩ : ∃ m, fuel = m + 3 := ⟨fuel - 3, by simp only [List.length_cons] at enough; omega⟩
    by_cases fits : c.payload.Fits channel
    · rw [round_taken fits (taken channel List.mem_cons_self)]
      refine ih (fuel + 1) (k + 2) w.skipId ?_ ?_
      · simp only [List.length_cons] at enough
        omega
      · intro other mem
        exact World.hasKey_skipId_of (taken other (List.mem_cons_of_mem _ mem))
    · rw [round_unfit fits]
      exact ⟨Or.inl rfl, rfl, rfl⟩

/-- A request whose channels all have their rows is answered as a duplicate exactly if Redis still
knows its key. -/
theorem duplicate_answered_iff (cfg : Config) (p : NotificationCreate) (env : Nat → Env) (w : World)
    (stored : ∀ channel ∈ eventChannelMap p.eventType,
      w.hasKey (channelIdemKey p.idempotencyKey channel) = true) :
    w.Duplicate (w.create cfg p env).1 (w.create cfg p env).2 ↔ p.redisKey ∈ w.idemKeys := by
  by_cases claimed : p.redisKey ∈ w.idemKeys
  · rw [create_claimed cfg p env claimed]
    exact iff_of_true ⟨rfl, rfl, rfl, rfl⟩ claimed
  · refine iff_of_false (fun duplicate => ?_) claimed
    have answered := duplicate.answered
    have loop := loop_taken cfg env (c := ⟨p, [], .expire⟩) (eventChannelMap p.eventType)
      (3 * (eventChannelMap p.eventType).length) 2 { w with idemKeys := p.redisKey :: w.idemKeys }
      le_rfl stored
    rw [create_unclaimed cfg p env claimed] at answered
    rcases loop.1 with raised | returned
    · exact nomatch raised.symm.trans answered
    · exact nomatch returned.symm.trans answered

/-- The database after the one request of an OTP, its Redis key being `idemKeys`. -/
def otpStored (idemKeys : List String) : World :=
  { World.initial with
    rows := fun i => if i = 1 then some (otpRequest.row .sms 0) else none
    nextId := 2
    idemKeys := idemKeys }

theorem duplicate_answered_otp :
    (otpStored ["idem:otp-1"]).Duplicate
      ((otpStored ["idem:otp-1"]).create defaultConfig otpRequest fun _ => accepting true).1
      ((otpStored ["idem:otp-1"]).create defaultConfig otpRequest fun _ => accepting true).2 :=
  (duplicate_answered_iff defaultConfig otpRequest _ (otpStored ["idem:otp-1"]) (by decide)).mpr (by decide)

/-- Once the Redis key is gone the repeated request is answered with 201 and no notification. -/
theorem expired_key_answers_created :
    let r := (otpStored []).create defaultConfig otpRequest fun _ => accepting true
    (∀ channel ∈ eventChannelMap otpRequest.eventType,
      (otpStored []).hasKey (channelIdemKey otpRequest.idempotencyKey channel) = true) ∧
    r.2 = some ([], false) ∧ createStatus r.2 = 201 ∧ ¬(otpStored []).Duplicate r.1 r.2 := by
  have returned : ((otpStored []).create defaultConfig otpRequest fun _ => accepting true).2 =
      some ([], false) := by decide +kernel
  refine ⟨by decide +kernel, returned, by rw [returned]; rfl, fun duplicate => ?_⟩
  exact nomatch returned.symm.trans duplicate.answered

end NotificationEngine
