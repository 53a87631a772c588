import Mathlib.Data.Nat.Find
import NotificationEngine.ChainSteps

namespace NotificationEngine

open StateTransition

/-- The `k`-th dispatch fails, has a retry left and reaches the broker. -/
def Outside.Retries (cfg : Config) (out : Outside) (maxRetries k : Nat) : Prop :=
  k < maxRetries ∧ (out.answer k).retryCode.isSome = true ∧
    ((out.service k).rmqConnection = none ∨ cfg.aioPika.isClosedIsMethod = true)

theorem Outside.exists_last (cfg : Config) (out : Outside) (maxRetries : Nat) :
    ∃ e ≤ maxRetries, ¬out.Retries cfg maxRetries e ∧ ∀ i < e, out.Retries cfg maxRetries i := by
  classical
  have some_end : ∃ k, ¬out.Retries cfg maxRetries k := ⟨maxRetries, fun h => lt_irrefl _ h.1⟩
  refine ⟨Nat.find some_end, ?_, Nat.find_spec some_end, ?_⟩
  · exact Nat.find_min' some_end fun h => lt_irrefl _ h.1
  · exact fun i hi => not_not.mp (Nat.find_min some_end hi)

/-- Each dispatch that publishes a retry leads to the next. -/
theorem reaches_dispatch (cfg : Config) (out : Outside) (j : Nat) (n : Notification)
    (fresh : n.retryCount = 0) (k : Nat)
    (retries : ∀ i < k, out.Retries cfg (cfg.retryConfigFor n.eventType).maxRetries i) :
    ∃ n' calls', Leads cfg out j (.new n) (.queuedAt n' k 0 k calls') ∧
      n'.retryCount = k ∧ n'.eventType = n.eventType := by
  induction k with
  | zero => exact ⟨n, 0, .refl, fresh, rfl⟩
  | succ k ih =>
    obtain ⟨n₁, calls₁, reached, count, event⟩ := ih fun i hi => retries i (by omega)
    obtain ⟨left, retryable, connects⟩ := retries k (by omega)
    obtain ⟨n₂, calls₂, again, count', event'⟩ := reaches_again cfg out j n₁ k 0 k calls₁
      retryable (by rw [count, event]; exact left) connects
    exact ⟨n₂, calls₂, reached.trans again, by rw [count', count], event'.trans event⟩

theorem decisive_eq_some {out : Outside} {maxRetries k : Nat} (within : k ≤ maxRetries)
    (before : ∀ i < k, (out.answer i).retryCode.isSome = true)
    (settled : (out.answer k).retryCode = none) : out.decisive maxRetries = some k := by
  refine List.find?_range_eq_some.mpr ⟨by simp [settled], by simp; omega, fun i hi => ?_⟩
  obtain ⟨code, hcode⟩ := Option.isSome_iff_exists.mp (before i hi)
  simp [hcode]

theorem decisive_eq_none {out : Outside} {maxRetries : Nat}
    (all : ∀ i ≤ maxRetries, (out.answer i).retryCode.isSome = true) :
    out.decisive maxRetries = none := by
  refine List.find?_eq_none.mpr fun i hi => ?_
  obtain ⟨code, hcode⟩ := Option.isSome_iff_exists.mp (all i (Nat.lt_succ_iff.mp (List.mem_range.mp hi)))
  simp [hcode]

theorem eval_eq_of_reaches {cfg : Config} {out : Outside} {j : Nat} {c c' : Chain}
    (reached : Leads cfg out j c c') (stopped : c'.advance cfg out j = none)
    (P : Chain → Prop) : (∃ last ∈ eval (Chain.advance cfg out j) c, P last) ↔ P c' := by
  have last := mem_eval.mpr ⟨reached, stopped⟩
  constructor
  · rintro ⟨c'', mem, holds⟩
    exact Part.mem_unique mem last ▸ holds
  · exact fun holds => ⟨c', last, holds⟩

/-- The chain of a new notification stops, and with the right verdict exactly if every retry it
asks for can be published. -/
theorem chain_verdict_iff (cfg : Config) (out : Outside) (j : Nat) (payload : NotificationCreate)
    (channel : NotificationChannel) (ctime : Int) :
    (∃ c ∈ eval (Chain.advance cfg out j) (.new (payload.row channel ctime)),
        c.RightVerdict out (cfg.retryConfigFor payload.eventType).maxRetries j) ↔
      out.Connects cfg (cfg.retryConfigFor payload.eventType).maxRetries := by
  generalize hmax : (cfg.retryConfigFor payload.eventType).maxRetries = maxRetries
  -- `e` is the last dispatch of the chain
  obtain ⟨e, within, ends, goes⟩ := out.exists_last cfg maxRetries
  obtain ⟨n, calls, reached, count, event⟩ := reaches_dispatch cfg out j
    (payload.row channel ctime) rfl e (by
      intro i hi
      exact hmax ▸ goes i hi)
  have budget : (cfg.retryConfigFor n.eventType).maxRetries = maxRetries := by rw [event]; exact hmax
  have earlier : ∀ i < e, (out.answer i).retryCode.isSome = true := fun i hi => (goes i hi).2.1
  cases outcome : (out.answer e).retryCode with
  | none =>
    obtain ⟨n', deliveries, calls', settled, count', status⟩ := reaches_settled cfg out j n e 0 e
      calls outcome
    have decisive := decisive_eq_some within earlier outcome
    rw [eval_eq_of_reaches (reached.trans settled) rfl]
    refine iff_of_true ⟨Nat.succ_le_succ within, n', rfl, ?_, count'.trans count, ?_⟩ ?_
    · rw [status, Outside.finalStatus, decisive]
    · rw [decisive]; rfl
    · intro k hk retried
      rcases Nat.lt_or_ge k e with before | after
      · exact (goes k before).2.2
      · exact absurd (retried e after) (by simp [outcome])
  | some code =>
    have retryable : (out.answer e).retryCode.isSome = true := by rw [outcome]; rfl
    rcases Nat.lt_or_eq_of_le within with left | rfl
    · have broken : ¬((out.service e).rmqConnection = none ∨ cfg.aioPika.isClosedIsMethod = true) :=
        fun connects => ends ⟨left, retryable, connects⟩
      obtain ⟨n', calls', stuck, status⟩ := reaches_broken cfg out j n e 0 e calls retryable
        (by rw [budget, count]; omega) broken
      rw [eval_eq_of_reaches (reached.trans stuck) rfl]
      refine iff_of_false ?_ ?_
      · rintro ⟨_, m, hm, final, _⟩
        cases hm
        rw [status, Outside.finalStatus] at final
        split at final
        next => cases final
        next => split at final <;> cases final
      · intro connects
        refine broken (connects e left fun i hi => ?_)
        rcases Nat.lt_or_eq_of_le hi with before | rfl
        · exact earlier i before
        · exact retryable
    · obtain ⟨n', m, calls', exhausted, status, count', names⟩ := reaches_last cfg out j n e 0 e calls
        retryable (by rw [budget, count]; omega)
      have decisive : out.decisive e = none := decisive_eq_none fun i hi => by
        rcases Nat.lt_or_eq_of_le hi with before | rfl
        · exact earlier i before
        · exact retryable
      rw [eval_eq_of_reaches (reached.trans exhausted) rfl]
      refine iff_of_true ⟨le_rfl, n', rfl, ?_, count'.trans count, ?_⟩ ?_
      · rw [status, Outside.finalStatus, decisive]
      · rw [decisive]
        exact ⟨m, rfl, names⟩
      · exact fun k hk _ => (goes k hk).2.2

/-- The provider stays down, and the service keeps the connection of its first retry. -/
def alwaysDown : Outside where
  answer _ := .unhealthy
  service k := if k = 0 then .fresh else .connected
  now _ := 0
  draw _ := 0

/-- The chain of an OTP stops after its second failure: it is RETRYING and has no dead letter. -/
theorem retrying_without_retry :
    (∃ c ∈ eval (Chain.advance defaultConfig alwaysDown 1) (.new (otpRequest.row .sms 0)),
      (∃ n, c.row = some n ∧ n.status = .retrying) ∧ c.deadLetters = []) ∧
    ¬∃ c ∈ eval (Chain.advance defaultConfig alwaysDown 1) (.new (otpRequest.row .sms 0)),
      c.RightVerdict alwaysDown 3 1 := by
  obtain ⟨n, calls, reached, count, event⟩ := reaches_dispatch defaultConfig alwaysDown 1
    (otpRequest.row .sms 0) rfl 1 (by
      intro i hi
      obtain rfl : i = 0 := by omega
      exact ⟨by decide, rfl, .inl rfl⟩)
  have budget : n.retryCount + 1 ≤ (defaultConfig.retryConfigFor n.eventType).maxRetries := by
    rw [event, count]
    decide
  obtain ⟨n', calls', stuck, status⟩ := reaches_broken defaultConfig alwaysDown 1 n 1 0 1 calls rfl
    budget (by decide)
  rw [eval_eq_of_reaches (reached.trans stuck) rfl, eval_eq_of_reaches (reached.trans stuck) rfl]
  refine ⟨⟨⟨n', rfl, status⟩, rfl⟩, ?_⟩
  rintro ⟨_, m, hm, final, _⟩
  cases hm
  rw [status] at final
  exact absurd final (by decide)

end NotificationEngine
