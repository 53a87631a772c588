import NotificationEngine.CappedWindows
import NotificationEngine.Snapshots

namespace NotificationEngine

namespace PyInt

/-- `base_delay * 2 ** exponent` where that is an `int`: a negative exponent gives a `float`. -/
def backoff (baseDelay exponent : Int) : Option Int :=
  if exponent < 0 then none else some (baseDelay * 2 ^ exponent.toNat)

/-- `random.randint` on any integers. -/
def randint (low high : Int) (draw : Nat) : Option Int :=
  if low ≤ high then some (low + draw % (high - low + 1)) else none

/-- `get_retry_delay` on any integers; `none` is an error raised by `randint` or a `float` on the
way to it. -/
def getRetryDelay (retryCount baseDelay maxDelay : Int) (useJitter : Bool) (draw : Nat) : Option Int :=
  (backoff baseDelay (retryCount - 1)).bind fun low =>
    (backoff baseDelay retryCount).bind fun high =>
      if useJitter then randint (min low maxDelay) (min high maxDelay) draw
      else some (min low maxDelay)

/-- Exactly the values of the range can be drawn. -/
theorem randint_eq_some_iff {low high value : Int} :
    (∃ draw, randint low high draw = some value) ↔ low ≤ value ∧ value ≤ high := by
  constructor
  · rintro ⟨draw, h⟩
    unfold randint at h
    split at h
    next nonempty =>
      cases h
      have nonneg := Int.emod_nonneg (draw : Int) (b := high - low + 1) (by omega)
      have small := Int.emod_lt_of_pos (draw : Int) (b := high - low + 1) (by omega)
      omega
    next => cases h
  · rintro ⟨above, below⟩
    refine ⟨(value - low).toNat, ?_⟩
    have offset : ((value - low).toNat : Int) = value - low := Int.toNat_of_nonneg (by omega)
    have small : (value - low) % (high - low + 1) = value - low :=
      Int.emod_eq_of_lt (by omega) (by omega)
    rw [randint, if_pos (above.trans below), offset, small]
    congr 1
    omega

theorem randint_cast (low high draw : Nat) :
    randint low high draw = (NotificationEngine.randint low high draw).map Int.ofNat := by
  unfold randint NotificationEngine.randint
  by_cases nonempty : low ≤ high
  · rw [if_pos (Int.ofNat_le.mpr nonempty), if_pos nonempty, Option.map_some]
    congr 1
    have width : (high : Int) - low + 1 = (high - low + 1 : Nat) := by omega
    rw [width]
    rfl
  · rw [if_neg (fun h => nonempty (Int.ofNat_le.mp h)), if_neg nonempty]
    rfl

end PyInt

section Windows

variable {baseDelay maxDelay : Int} {n m : Nat} {useJitter : Bool} {draw : Nat}

theorem doubling_lt (pos : 0 < baseDelay) (k : Nat) : baseDelay * 2 ^ k < baseDelay * 2 ^ (k + 1) := by
  have term : 0 < baseDelay * 2 ^ k := Int.mul_pos pos (Int.pow_pos (by decide))
  have next : baseDelay * 2 ^ (k + 1) = baseDelay * 2 ^ k * 2 := by rw [Int.pow_succ, Int.mul_assoc]
  omega

theorem backoff_nat (k : Nat) : PyInt.backoff baseDelay k = some (baseDelay * 2 ^ k) := by
  rw [PyInt.backoff, if_neg (by omega), Int.toNat_natCast]

/-- From the first retry on a delay comes back, and it is one of its window. -/
theorem getRetryDelay_window (maxDelay : Int) (useJitter : Bool) (draw : Nat) (pos : 0 < baseDelay)
    (first : 1 ≤ n) :
    ∃ delay, PyInt.getRetryDelay n baseDelay maxDelay useJitter draw = some delay ∧
      delay ∈ CappedWindows.window (fun k => baseDelay * 2 ^ k) maxDelay (n - 1) := by
  obtain ⟨k, rfl⟩ : ∃ k, n = k + 1 := ⟨n - 1, by omega⟩
  have nonempty := CappedWindows.low_le_high (f := fun k => baseDelay * 2 ^ k)
    (monotone_nat_of_le_succ fun k => Int.le_of_lt (doubling_lt pos k)) maxDelay k
  have low : PyInt.backoff baseDelay (((k + 1 : Nat) : Int) - 1) = some (baseDelay * 2 ^ k) := by
    rw [← backoff_nat]
    congr 1
    omega
  simp only [PyInt.getRetryDelay, low, backoff_nat, Option.bind_some]
  cases useJitter with
  | false => exact ⟨_, rfl, le_rfl, nonempty⟩
  | true =>
    have drawn : PyInt.randint (min (baseDelay * 2 ^ k) maxDelay) (min (baseDelay * 2 ^ (k + 1)) maxDelay)
        draw = some _ := if_pos nonempty
    exact ⟨_, drawn, PyInt.randint_eq_some_iff.mp ⟨_, drawn⟩⟩

/-- On the numbers the service passes, the delay is the one `_schedule_retry` gets. -/
theorem getRetryDelay_cast (baseDelay maxDelay : Nat) (useJitter : Bool) (draw : Nat) (first : 1 ≤ n) :
    PyInt.getRetryDelay n baseDelay maxDelay useJitter draw =
      (getRetryDelay n baseDelay maxDelay useJitter draw).map Int.ofNat := by
  obtain ⟨k, rfl⟩ : ∃ k, n = k + 1 := ⟨n - 1, by omega⟩
  have capped (exponent : Nat) : min ((baseDelay : Int) * 2 ^ exponent) maxDelay =
      (min (baseDelay * 2 ^ exponent) maxDelay : Nat) := by
    have term : ((baseDelay * 2 ^ exponent : Nat) : Int) = (baseDelay : Int) * 2 ^ exponent := by
      rw [Int.natCast_mul, Int.natCast_pow]
      rfl
    omega
  have before : ((k + 1 : Nat) : Int) - 1 = (k : Nat) := by omega
  rw [PyInt.getRetryDelay, before, backoff_nat, backoff_nat]
  simp only [Option.bind_some, capped, getRetryDelay, Nat.add_sub_cancel]
  cases useJitter with
  | false => rfl
  | true => exact PyInt.randint_cast _ _ draw

end Windows

/-- The delay of a scheduled retry is one that `get_retry_delay` returned for its count. -/
def Task.Delayed (cfg : Config) : Task → Prop
  | dispatch (.commitRetrying n _ count delay) => 1 ≤ count ∧ ∃ draw,
    PyInt.getRetryDelay count (cfg.retryConfigFor n.eventType).baseDelay
      (cfg.retryConfigFor n.eventType).maxDelay (cfg.retryConfigFor n.eventType).useJitter draw =
        some (delay : Int)
  | _ => True

section Calls

variable {cfg : Config} {env : Env} {id : Nat} {q : QueueService} {db : Option Notification} {t u : Task}

theorem scheduleRetry_delayed {n : Notification} {code : NotificationErrorCode}
    (h : (scheduleRetry cfg env n code).map Task.dispatch = some u) : u.Delayed cfg := by
  unfold scheduleRetry at h
  simp only at h
  split at h
  next =>
    cases h
    trivial
  next =>
    obtain ⟨pc, scheduled, rfl⟩ := Option.map_eq_some_iff.mp h
    obtain ⟨delay, given, rfl⟩ := Option.map_eq_some_iff.mp scheduled
    have first : 1 ≤ n.retryCount + 1 := by omega
    refine ⟨first, env.draw, ?_⟩
    rw [getRetryDelay_cast _ _ _ _ first, given]
    rfl

theorem Task.act_delayed (h : (t.act cfg env id q db).next = some u) : u.Delayed cfg := by
  cases Task.act_goes h with
  | @scheduled pc n code delay own retryable within =>
    rcases own with rfl | rfl
    · simp only [Task.act, DispatchPc.act] at h
      split at h
      next => cases h
      next => exact scheduleRetry_delayed h
    · simp only [Task.act, DispatchPc.act] at h
      rcases afterSend_cases cfg env n with ⟨_, is⟩ | ⟨_, ⟨_, is⟩ | ⟨_, _, ⟨_, is⟩ | ⟨_, is⟩⟩⟩
      · rw [is] at h
        cases h
      · rw [is] at h
        cases h
      · rw [is] at h
        cases h
      · rw [is] at h
        exact scheduleRetry_delayed h
  | _ => trivial

theorem Task.run_delayed {fault : Fault} (h : (t.run cfg env id q db fault).next = some u) :
    u.Delayed cfg := by
  cases fault with
  | none => exact Task.act_delayed h
  | stopped effect => cases h
  | raised effect =>
    have landed : t.afterRaise = some u := h
    unfold Task.afterRaise at landed
    split at landed <;> cases landed <;> trivial

end Calls

/-- Every retry about to be committed waits for a delay that `get_retry_delay` returned. -/
def Note.Delayed (cfg : Config) (n : Note) : Prop := ∀ t ∈ n.tasks, t.Delayed cfg

theorem Note.Delayed.step {cfg : Config} {j : Nat} {n n' : Note} {e : NoteLabel}
    (delayed : n.Delayed cfg) (h : Note.Step cfg j n e n') : n'.Delayed cfg := by
  intro u mem
  rcases h.mem_tasks mem with there | start | ⟨t, fault, env, q, _, _, next⟩
  · exact delayed u there
  · cases start <;> trivial
  · exact Task.run_delayed next

theorem Note.absent_delayed (cfg : Config) : Note.absent.Delayed cfg :=
  fun t ht => absurd ht (Multiset.notMem_zero t)

theorem reach_delayed {cfg : Config} {ok : Sys → Label → Prop} {s : Sys} {id : Nat} {t : Task}
    (run : Sys.Reach cfg ok .initial s) (running : .task id t ∈ s.ops) : t.Delayed cfg := by
  have noted : Transition.Reach (Note.Step cfg id) (fun _ _ => True) Note.absent (s.note id) :=
    note_reach (fun _ _ _ _ _ => trivial) run
  have delayed : (s.note id).Delayed cfg :=
    noted.invariant (Note.absent_delayed cfg) fun _ _ _ delayed _ step => delayed.step step
  exact delayed t (List.mem_filterMap.mpr ⟨_, running, by simp [Op.taskOf]⟩)

/-- The delays of two retries, the second later than the first: each lies in the window of its
retry, they come in order, and they are equal only at the cap or where the two windows meet. -/
structure PyInt.Ordered (baseDelay maxDelay : Int) (n m : Nat) (delay delay' : Int) : Prop where
  low : min (baseDelay * 2 ^ (n - 1)) maxDelay ≤ delay
  high : delay ≤ min (baseDelay * 2 ^ n) maxDelay
  le : delay ≤ delay'
  meet : delay = delay' → delay = maxDelay ∨ m = n + 1 ∧ delay = baseDelay * 2 ^ n

theorem windows_ordered {baseDelay maxDelay delay delay' : Int} {n m : Nat} (pos : 0 < baseDelay)
    (first : 1 ≤ n) (lt : n < m)
    (here : delay ∈ CappedWindows.window (fun k => baseDelay * 2 ^ k) maxDelay (n - 1))
    (there : delay' ∈ CappedWindows.window (fun k => baseDelay * 2 ^ k) maxDelay (m - 1)) :
    PyInt.Ordered baseDelay maxDelay n m delay delay' := by
  have grows (k : Nat) := doubling_lt pos k
  obtain ⟨k, rfl⟩ : ∃ k, n = k + 1 := ⟨n - 1, by omega⟩
  have before : k < m - 1 := by omega
  refine ⟨here.1, here.2, CappedWindows.ordered
    (monotone_nat_of_le_succ fun k => Int.le_of_lt (grows k)) before here there, fun same => ?_⟩
  rcases CappedWindows.shared (strictMono_nat_of_lt_succ grows) before here (same ▸ there) with
    capped | ⟨next, boundary⟩
  · exact Or.inl capped
  · refine Or.inr ⟨by omega, ?_⟩
    rw [boundary, next]

/-- From the first retry on `get_retry_delay` returns a delay of its window, whatever `randint` draws,
the delays of later retries are no shorter, and the service asks for no other delay. -/
theorem retry_windows (cfg : Config) :
    (∀ baseDelay maxDelay : Int, 0 < baseDelay → 0 < maxDelay → ∀ n m : Nat, 1 ≤ n → n < m →
      ∀ (useJitter : Bool) (draw draw' : Nat), ∃ delay delay',
        PyInt.getRetryDelay n baseDelay maxDelay useJitter draw = some delay ∧
        PyInt.getRetryDelay m baseDelay maxDelay useJitter draw' = some delay' ∧
        PyInt.Ordered baseDelay maxDelay n m delay delay') ∧
    ∀ s, Sys.Reach cfg (fun _ _ => True) .initial s → ∀ (id : Nat) n code (count delay : Nat),
      .task id (.dispatch (.commitRetrying n code count delay)) ∈ s.ops →
        1 ≤ count ∧ ∃ draw, PyInt.getRetryDelay count (cfg.retryConfigFor n.eventType).baseDelay
          (cfg.retryConfigFor n.eventType).maxDelay (cfg.retryConfigFor n.eventType).useJitter draw =
            some (delay : Int) := by
  constructor
  · intro baseDelay maxDelay pos _ n m first lt useJitter draw draw'
    obtain ⟨delay, given, here⟩ := getRetryDelay_window maxDelay useJitter draw pos first
    obtain ⟨delay', given', there⟩ :=
      getRetryDelay_window maxDelay useJitter draw' pos (first.trans lt.le)
    exact ⟨delay, delay', given, given', windows_ordered pos first lt here there⟩
  · intro s run id n code count delay running
    exact reach_delayed run running

/-- The retry an operation is about to commit: its row, its count and its delay. -/
def Op.retrying : Op → Option (Nat × Nat × Nat)
  | task id (.dispatch (.commitRetrying _ _ count delay)) => some (id, count, delay)
  | _ => none

theorem Op.retrying_eq_some {op : Op} {id count delay : Nat} (h : op.retrying = some (id, count, delay)) :
    ∃ n code, op = .task id (.dispatch (.commitRetrying n code count delay)) := by
  unfold Op.retrying at h
  split at h
  next n code count delay =>
    cases h
    exact ⟨n, code, rfl⟩
  next => cases h

/-- The first two retries of the default configuration, drawn at the boundary of their windows, and
the first retry of an OTP whose provider is down. -/
theorem retry_windows_boundary :
    PyInt.Ordered 15 3600 1 2 30 30 ∧ PyInt.getRetryDelay 1 15 3600 true 15 = some 30 ∧
      PyInt.getRetryDelay 2 15 3600 true 0 = some 30 ∧
      ∃ s, Sys.Reach defaultConfig (fun _ _ => True) .initial s ∧
        ∃ n code, .task 1 (.dispatch (.commitRetrying n code 1 5)) ∈ s.ops ∧
          ∃ draw, PyInt.getRetryDelay 1 (defaultConfig.retryConfigFor n.eventType).baseDelay
            (defaultConfig.retryConfigFor n.eventType).maxDelay
            (defaultConfig.retryConfigFor n.eventType).useJitter draw = some 5 := by
  obtain ⟨windows, calls⟩ := retry_windows defaultConfig
  obtain ⟨delay, delay', given, given', ordered⟩ :=
    windows 15 3600 (by decide) (by decide) 1 2 le_rfl (by decide) true 15 0
  have first : PyInt.getRetryDelay 1 15 3600 true 15 = some 30 := by decide
  have second : PyInt.getRetryDelay 2 15 3600 true 0 = some 30 := by decide
  cases first.symm.trans given
  cases second.symm.trans given'
  refine ⟨ordered, first, second, ?_⟩
  have ran : ((Transition.trace (Sys.step defaultConfig) (fun _ _ => true) .initial
      ([.createNotification otpRequest] ++ NotificationEngine.calls 0 5 (accepting false) ++
        [.dequeue .none] ++ NotificationEngine.calls 1 4 (accepting false))).bind fun s =>
      s.ops[1]?.bind Op.retrying) = some (1, 1, 5) := by decide +kernel
  obtain ⟨s, reached, ran⟩ := Option.bind_eq_some_iff.mp ran
  obtain ⟨op, there, retrying⟩ := Option.bind_eq_some_iff.mp ran
  obtain ⟨n, code, rfl⟩ := Op.retrying_eq_some retrying
  have run : Sys.Reach defaultConfig (fun _ _ => True) .initial s :=
    (Transition.trace_reach .start reached).mono fun _ _ _ => trivial
  have running := List.mem_of_getElem? there
  exact ⟨s, run, n, code, running, (calls s run 1 n code 1 5 running).2⟩

end NotificationEngine
