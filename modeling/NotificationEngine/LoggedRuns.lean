import NotificationEngine.Transition

namespace Transition

/-- A state, the clock beside it, and what was noted down on the way. -/
structure Logged (σ τ : Type) where
  state : σ
  clock : Int
  log : List τ

/-- A system whose steps may read a clock and may be worth an entry. -/
structure Recorder (σ ℓ τ : Type) where
  step : σ → ℓ → Option σ
  instant : ℓ → Option Int
  entry : σ → ℓ → Option τ

variable {σ ℓ τ : Type}

def Recorder.next (r : Recorder σ ℓ τ) (a : Logged σ τ) (l : ℓ) : Option (Logged σ τ) :=
  (r.step a.state l).map fun s =>
    ⟨s, (r.instant l).getD a.clock, a.log ++ (r.entry a.state l).toList⟩

/-- The clock does not go back. -/
def Recorder.ticks (r : Recorder σ ℓ τ) (a : Logged σ τ) (l : ℓ) : Bool :=
  (r.instant l).all (a.clock ≤ ·)

abbrev Recorder.Reach (r : Recorder σ ℓ τ) (ok : Logged σ τ → ℓ → Prop) : Logged σ τ → Logged σ τ → Prop :=
  Transition.Reach (fun a l b => r.next a l = some b) ok

section Steps

variable {r : Recorder σ ℓ τ} {ok : Logged σ τ → ℓ → Prop} {a b : Logged σ τ} {l : ℓ}

theorem Recorder.next_eq_some (h : r.next a l = some b) :
    r.step a.state l = some b.state ∧ b.clock = (r.instant l).getD a.clock ∧
      b.log = a.log ++ (r.entry a.state l).toList := by
  obtain ⟨s, step, rfl⟩ := Option.map_eq_some_iff.mp h
  exact ⟨step, rfl, rfl⟩

theorem Recorder.clock_le (ticks : r.ticks a l = true) : a.clock ≤ (r.instant l).getD a.clock := by
  unfold Recorder.ticks at ticks
  cases at_ : r.instant l with
  | none => exact Int.le_refl a.clock
  | some now =>
    rw [at_] at ticks
    exact of_decide_eq_true ticks

/-- A recorded run is a run. -/
theorem Recorder.Reach.unlogged {ok' : σ → ℓ → Prop} (admits : ∀ a l, ok a l → ok' a.state l)
    (h : r.Reach ok a b) : Transition.Reach (fun s l s' => r.step s l = some s') ok' a.state b.state := by
  induction h with
  | start => exact .start
  | next _ admitted step ih => exact .next ih (admits _ _ admitted) (Recorder.next_eq_some step).1

/-- What an entry says when it is made, and every step keeps true, is true of every entry. -/
theorem Recorder.Reach.entries {P : σ → Int → τ → Prop} (h : r.Reach ok a b) (none : a.log = [])
    (enters : ∀ b l c x, r.Reach ok a b → ok b l → r.next b l = some c → r.entry b.state l = some x →
      P c.state c.clock x)
    (keeps : ∀ b l c x, r.Reach ok a b → ok b l → r.next b l = some c → P b.state b.clock x →
      P c.state c.clock x) : ∀ x ∈ b.log, P b.state b.clock x := by
  induction h with
  | start =>
    intro x mem
    rw [none] at mem
    exact absurd mem List.not_mem_nil
  | @next b c l reached admitted step ih =>
    obtain ⟨_, _, log⟩ := Recorder.next_eq_some step
    intro x mem
    rw [log] at mem
    rcases List.mem_append.mp mem with old | new
    · exact keeps b l c x reached admitted step (ih x old)
    · exact enters b l c x reached admitted step (Option.mem_toList.mp new)

/-- Where each step settles what it adds, what is open and what is on the log is all there ever was. -/
theorem Recorder.Reach.balance [DecidableEq τ] (remaining total : σ → Nat) {x : τ} (h : r.Reach ok a b)
    (start : remaining a.state + a.log.count x = total a.state)
    (settles : ∀ b l c, r.Reach ok a b → r.next b l = some c →
      remaining c.state + (r.entry b.state l).toList.count x + total b.state = remaining b.state + total c.state) :
    remaining b.state + b.log.count x = total b.state := by
  induction h with
  | start => exact start
  | @next b c l reached _ step ih =>
    obtain ⟨_, _, log⟩ := Recorder.next_eq_some step
    have settled := settles b l c reached step
    rw [log, List.count_append]
    omega

/-- Where each step puts what is new behind what waits, and notes down what it takes from the front, the log
and what waits are all there ever was, in its order. -/
theorem Recorder.Reach.in_order {α : Type} (key : τ → α) (waiting total : σ → List α) (h : r.Reach ok a b)
    (start : a.log.map key ++ waiting a.state = total a.state)
    (moves : ∀ s l s', r.step s l = some s' → ∃ new,
      (r.entry s l).toList.map key ++ waiting s' = waiting s ++ new ∧ total s' = total s ++ new) :
    b.log.map key ++ waiting b.state = total b.state := by
  induction h with
  | start => exact start
  | @next b c l _ _ step ih =>
    obtain ⟨step, _, log⟩ := Recorder.next_eq_some step
    obtain ⟨new, waits, all⟩ := moves _ _ _ step
    rw [log, List.map_append, List.append_assoc, waits, ← List.append_assoc, ih, all]

/-- Entries that carry the time of their steps are in the order of their times. -/
theorem Recorder.Reach.stamped (time : τ → Int) (h : r.Reach ok a b) (none : a.log = [])
    (ticks : ∀ b l, ok b l → r.ticks b l = true)
    (stamps : ∀ s l x, r.entry s l = some x → r.instant l = some (time x)) :
    (∀ x ∈ b.log, time x ≤ b.clock) ∧ b.log.Pairwise fun x y => time x ≤ time y := by
  induction h with
  | start =>
    rw [none]
    exact ⟨fun _ mem => absurd mem List.not_mem_nil, List.Pairwise.nil⟩
  | @next b c l _ admitted step ih =>
    obtain ⟨before, sorted⟩ := ih
    obtain ⟨_, clock, log⟩ := Recorder.next_eq_some step
    have later := Recorder.clock_le (ticks b l admitted)
    rw [clock, log]
    cases entry : r.entry b.state l with
    | none =>
      rw [Option.toList_none, List.append_nil]
      exact ⟨fun x mem => Int.le_trans (before x mem) later, sorted⟩
    | some y =>
      rw [stamps _ _ _ entry, Option.getD_some] at later ⊢
      refine ⟨fun x mem => ?_,
        List.pairwise_append.mpr ⟨sorted, List.pairwise_singleton _ _, fun x mem z here => ?_⟩⟩
      · rcases List.mem_append.mp mem with old | new
        · exact Int.le_trans (before x old) later
        · cases List.mem_singleton.mp new
          exact Int.le_refl _
      · cases List.mem_singleton.mp here
        exact Int.le_trans (before x mem) later

end Steps

end Transition
