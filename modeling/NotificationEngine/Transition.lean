import Mathlib.Data.Option.Basic

namespace Transition

variable {σ τ ℓ μ : Type}

/-- States reached from `initial` by steps whose label meets `ok` in the state before it. -/
inductive Reach (step : σ → ℓ → σ → Prop) (ok : σ → ℓ → Prop) (initial : σ) : σ → Prop
  | start : Reach step ok initial initial
  | next {s s' l} : Reach step ok initial s → ok s l → step s l s' → Reach step ok initial s'

theorem Reach.mono {step : σ → ℓ → σ → Prop} {ok ok' : σ → ℓ → Prop} {initial s : σ}
    (weaker : ∀ s l, ok s l → ok' s l) (h : Reach step ok initial s) :
    Reach step ok' initial s := by
  induction h with
  | start => exact Reach.start
  | next _ hok hstep ih => exact Reach.next ih (weaker _ _ hok) hstep

theorem Reach.trans {step : σ → ℓ → σ → Prop} {ok : σ → ℓ → Prop} {a b c : σ}
    (hab : Reach step ok a b) (hbc : Reach step ok b c) : Reach step ok a c := by
  induction hbc with
  | start => exact hab
  | next _ hok hstep ih => exact Reach.next ih hok hstep

/-- A predicate that holds at the start and survives every admitted step holds throughout. -/
theorem Reach.invariant {step : σ → ℓ → σ → Prop} {ok : σ → ℓ → Prop} {initial s : σ}
    {inv : σ → Prop} (base : inv initial)
    (preserved : ∀ s l s', inv s → ok s l → step s l s' → inv s')
    (h : Reach step ok initial s) : inv s := by
  induction h with
  | start => exact base
  | next _ hok hstep ih => exact preserved _ _ _ ih hok hstep

/-- Runs project along `view` when every admitted step is seen as a step or not at all. -/
theorem Reach.project {step : σ → ℓ → σ → Prop} {ok : σ → ℓ → Prop} {initial s : σ}
    {step' : τ → μ → τ → Prop} {ok' : τ → μ → Prop} (view : σ → τ)
    (seen : ∀ s l s', Reach step ok initial s → ok s l → step s l s' →
      view s' = view s ∨ ∃ m, ok' (view s) m ∧ step' (view s) m (view s'))
    (h : Reach step ok initial s) : Reach step' ok' (view initial) (view s) := by
  induction h with
  | start => exact Reach.start
  | next reached hok hstep ih =>
    rcases seen _ _ _ reached hok hstep with same | ⟨m, hm, hs⟩
    · rw [same]
      exact ih
    · exact Reach.next ih hm hs

/-- Runs are simulated along a relation when every admitted step of a related pair is answered. -/
theorem Reach.simulated {step : σ → ℓ → σ → Prop} {ok : σ → ℓ → Prop} {initial s : σ}
    {step' : τ → μ → τ → Prop} {ok' : τ → μ → Prop} {initial' : τ} {R : σ → τ → Prop} (base : R initial initial')
    (answers : ∀ s l s' t, Reach step ok initial s → R s t → ok s l → step s l s' →
      R s' t ∨ ∃ m t', ok' t m ∧ step' t m t' ∧ R s' t')
    (h : Reach step ok initial s) : ∃ t, Reach step' ok' initial' t ∧ R s t := by
  induction h with
  | start => exact ⟨initial', .start, base⟩
  | next reached hok hstep ih =>
    obtain ⟨t, run, related⟩ := ih
    rcases answers _ _ _ _ reached related hok hstep with same | ⟨m, t', hm, hs, related'⟩
    · exact ⟨t, run, same⟩
    · exact ⟨t', .next run hm hs, related'⟩

/-- A partial step function that also counts the steps `counts` names. -/
def counting (step : σ → ℓ → Option σ) (counts : σ → ℓ → Bool) (a : σ × Nat) (l : ℓ) : Option (σ × Nat) :=
  (step a.1 l).map fun s => (s, a.2 + (counts a.1 l).toNat)

theorem counting_eq_some {step : σ → ℓ → Option σ} {counts : σ → ℓ → Bool} {a b : σ × Nat} {l : ℓ}
    (h : counting step counts a l = some b) :
    step a.1 l = some b.1 ∧ b.2 = a.2 + (counts a.1 l).toNat := by
  obtain ⟨s, hs, rfl⟩ := Option.map_eq_some_iff.mp h
  exact ⟨hs, rfl⟩

theorem Reach.uncounted {step : σ → ℓ → Option σ} {counts : σ → ℓ → Bool} {ok : σ → ℓ → Prop}
    {a b : σ × Nat} (h : Reach (fun a l b => counting step counts a l = some b) (fun a l => ok a.1 l) a b) :
    Reach (fun s l s' => step s l = some s') ok a.1 b.1 := by
  induction h with
  | start => exact Reach.start
  | next _ hok hstep ih => exact Reach.next ih hok (counting_eq_some hstep).1

/-- Run a list of labels through a partial step function, refusing a label that fails `ok`. -/
def trace (step : σ → ℓ → Option σ) (ok : σ → ℓ → Bool) : σ → List ℓ → Option σ
  | s, [] => some s
  | s, l :: ls => if ok s l then (step s l).bind fun s' => trace step ok s' ls else none

theorem trace_reach {step : σ → ℓ → Option σ} {ok : σ → ℓ → Bool} {initial s s' : σ} {ls : List ℓ}
    (reached : Reach (fun s l s' => step s l = some s') (fun s l => ok s l = true) initial s)
    (h : trace step ok s ls = some s') :
    Reach (fun s l s' => step s l = some s') (fun s l => ok s l = true) initial s' := by
  induction ls generalizing s with
  | nil =>
    cases Option.some.inj h
    exact reached
  | cons l ls ih =>
    simp only [trace] at h
    split at h
    next hok =>
      obtain ⟨mid, hmid, rest⟩ := Option.bind_eq_some_iff.mp h
      exact ih (Reach.next reached hok hmid) rest
    next => simp at h

theorem trace_append {step : σ → ℓ → Option σ} {ok : σ → ℓ → Bool} {s : σ} (ls ms : List ℓ) :
    trace step ok s (ls ++ ms) = (trace step ok s ls).bind fun t => trace step ok t ms := by
  induction ls generalizing s with
  | nil => rfl
  | cons l ls ih =>
    simp only [List.cons_append, trace]
    split
    next => rw [Option.bind_assoc]; simp only [ih]
    next => rfl

theorem trace_snoc {step : σ → ℓ → Option σ} {ok : σ → ℓ → Bool} {s t u : σ} {ls : List ℓ} {l : ℓ}
    (run : trace step ok s ls = some t) (admitted : ok t l = true) (next : step t l = some u) :
    trace step ok s (ls ++ [l]) = some u := by
  rw [trace_append, run]
  simp [trace, admitted, next]

end Transition
