import NotificationEngine.Transition

namespace Transition

variable {σ ℓ : Type}

/-- What the steps of a run add up to. -/
def total (step : σ → ℓ → Option σ) (amount : σ → ℓ → Nat) : σ → List ℓ → Nat
  | _, [] => 0
  | s, l :: ls => amount s l + (step s l).elim 0 fun s' => total step amount s' ls

/-- A weight that falls by the work of each step, but for what the step is charged. -/
structure Pays (step : σ → ℓ → Option σ) (ok : σ → ℓ → Bool) (inv : σ → Prop) (weight : σ → Nat)
    (work charge : σ → ℓ → Nat) : Prop where
  kept : ∀ s l s', inv s → ok s l = true → step s l = some s' → inv s'
  pays : ∀ s l s', inv s → ok s l = true → step s l = some s' →
    work s l + weight s' ≤ weight s + charge s l

/-- Where every unfinished state has an admitted step to a lighter one, a run of such steps finishes. -/
theorem Reach.settles {step : σ → ℓ → σ → Prop} {ok : σ → ℓ → Prop} {inv final : σ → Prop} (weight : σ → Nat)
    (progress : ∀ s, inv s → ¬final s →
      ∃ l s', ok s l ∧ step s l s' ∧ inv s' ∧ weight s' < weight s) {s : σ} (start : inv s) :
    ∃ s', Reach step ok s s' ∧ inv s' ∧ final s' := by
  induction bound : weight s using Nat.strongRecOn generalizing s with
  | _ n ih =>
    by_cases done : final s
    · exact ⟨s, .start, start, done⟩
    · obtain ⟨l, mid, hok, hstep, kept, lighter⟩ := progress s start done
      obtain ⟨s', rest, kept', done'⟩ := ih (weight mid) (by omega) kept rfl
      exact ⟨s', Reach.trans (.next .start hok hstep) rest, kept', done'⟩

section Pays

variable {step : σ → ℓ → Option σ} {ok : σ → ℓ → Bool} {inv : σ → Prop} {weight : σ → Nat}
  {work charge : σ → ℓ → Nat} {s s' : σ} {ls : List ℓ}

/-- The work of a run is paid by the weight it began with and by its charges. -/
theorem Pays.run (h : Pays step ok inv weight work charge) (start : inv s)
    (run : trace step ok s ls = some s') :
    total step work s ls + weight s' ≤ weight s + total step charge s ls := by
  induction ls generalizing s with
  | nil =>
    cases Option.some.inj run
    exact Nat.le_of_eq (by simp [total])
  | cons l ls ih =>
    simp only [trace] at run
    split at run
    next hok =>
      obtain ⟨mid, hmid, rest⟩ := Option.bind_eq_some_iff.mp run
      have later := ih (h.kept s l mid start hok hmid) rest
      have now := h.pays s l mid start hok hmid
      simp only [total, hmid, Option.elim_some]
      omega
    next => cases run

/-- Where every unfinished state has a step that works and is not charged, a run of such steps leads
to a finished one. -/
theorem Pays.drain (h : Pays step ok inv weight work charge) {final : σ → Prop}
    (progress : ∀ s, inv s → ¬final s →
      ∃ l s', ok s l = true ∧ step s l = some s' ∧ charge s l < work s l) (start : inv s) :
    ∃ s', Reach (fun s l s' => step s l = some s') (fun s l => ok s l = true) s s' ∧ inv s' ∧ final s' := by
  refine Reach.settles weight (fun s kept busy => ?_) start
  obtain ⟨l, s', hok, hstep, free⟩ := progress s kept busy
  have pays := h.pays s l s' kept hok hstep
  exact ⟨l, s', hok, hstep, h.kept s l s' kept hok hstep, by omega⟩

end Pays

end Transition
