import Mathlib.Logic.Basic

namespace SnapshotWrite

variable {α : Type} [DecidableEq α]

/-- One column of an update built from a snapshot: it is written only when the new value
differs from the one first loaded, otherwise the stored value stays. -/
def column (loaded new stored : α) : α := if new = loaded then stored else new

@[simp] theorem column_fresh (stored new : α) : column stored new stored = new := by
  unfold column
  split
  next h => exact h.symm
  next => rfl

@[simp] theorem column_untouched (loaded stored : α) : column loaded loaded stored = stored := by
  simp [column]

theorem column_of_ne {loaded new stored : α} (h : new ≠ loaded) : column loaded new stored = new := by
  simp [column, h]

theorem column_cases (loaded new stored : α) :
    column loaded new stored = new ∨ (new = loaded ∧ column loaded new stored = stored) := by
  by_cases h : new = loaded
  · exact Or.inr ⟨h, by simp [h]⟩
  · exact Or.inl (column_of_ne h)

/-- The stored column ends up with the new value: it is written, or it has the value already. -/
def Lands (loaded new stored : α) : Prop := new = loaded → stored = new

instance (loaded new stored : α) : Decidable (Lands loaded new stored) :=
  inferInstanceAs (Decidable (new = loaded → stored = new))

theorem column_of_lands {loaded new stored : α} (h : Lands loaded new stored) :
    column loaded new stored = new := by
  rcases column_cases loaded new stored with written | ⟨same, kept⟩
  · exact written
  · rw [kept, h same]

theorem column_isSome {β : Type} [DecidableEq β] {loaded new stored : Option β}
    (new_set : new.isSome = true) (never_cleared : loaded.isSome = true → stored.isSome = true) :
    (column loaded new stored).isSome = true := by
  rcases column_cases loaded new stored with written | ⟨same, kept⟩
  · rw [written, new_set]
  · rw [kept]
    exact never_cleared (same ▸ new_set)

end SnapshotWrite
