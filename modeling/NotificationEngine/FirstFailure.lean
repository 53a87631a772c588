import Mathlib.Logic.Basic

namespace FirstFailure

variable {α : Type}

/-- A pass over the items that ends at the first failure gets to `target` and past it. -/
def Reaches (fails : α → Prop) (target : α) : List α → Prop
  | [] => False
  | a :: rest => ¬fails a ∧ (a = target ∨ Reaches fails target rest)

theorem reaches_congr {fails fails' : α → Prop} {target : α} {items : List α}
    (same : ∀ a ∈ items, fails' a ↔ fails a) : Reaches fails' target items ↔ Reaches fails target items := by
  induction items with
  | nil => exact Iff.rfl
  | cons a rest ih =>
    have later := ih fun b mem => same b (List.mem_cons_of_mem a mem)
    simp only [Reaches, same a List.mem_cons_self, later]

/-- Such a pass gets past everything that would succeed exactly if nothing that would succeed comes
after a failure. -/
theorem all_reached_iff {fails succeeds : α → Prop} {items : List α} (distinct : items.Nodup)
    (exclusive : ∀ a, succeeds a → ¬fails a) :
    (∀ a ∈ items, succeeds a → Reaches fails a items) ↔
      items.Pairwise fun before after => fails before → ¬succeeds after := by
  induction items with
  | nil => exact iff_of_true (fun a mem => absurd mem List.not_mem_nil) .nil
  | cons a rest ih =>
    obtain ⟨new, distinct⟩ := List.nodup_cons.mp distinct
    rw [List.pairwise_cons, ← ih distinct]
    constructor
    · intro reached
      have past : ∀ b ∈ rest, succeeds b → ¬fails a ∧ (a = b ∨ Reaches fails b rest) :=
        fun b mem => reached b (List.mem_cons_of_mem a mem)
      refine ⟨fun b mem failed good => (past b mem good).1 failed, fun b mem good => ?_⟩
      rcases (past b mem good).2 with rfl | later
      · exact absurd mem new
      · exact later
    · rintro ⟨head, later⟩ b mem good
      rcases List.mem_cons.mp mem with rfl | mem
      · exact ⟨exclusive b good, Or.inl rfl⟩
      · exact ⟨fun failed => head b mem failed good, Or.inr (later b mem good)⟩

end FirstFailure
