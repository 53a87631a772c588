import NotificationEngine.SortedSet

namespace SortedSet

variable {α β κ : Type} [LinearOrder κ] {f : α → β} {s s' : SortedSet α} {t t' : SortedSet β}

/-- One set holds what the other holds, under other names. -/
def Renames (f : α → β) (s : SortedSet α) (t : SortedSet β) : Prop :=
  t.entries = s.entries.map fun e => (f e.1, e.2)

theorem Renames.empty : Renames f (.empty : SortedSet α) .empty := rfl

theorem Renames.mem_iff (renames : Renames f s t) (inj : ∀ x y, f x = f y → x = y) {x : α} :
    f x ∈ t ↔ x ∈ s := by
  rw [SortedSet.mem_iff, SortedSet.mem_iff, renames]
  constructor
  · rintro ⟨score, mem⟩
    obtain ⟨⟨y, score'⟩, mem, is⟩ := List.mem_map.mp mem
    simp only [Prod.mk.injEq] at is
    exact ⟨score', inj y x is.1 ▸ mem⟩
  · rintro ⟨score, mem⟩
    exact ⟨score, List.mem_map.mpr ⟨(x, score), mem, rfl⟩⟩

theorem least_map {key : α → κ} {key' : β → κ} (keys : ∀ x, key' (f x) = key x) (es : List (α × Int)) :
    least key' (es.map fun e => (f e.1, e.2)) = (least key es).map fun e => (f e.1, e.2) := by
  induction es with
  | nil => rfl
  | cons e es ih =>
    rw [List.map_cons, least, least, ih]
    cases least key es with
    | none => rfl
    | some m =>
      have same : Before key' (f e.1, e.2) (f m.1, m.2) ↔ Before key e m := by
        simp only [Before, keys]
      dsimp only [Option.map_some]
      by_cases first : Before key e m
      · rw [if_pos first, if_pos (same.mpr first)]
        rfl
      · rw [if_neg first, if_neg (same.not.mpr first)]
        rfl

variable [DecidableEq α] [DecidableEq β]

theorem Renames.addNX (renames : Renames f s t) (inj : ∀ x y, f x = f y → x = y) (x : α) (score : Int) :
    Renames f (s.addNX x score) (t.addNX (f x) score) := by
  by_cases there : x ∈ s
  · rwa [addNX_of_mem there, addNX_of_mem ((renames.mem_iff inj).mpr there)]
  · rw [Renames, addNX_of_not_mem there, addNX_of_not_mem fun mem => there ((renames.mem_iff inj).mp mem), renames]
    rfl

theorem Renames.remove (renames : Renames f s t) (inj : ∀ x y, f x = f y → x = y) (x : α) :
    Renames f (s.remove x) (t.remove (f x)) := by
  have same : ∀ e ∈ s.entries, (f e.1 ≠ f x) = (e.1 ≠ x) := fun e _ =>
    propext (not_congr ⟨inj e.1 x, congrArg f⟩)
  change t.entries.filter (fun e => e.1 ≠ f x) = (s.entries.filter fun e => e.1 ≠ x).map _
  rw [renames, List.filter_map]
  congr 1
  exact List.filter_congr fun e mem => by simp only [Function.comp_apply, same e mem]

/-- With the keys renamed too, the same member is popped. -/
theorem Renames.popMin {key : α → κ} {key' : β → κ} (renames : Renames f s t)
    (keys : ∀ x, key' (f x) = key x) :
    t.popMin key' = (s.popMin key).map fun p => (f p.1, t.remove (f p.1)) := by
  rw [SortedSet.popMin, SortedSet.popMin, renames, least_map keys, Option.map_map, Option.map_map]
  rfl

end SortedSet
