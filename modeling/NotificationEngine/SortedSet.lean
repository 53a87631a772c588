import Mathlib.Data.List.Nodup
import Mathlib.Order.Lattice

/-- A set of members with integer scores, as a sorted-set server keeps it. -/
structure SortedSet (α : Type) where
  entries : List (α × Int)
  nodup : (entries.map Prod.fst).Nodup

namespace SortedSet

variable {α κ : Type} [LinearOrder κ]

instance : Membership α (SortedSet α) := ⟨fun s x => x ∈ s.entries.map Prod.fst⟩

def empty : SortedSet α := ⟨[], List.nodup_nil⟩

theorem mem_iff {x : α} {s : SortedSet α} : x ∈ s ↔ ∃ score, (x, score) ∈ s.entries := by
  change x ∈ s.entries.map Prod.fst ↔ _
  simp

@[simp] theorem not_mem_empty (x : α) : x ∉ (empty : SortedSet α) := by
  simp [empty, mem_iff]

theorem entries_inj {s t : SortedSet α} (h : s.entries = t.entries) : s = t := by
  cases s
  cases t
  cases h
  rfl

/-- The members that meet `p`, with their scores. -/
def restrict (p : α → Bool) (s : SortedSet α) : SortedSet α :=
  ⟨s.entries.filter (fun e => p e.1), s.nodup.sublist (List.filter_sublist.map _)⟩

@[simp] theorem mem_restrict {p : α → Bool} {s : SortedSet α} {x : α} :
    x ∈ s.restrict p ↔ x ∈ s ∧ p x = true := by
  simp [restrict, mem_iff]

section Members

variable [DecidableEq α]

instance (x : α) (s : SortedSet α) : Decidable (x ∈ s) :=
  inferInstanceAs (Decidable (x ∈ s.entries.map Prod.fst))

/-- `ZADD NX`: a member that is already there keeps its score. -/
def addNX (s : SortedSet α) (x : α) (score : Int) : SortedSet α :=
  if h : x ∈ s then s else ⟨(x, score) :: s.entries, List.nodup_cons.mpr ⟨h, s.nodup⟩⟩

theorem addNX_of_mem {s : SortedSet α} {x : α} {score : Int} (h : x ∈ s) :
    s.addNX x score = s := by
  simp [addNX, h]

theorem addNX_of_not_mem {s : SortedSet α} {x : α} {score : Int} (h : x ∉ s) :
    (s.addNX x score).entries = (x, score) :: s.entries := by
  simp [addNX, h]

@[simp] theorem mem_addNX {s : SortedSet α} {x y : α} {score : Int} :
    y ∈ s.addNX x score ↔ y = x ∨ y ∈ s := by
  by_cases h : x ∈ s
  · rw [addNX_of_mem h]
    constructor
    · exact Or.inr
    · rintro (rfl | hy)
      · exact h
      · exact hy
  · simp only [addNX, h, dif_neg, not_false_eq_true, mem_iff, List.mem_cons, Prod.mk.injEq,
      exists_or, exists_and_left, exists_eq, and_true]

/-- `ZREM`. -/
def remove (s : SortedSet α) (x : α) : SortedSet α :=
  ⟨s.entries.filter (fun e => e.1 ≠ x), s.nodup.sublist (List.filter_sublist.map _)⟩

@[simp] theorem mem_remove {s : SortedSet α} {x y : α} : y ∈ s.remove x ↔ y ∈ s ∧ y ≠ x := by
  simp [remove, mem_iff]

theorem length_addNX (s : SortedSet α) (x : α) (score : Int) :
    (s.addNX x score).entries.length ≤ s.entries.length + 1 := by
  by_cases there : x ∈ s
  · rw [addNX_of_mem there]
    exact Nat.le_succ _
  · rw [addNX_of_not_mem there]
    exact Nat.le_refl _

theorem length_remove {s : SortedSet α} {x : α} (there : x ∈ s) :
    (s.remove x).entries.length < s.entries.length := by
  obtain ⟨score, mem⟩ := mem_iff.mp there
  exact List.length_filter_lt_length_iff_exists.mpr ⟨_, mem, by simp⟩

end Members

/-- Lower scores first, equal scores by `key`. -/
def Before (key : α → κ) (a b : α × Int) : Prop := a.2 < b.2 ∨ (a.2 = b.2 ∧ key a.1 ≤ key b.1)

instance (key : α → κ) (a b : α × Int) : Decidable (Before key a b) :=
  inferInstanceAs (Decidable (_ ∨ _))

/-- The first entry of a list in the order `Before`. -/
def least (key : α → κ) : List (α × Int) → Option (α × Int)
  | [] => none
  | e :: es => match least key es with
    | none => some e
    | some m => if Before key e m then some e else some m

theorem least_mem {key : α → κ} {es : List (α × Int)} {m : α × Int}
    (h : least key es = some m) : m ∈ es := by
  induction es generalizing m with
  | nil => simp [least] at h
  | cons e es ih =>
    simp only [least] at h
    split at h
    next =>
      cases Option.some.inj h
      exact List.mem_cons_self
    next m' hm =>
      split at h
      next => cases Option.some.inj h; exact List.mem_cons_self
      next => cases Option.some.inj h; exact List.mem_cons_of_mem e (ih hm)

theorem Before.refl (key : α → κ) (a : α × Int) : Before key a a := Or.inr ⟨rfl, le_rfl⟩

theorem Before.trans {key : α → κ} {a b c : α × Int} (hab : Before key a b) (hbc : Before key b c) :
    Before key a c := by
  rcases hab with lt | ⟨eq, le⟩
  · left
    rcases hbc with lt' | ⟨eq', _⟩ <;> omega
  · rcases hbc with lt' | ⟨eq', le'⟩
    · exact Or.inl (by omega)
    · exact Or.inr ⟨eq.trans eq', le.trans le'⟩

theorem Before.of_not {key : α → κ} {a b : α × Int} (h : ¬Before key a b) : Before key b a := by
  obtain ⟨notLt, notTie⟩ := not_or.mp h
  by_cases lt : b.2 < a.2
  · exact Or.inl lt
  · have eq : a.2 = b.2 := by omega
    exact Or.inr ⟨eq.symm, (le_total (key a.1) (key b.1)).resolve_left fun le => notTie ⟨eq, le⟩⟩

theorem Before.antisymm {key : α → κ} (inj : ∀ x y, key x = key y → x = y) {a b : α × Int}
    (hab : Before key a b) (hba : Before key b a) : a.1 = b.1 := by
  rcases hab with lt | ⟨eq, le⟩
  · rcases hba with lt' | ⟨eq', _⟩ <;> omega
  · rcases hba with lt' | ⟨_, le'⟩
    · omega
    · exact inj _ _ (le_antisymm le le')

@[simp] theorem least_eq_none {key : α → κ} {es : List (α × Int)} : least key es = none ↔ es = [] := by
  cases es with
  | nil => simp [least]
  | cons e es =>
    simp only [least, reduceCtorEq, iff_false]
    split
    next => exact nofun
    next => split <;> exact nofun

theorem least_before {key : α → κ} {es : List (α × Int)} {m : α × Int}
    (h : least key es = some m) : ∀ e ∈ es, Before key m e := by
  induction es generalizing m with
  | nil => cases h
  | cons e es ih =>
    intro x hx
    simp only [least] at h
    split at h
    next none =>
      cases Option.some.inj h
      rw [least_eq_none.mp none] at hx
      rw [List.mem_singleton.mp hx]
      exact Before.refl key e
    next m' hm =>
      split at h
      next first =>
        cases Option.some.inj h
        rcases List.mem_cons.mp hx with rfl | there
        · exact Before.refl key x
        · exact first.trans (ih hm x there)
      next later =>
        cases Option.some.inj h
        rcases List.mem_cons.mp hx with rfl | there
        · exact Before.of_not later
        · exact ih hm x there

variable [DecidableEq α]

/-- `BZPOPMIN`, with ties broken by `key`. -/
def popMin (key : α → κ) (s : SortedSet α) : Option (α × SortedSet α) :=
  (least key s.entries).map fun m => (m.1, s.remove m.1)

theorem popMin_eq_none {key : α → κ} {s : SortedSet α} : s.popMin key = none ↔ s.entries = [] := by
  simp [popMin]

/-- The popped member was first, and only it is gone. -/
theorem popMin_first {key : α → κ} {s t : SortedSet α} {x : α} (h : s.popMin key = some (x, t)) :
    t = s.remove x ∧ ∃ score, (x, score) ∈ s.entries ∧ ∀ e ∈ s.entries, Before key (x, score) e := by
  obtain ⟨m, hm, he⟩ := Option.map_eq_some_iff.mp h
  cases he
  exact ⟨rfl, m.2, least_mem hm, least_before hm⟩

theorem popMin_mem {key : α → κ} {s t : SortedSet α} {x : α} (h : s.popMin key = some (x, t)) :
    x ∈ s := by
  obtain ⟨m, hm, he⟩ := Option.map_eq_some_iff.mp h
  cases he
  exact mem_iff.mpr ⟨m.2, least_mem hm⟩

theorem mem_of_popMin {key : α → κ} {s t : SortedSet α} {x y : α} (h : s.popMin key = some (x, t)) :
    y ∈ t ↔ y ∈ s ∧ y ≠ x := by
  obtain ⟨m, _, he⟩ := Option.map_eq_some_iff.mp h
  cases he
  exact mem_remove

section Restrict

variable {p : α → Bool} {s t : SortedSet α} {x : α}

theorem restrict_addNX (score : Int) (h : p x = true) :
    (s.addNX x score).restrict p = (s.restrict p).addNX x score := by
  by_cases there : x ∈ s
  · rw [addNX_of_mem there, addNX_of_mem (mem_restrict.mpr ⟨there, h⟩)]
  · have absent : x ∉ s.restrict p := fun mem => there (mem_restrict.mp mem).1
    apply entries_inj
    rw [addNX_of_not_mem absent]
    simp only [restrict, addNX_of_not_mem there, List.filter_cons, h, if_true]

theorem restrict_addNX_other (score : Int) (h : p x = false) :
    (s.addNX x score).restrict p = s.restrict p := by
  by_cases there : x ∈ s
  · rw [addNX_of_mem there]
  · apply entries_inj
    simp only [restrict, addNX_of_not_mem there, List.filter_cons, h, Bool.false_eq_true, if_false]

theorem restrict_remove : (s.remove x).restrict p = (s.restrict p).remove x := by
  apply entries_inj
  simp only [restrict, remove, List.filter_filter, Bool.and_comm]

theorem restrict_remove_other (h : p x = false) : (s.remove x).restrict p = s.restrict p := by
  rw [restrict_remove]
  apply entries_inj
  refine List.filter_eq_self.mpr fun e mem => ?_
  have meets : p e.1 = true := (List.mem_filter.mp mem).2
  have other : e.1 ≠ x := by
    intro same
    rw [same, h] at meets
    cases meets
  simpa using other

/-- A first member that meets `p` is also first among those that do. -/
theorem popMin_restrict {key : α → κ} (inj : ∀ x y, key x = key y → x = y)
    (h : s.popMin key = some (x, t)) (hx : p x = true) :
    (s.restrict p).popMin key = some (x, t.restrict p) := by
  obtain ⟨rfl, score, mem, first⟩ := popMin_first h
  have kept : (x, score) ∈ (s.restrict p).entries := List.mem_filter.mpr ⟨mem, hx⟩
  cases popped : (s.restrict p).popMin key with
  | none =>
    rw [popMin_eq_none.mp popped] at kept
    exact absurd kept List.not_mem_nil
  | some found =>
    obtain ⟨y, u⟩ := found
    obtain ⟨rfl, score', mem', first'⟩ := popMin_first popped
    have same : y = x :=
      Before.antisymm inj (first' _ kept) (first _ (List.mem_filter.mp mem').1)
    rw [same, restrict_remove]

theorem popMin_restrict_other {key : α → κ} (h : s.popMin key = some (x, t)) (hx : p x = false) :
    t.restrict p = s.restrict p := by
  obtain ⟨rfl, _⟩ := popMin_first h
  exact restrict_remove_other hx

end Restrict

end SortedSet
