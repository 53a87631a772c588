import Mathlib.Algebra.GroupWithZero.Nat
import Mathlib.Data.Multiset.Filter

namespace Holders

variable {α β : Type}

/-- Add an element if there is one. -/
def put : Option α → Multiset α → Multiset α
  | none, s => s
  | some a, s => a ::ₘ s

@[simp] theorem put_none (s : Multiset α) : put none s = s := rfl

@[simp] theorem put_some (a : α) (s : Multiset α) : put (some a) s = a ::ₘ s := rfl

@[simp] theorem mem_put {o : Option α} {s : Multiset α} {a : α} : a ∈ put o s ↔ o = some a ∨ a ∈ s := by
  cases o with
  | none => simp
  | some b => simp [eq_comm]

/-- How many elements satisfy `p`. -/
def held (p : α → Bool) (s : Multiset α) : Nat := s.countP (fun a => p a = true)

@[simp] theorem held_zero (p : α → Bool) : held p 0 = 0 := rfl

theorem held_cons (p : α → Bool) (a : α) (s : Multiset α) :
    held p (a ::ₘ s) = (p a).toNat + held p s := by
  cases h : p a with
  | false => simp [held, h]
  | true => simp [held, h, Nat.add_comm]

theorem held_put (p : α → Bool) (o : Option α) (s : Multiset α) :
    held p (put o s) = (o.any p).toNat + held p s := by
  cases o with
  | none => simp
  | some b => exact held_cons p b s

theorem held_eq_zero {p : α → Bool} {s : Multiset α} : held p s = 0 ↔ ∀ a ∈ s, p a = false := by
  simp [held, Multiset.countP_eq_zero]

theorem held_filterMap (p : β → Bool) (f : α → Option β) (xs : List α) :
    held p (xs.filterMap f : Multiset β) = xs.countP fun x => (f x).any p := by
  induction xs with
  | nil => rfl
  | cons x xs ih =>
    cases h : f x with
    | none => simpa [h] using ih
    | some b =>
      rw [List.filterMap_cons_some h, ← Multiset.cons_coe, held_cons, ih, List.countP_cons, h]
      cases hp : p b <;> simp [hp, Nat.add_comm]

/-- Replacing one entry of a list of processes replaces at most one of the selected tasks. -/
theorem filterMap_set (f : α → Option β) {xs : List α} {i : Nat} {x : α} (h : xs[i]? = some x) :
    ∃ rest : Multiset β, (xs.filterMap f : Multiset β) = put (f x) rest ∧
      ∀ y, ((xs.set i y).filterMap f : Multiset β) = put (f y) rest := by
  obtain ⟨hi, hx⟩ := List.getElem?_eq_some_iff.mp h
  have split (y : α) : ((xs.set i y).filterMap f : Multiset β) =
      put (f y) ((xs.take i).filterMap f ++ (xs.drop (i + 1)).filterMap f : List β) := by
    rw [List.set_eq_take_append_cons_drop, if_pos hi, List.filterMap_append]
    cases hy : f y with
    | none => simp [hy]
    | some b => simp [hy]
  refine ⟨_, ?_, split⟩
  have same := split x
  rwa [← hx, List.set_getElem_self, hx] at same

/-- Replacing one entry replaces its term in the sum. -/
theorem sum_map_set (f : α → Nat) {xs : List α} {i : Nat} {x : α} (h : xs[i]? = some x) (y : α) :
    ((xs.set i y).map f).sum + f x = (xs.map f).sum + f y := by
  induction xs generalizing i with
  | nil => cases h
  | cons a xs ih =>
    cases i with
    | zero =>
      cases h
      simp only [List.set_cons_zero, List.map_cons, List.sum_cons]
      omega
    | succ i =>
      have later := ih h
      simp only [List.set_cons_succ, List.map_cons, List.sum_cons]
      omega

theorem countP_set (p : α → Bool) {xs : List α} {i : Nat} {x : α} (h : xs[i]? = some x) (y : α) :
    (xs.set i y).countP p + (p x).toNat = xs.countP p + (p y).toNat := by
  have sum (zs : List α) : zs.countP p = (zs.map fun z => (p z).toNat).sum := by
    induction zs with
    | nil => rfl
    | cons z zs ih => cases hz : p z <;> simp [ih, hz, Nat.add_comm]
  rw [sum, sum]
  exact sum_map_set (fun z => (p z).toNat) h y

section Pick

variable {d x : α} {xs : List α} {own : List Nat} {i : Nat}

/-- The processes with the numbers `own`, in that order. -/
def pick (d : α) (xs : List α) (own : List Nat) : List α := own.map fun k => xs.getD k d

theorem pick_append (within : ∀ k ∈ own, k < xs.length) : pick d (xs ++ [x]) own = pick d xs own :=
  List.map_congr_left fun k mem => by
    simp only [List.getD_eq_getElem?_getD, List.getElem?_append_left (within k mem)]

theorem pick_last (within : ∀ k ∈ own, k < xs.length) :
    pick d (xs ++ [x]) (own ++ [xs.length]) = pick d xs own ++ [x] := by
  have last : (xs ++ [x]).getD xs.length d = x := by simp
  calc pick d (xs ++ [x]) (own ++ [xs.length])
      = pick d (xs ++ [x]) own ++ [(xs ++ [x]).getD xs.length d] := List.map_append
    _ = pick d xs own ++ [x] := by rw [pick_append within, last]

theorem pick_set_other (other : i ∉ own) : pick d (xs.set i x) own = pick d xs own :=
  List.map_congr_left fun k mem => by
    have ne : i ≠ k := fun same => other (same ▸ mem)
    simp only [List.getD_eq_getElem?_getD, List.getElem?_set_ne ne]

theorem pick_set (nodup : own.Nodup) (mem : i ∈ own) (within : i < xs.length) :
    pick d (xs.set i x) own = (pick d xs own).set (own.idxOf i) x := by
  induction own with
  | nil => cases mem
  | cons k ks ih =>
    obtain ⟨new, nodup⟩ := List.nodup_cons.mp nodup
    by_cases here : k = i
    · subst here
      have later : pick d (xs.set k x) ks = pick d xs ks := pick_set_other new
      have first : (xs.set k x).getD k d = x := by simp [within]
      rw [List.idxOf_cons_self]
      exact congrArg₂ List.cons first later
    · have later := ih nodup ((List.mem_cons.mp mem).resolve_left (Ne.symm here))
      have first : (xs.set i x).getD k d = xs.getD k d := by
        simp only [List.getD_eq_getElem?_getD, List.getElem?_set_ne (Ne.symm here)]
      rw [List.idxOf_cons_ne ks here]
      exact congrArg₂ List.cons first later

theorem pick_idxOf (mem : i ∈ own) (there : xs[i]? = some x) : (pick d xs own)[own.idxOf i]? = some x := by
  rw [pick, List.getElem?_map, List.getElem?_idxOf mem]
  simp [there]

end Pick

end Holders
