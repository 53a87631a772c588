import Mathlib.Data.List.Sort
import Mathlib.Order.Lattice

namespace Paging

variable {α κ : Type} [LinearOrder κ]

/-- `l` has the rows in descending order of their keys, rows with equal keys in any order. -/
structure Arranged (key : α → κ) (rows l : List α) : Prop where
  perm : l.Perm rows
  descending : l.Pairwise fun a b => key b ≤ key a

/-- Page `k` of the pages of a size, counted from zero. -/
def page (l : List α) (size k : Nat) : List α := (l.drop (k * size)).take size

/-- The pages from `k` on, up to the first that is empty, one after another. -/
inductive Collects (pages : Nat → List α) : Nat → List α → Prop
  | done {k} : pages k = [] → Collects pages k []
  | more {k rest} : pages k ≠ [] → Collects pages (k + 1) rest → Collects pages k (pages k ++ rest)

/-- How many rows come before `a` in any arrangement. -/
def newer (key : α → κ) (rows : List α) (a : α) : Nat := rows.countP fun b => key a < key b

/-- How many rows can come before `a` in some arrangement, `a` itself included. -/
def upTo (key : α → κ) (rows : List α) (a : α) : Nat := rows.countP fun b => key a ≤ key b

/-- The rows with the key of `a` are all on one page. -/
def OnePage (key : α → κ) (rows : List α) (size : Nat) (a : α) : Prop :=
  newer key rows a / size = (upTo key rows a - 1) / size

instance (key : α → κ) (rows : List α) (size : Nat) (a : α) : Decidable (OnePage key rows size a) :=
  inferInstanceAs (Decidable (_ = _))

section Positions

variable {key : α → κ} {rows l : List α} {size k i : Nat} {a : α}

/-- Where a property is lost for good along a list, it holds of the first elements, as many as it
holds of. -/
theorem lt_countP_iff {p : α → Bool} (lost : l.Pairwise fun a b => p b = true → p a = true)
    (at_ : l[i]? = some a) : p a = true ↔ i < l.countP p := by
  induction l generalizing i with
  | nil => cases at_
  | cons b l ih =>
    obtain ⟨head, tail⟩ := List.pairwise_cons.mp lost
    by_cases holds : p b = true
    · rw [List.countP_cons_of_pos holds]
      cases i with
      | zero =>
        cases at_
        exact iff_of_true holds (Nat.succ_pos _)
      | succ i => rw [ih tail at_, Nat.succ_lt_succ_iff]
    · have none : (b :: l).countP p = 0 := by
        rw [List.countP_eq_zero]
        intro c mem
        rcases List.mem_cons.mp mem with rfl | mem
        · exact holds
        · exact fun later => holds (head c mem later)
      rw [none]
      refine iff_of_false (fun there => ?_) (Nat.not_lt_zero i)
      exact List.countP_eq_zero.mp none a (List.mem_of_getElem? at_) there

theorem Arranged.position_iff {c : α} (arranged : Arranged key rows l) (a : α) (at_ : l[i]? = some c) :
    (key a < key c ↔ i < newer key rows a) ∧ (key a ≤ key c ↔ i < upTo key rows a) := by
  have before : l.Pairwise fun b c => decide (key a < key c) = true → decide (key a < key b) = true :=
    arranged.descending.imp fun le => by simpa using fun lt => lt_of_lt_of_le lt le
  have beside : l.Pairwise fun b c => decide (key a ≤ key c) = true → decide (key a ≤ key b) = true :=
    arranged.descending.imp fun le => by simpa using fun le' => le_trans le' le
  rw [newer, upTo, ← arranged.perm.countP_eq, ← arranged.perm.countP_eq, ← lt_countP_iff before at_,
    ← lt_countP_iff beside at_, decide_eq_true_eq, decide_eq_true_eq]
  exact ⟨Iff.rfl, Iff.rfl⟩

theorem Arranged.position (arranged : Arranged key rows l) (at_ : l[i]? = some a) :
    newer key rows a ≤ i ∧ i < upTo key rows a := by
  obtain ⟨before, beside⟩ := arranged.position_iff a at_
  exact ⟨Nat.le_of_not_lt (before.not.mp (lt_irrefl _)), beside.mp le_rfl⟩

theorem Arranged.key_eq {c : α} (arranged : Arranged key rows l) (at_ : l[i]? = some c)
    (after : newer key rows a ≤ i) (within : i < upTo key rows a) : key c = key a := by
  obtain ⟨before, beside⟩ := arranged.position_iff a at_
  exact le_antisymm (le_of_not_gt (before.not.mpr (Nat.not_lt_of_le after))) (beside.mpr within)

/-- Of rows with equal keys on several pages one is the last of its page, another the first of the next. -/
theorem exists_boundary (pos : 0 < size) (arranged : Arranged key rows l) (mem : a ∈ rows)
    (apart : ¬OnePage key rows size a) :
    ∃ i, i + 1 = (newer key rows a / size + 1) * size ∧ newer key rows a ≤ i ∧ i + 1 < upTo key rows a := by
  let q := newer key rows a / size
  obtain ⟨j, at_⟩ := List.mem_iff_getElem?.mp (arranged.perm.mem_iff.mpr mem)
  obtain ⟨after, within⟩ := arranged.position at_
  have low : newer key rows a < (q + 1) * size := Nat.lt_mul_of_div_lt (Nat.lt_succ_self q) pos
  have le : q ≤ (upTo key rows a - 1) / size := Nat.div_le_div_right (by omega)
  have reached : (q + 1) * size ≤ upTo key rows a - 1 :=
    (Nat.le_div_iff_mul_le pos).mp (Nat.lt_of_le_of_ne le apart)
  exact ⟨(q + 1) * size - 1, Nat.sub_add_cancel (by omega), by omega, by omega⟩

theorem mem_page (pos : 0 < size) : a ∈ page l size k ↔ ∃ i, l[i]? = some a ∧ i / size = k := by
  have inside (i : Nat) : i / size = k ↔ k * size ≤ i ∧ i < k * size + size := by
    rw [Nat.div_eq_iff pos]
    omega
  rw [page, List.mem_iff_getElem?]
  constructor
  · rintro ⟨j, at_⟩
    rw [List.getElem?_take] at at_
    split at at_
    next small =>
      rw [List.getElem?_drop] at at_
      exact ⟨_, at_, (inside _).mpr (by omega)⟩
    next => cases at_
  · rintro ⟨i, at_, on⟩
    have bounds := (inside i).mp on
    refine ⟨i - k * size, ?_⟩
    have offset : k * size + (i - k * size) = i := by omega
    rw [List.getElem?_take, if_pos (by omega), List.getElem?_drop, offset, at_]

/-- A row whose equals are all on one page is on that page, whatever the arrangement. -/
theorem mem_page_iff (pos : 0 < size) (arranged : Arranged key rows l)
    (together : ∀ b ∈ rows, OnePage key rows size b) :
    a ∈ page l size k ↔ a ∈ rows ∧ newer key rows a / size = k := by
  have fixed {i : Nat} {b : α} (at_ : l[i]? = some b) : i / size = newer key rows b / size := by
    obtain ⟨low, high⟩ := arranged.position at_
    have one := together b (arranged.perm.mem_iff.mp (List.mem_of_getElem? at_))
    have below : newer key rows b / size ≤ i / size := Nat.div_le_div_right low
    have above : i / size ≤ (upTo key rows b - 1) / size := Nat.div_le_div_right (by omega)
    rw [OnePage] at one
    omega
  rw [mem_page pos]
  constructor
  · rintro ⟨i, at_, on⟩
    exact ⟨arranged.perm.mem_iff.mp (List.mem_of_getElem? at_), (fixed at_).symm.trans on⟩
  · rintro ⟨mem, on⟩
    obtain ⟨i, at_⟩ := List.mem_iff_getElem?.mp (arranged.perm.mem_iff.mpr mem)
    exact ⟨i, at_, (fixed at_).trans on⟩

theorem page_eq_nil (arranged : Arranged key rows l) :
    page l size k = [] ↔ size = 0 ∨ rows.length ≤ k * size := by
  rw [page, List.take_eq_nil_iff, List.drop_eq_nil_iff, arranged.perm.length_eq]

end Positions

section Collections

variable {key : α → κ} {rows : List α} {size : Nat} {answer : Nat → List α}

/-- The pages come to an end. -/
theorem collects_ends (pos : 0 < size) (arranged : ∀ k, Arranged key rows (answer k)) (k : Nat) :
    ∃ r, Collects (fun k => page (answer k) size k) k r := by
  by_cases more : rows.length ≤ k * size
  · exact ⟨[], .done ((page_eq_nil (arranged k)).mpr (Or.inr more))⟩
  · have further : rows.length - (k + 1) * size < rows.length - k * size := by
      rw [Nat.succ_mul]
      omega
    obtain ⟨r, rest⟩ := collects_ends pos arranged (k + 1)
    refine ⟨_, .more (fun empty => ?_) rest⟩
    rcases (page_eq_nil (arranged k)).mp empty with zero | past
    · omega
    · exact more past
termination_by rows.length - k * size

/-- If no page boundary separates rows with equal keys, the pages from `k` on have each row from there
on once. -/
theorem collects_once {k : Nat} {r : List α} (pos : 0 < size) (distinct : rows.Nodup)
    (arranged : ∀ k, Arranged key rows (answer k)) (together : ∀ b ∈ rows, OnePage key rows size b)
    (h : Collects (fun k => page (answer k) size k) k r) :
    r.Nodup ∧ ∀ a, a ∈ r ↔ a ∈ rows ∧ k ≤ newer key rows a / size := by
  induction h with
  | @done k empty =>
    refine ⟨.nil, fun a => iff_of_false List.not_mem_nil ?_⟩
    rintro ⟨mem, later⟩
    have past : rows.length ≤ k * size := by
      rcases (page_eq_nil (arranged k)).mp empty with zero | past
      · omega
      · exact past
    obtain ⟨i, at_⟩ := List.mem_iff_getElem?.mp ((arranged k).perm.mem_iff.mpr mem)
    have low := ((arranged k).position at_).1
    have inside := (List.getElem?_eq_some_iff.mp at_).1
    rw [(arranged k).perm.length_eq] at inside
    have before := (Nat.le_div_iff_mul_le pos).mp later
    omega
  | @more k rest _ _ ih =>
    obtain ⟨nodup, mem⟩ := ih
    have here (a : α) := mem_page_iff (a := a) (k := k) pos (arranged k) together
    constructor
    · have own : (page (answer k) size k).Nodup :=
        ((List.take_sublist _ _).trans (List.drop_sublist _ _)).nodup ((arranged k).perm.nodup_iff.mpr distinct)
      refine List.nodup_append.mpr ⟨own, nodup, fun a first b second same => ?_⟩
      subst same
      have on := ((here a).mp first).2
      have later := ((mem a).mp second).2
      omega
    · intro a
      rw [List.mem_append, here, mem]
      constructor
      · rintro (⟨there, on⟩ | ⟨there, later⟩)
        · exact ⟨there, on.ge⟩
        · exact ⟨there, by omega⟩
      · rintro ⟨there, onward⟩
        rcases Nat.eq_or_lt_of_le onward with on | later
        · exact Or.inl ⟨there, on.symm⟩
        · exact Or.inr ⟨there, later⟩

/-- A row that is on two successive pages is collected twice. -/
theorem collects_twice {k q : Nat} {r : List α} {a : α} (arranged : ∀ k, Arranged key rows (answer k))
    (h : Collects (fun k => page (answer k) size k) k r) (le : k ≤ q)
    (first : a ∈ page (answer q) size q) (second : a ∈ page (answer (q + 1)) size (q + 1)) : ¬r.Nodup := by
  induction h with
  | @done k empty =>
    have none : page (answer q) size q = [] := by
      rw [page_eq_nil (arranged q)]
      rcases (page_eq_nil (arranged k)).mp empty with zero | past
      · exact Or.inl zero
      · exact Or.inr (past.trans (Nat.mul_le_mul_right size le))
    rw [none] at first
    exact absurd first List.not_mem_nil
  | @more k rest _ later ih =>
    rcases Nat.eq_or_lt_of_le le with rfl | lt
    · intro nodup
      obtain ⟨_, _, apart⟩ := List.nodup_append.mp nodup
      have again : a ∈ rest := by
        cases later with
        | done empty =>
          rw [empty] at second
          exact absurd second List.not_mem_nil
        | more _ _ => exact List.mem_append_left _ second
      exact apart a first a again rfl
    · exact fun nodup => ih lt (List.nodup_append.mp nodup).2.1

theorem exists_arranged (key : α → κ) (rows : List α) : ∃ l, Arranged key rows l := by
  let before (a b : α) : Bool := decide (key b ≤ key a)
  refine ⟨rows.mergeSort before, List.mergeSort_perm rows before, ?_⟩
  have sorted : (rows.mergeSort before).Pairwise fun a b => before a b = true := by
    refine List.pairwise_mergeSort ?_ ?_ rows
    · intro a b c hab hbc
      exact decide_eq_true ((of_decide_eq_true hbc).trans (of_decide_eq_true hab))
    · intro a b
      rcases le_total (key b) (key a) with le | le
      · simp [before, le]
      · simp [before, le]
  exact sorted.imp of_decide_eq_true

/-- Neighbours with equal keys can be exchanged. -/
theorem Arranged.swap {x y : α} {front back : List α} (arranged : Arranged key rows (front ++ x :: y :: back))
    (same : key x = key y) : Arranged key rows (front ++ y :: x :: back) := by
  refine ⟨((List.Perm.swap x y back).append_left front).trans arranged.perm, ?_⟩
  obtain ⟨hfront, hpair, hcross⟩ := List.pairwise_append.mp arranged.descending
  obtain ⟨hx, hy⟩ := List.pairwise_cons.mp hpair
  obtain ⟨hy, hback⟩ := List.pairwise_cons.mp hy
  refine List.pairwise_append.mpr ⟨hfront, ?_, fun a mem b mem' => ?_⟩
  · refine List.pairwise_cons.mpr ⟨fun b mem => ?_, List.pairwise_cons.mpr ⟨fun b mem => ?_, hback⟩⟩
    · rcases List.mem_cons.mp mem with rfl | mem
      · exact same.le
      · exact hy b mem
    · exact hx b (List.mem_cons_of_mem _ mem)
  · refine hcross a mem b ?_
    simp only [List.mem_cons] at mem' ⊢
    rcases mem' with h | h | h
    · exact Or.inr (Or.inl h)
    · exact Or.inl h
    · exact Or.inr (Or.inr h)

/-- Rows with equal keys on both sides of a page boundary can come in an order that repeats one of them. -/
theorem collects_repeats {a : α} (pos : 0 < size) (mem : a ∈ rows) (apart : ¬OnePage key rows size a) :
    ∃ answer : Nat → List α, (∀ k, Arranged key rows (answer k)) ∧
      ∀ r, Collects (fun k => page (answer k) size k) 0 r → ¬r.Nodup := by
  obtain ⟨l, arranged⟩ := exists_arranged key rows
  obtain ⟨boundary, below, low, high⟩ := exists_boundary pos arranged mem apart
  let q := newer key rows a / size
  have short : boundary + 1 < l.length := by
    have all : upTo key rows a ≤ rows.length := List.countP_le_length
    rw [arranged.perm.length_eq]
    omega
  let x := l[boundary]
  let y := l[boundary + 1]
  have same : key x = key y :=
    (arranged.key_eq (a := a) (List.getElem?_eq_getElem _) low (by omega)).trans
      (arranged.key_eq (List.getElem?_eq_getElem short) (by omega) high).symm
  have split : l = l.take boundary ++ x :: y :: l.drop (boundary + 2) := by
    conv_lhs => rw [← List.take_append_drop boundary l, List.drop_eq_getElem_cons (by omega),
      List.drop_eq_getElem_cons short]
  let l' := l.take boundary ++ y :: x :: l.drop (boundary + 2)
  have arranged' : Arranged key rows l' := (split ▸ arranged).swap same
  have arrangements (k : Nat) : Arranged key rows (if k ≤ q then l else l') := by
    split
    next => exact arranged
    next => exact arranged'
  refine ⟨fun k => if k ≤ q then l else l', arrangements, fun r collected => ?_⟩
  refine collects_twice arrangements collected (Nat.zero_le q) (a := x) ?_ ?_
  · rw [if_pos le_rfl, mem_page pos]
    refine ⟨boundary, List.getElem?_eq_getElem _, (Nat.div_eq_iff pos).mpr ?_⟩
    have next : boundary + 1 = q * size + size := below.trans (Nat.succ_mul q size)
    omega
  · rw [if_neg (by omega), mem_page pos]
    refine ⟨boundary + 1, ?_, ?_⟩
    · have front : (l.take boundary).length = boundary := List.length_take_of_le (by omega)
      rw [List.getElem?_append_right (by omega), front]
      simp
    · rw [below, Nat.mul_div_cancel _ pos]

/-- Every row is collected once, whatever the arrangements of the successive answers, exactly if no
page boundary separates rows with equal keys. -/
theorem collected_once_iff (pos : 0 < size) (distinct : rows.Nodup) :
    (∀ answer : Nat → List α, (∀ k, Arranged key rows (answer k)) →
        ∃ r, Collects (fun k => page (answer k) size k) 0 r ∧ r.Nodup ∧ ∀ a, a ∈ r ↔ a ∈ rows) ↔
      ∀ a ∈ rows, OnePage key rows size a := by
  constructor
  · intro once a mem
    by_contra apart
    obtain ⟨answer, arranged, twice⟩ := collects_repeats pos mem apart
    obtain ⟨r, collected, nodup, _⟩ := once answer arranged
    exact twice r collected nodup
  · intro together answer arranged
    obtain ⟨r, collected⟩ := collects_ends pos arranged 0
    obtain ⟨nodup, mem⟩ := collects_once pos distinct arranged together collected
    exact ⟨r, collected, nodup, fun a => (mem a).trans (and_iff_left (Nat.zero_le _))⟩

end Collections

end Paging
