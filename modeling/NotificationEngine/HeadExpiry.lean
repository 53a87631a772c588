import Mathlib.Data.List.Basic
import Mathlib.Order.Lattice

namespace HeadExpiry

variable {α τ : Type} [LinearOrder τ]

/-- A first-in-first-out queue in which only the head can expire, once its deadline is over. -/
def settle (deadline : α → τ) (now : τ) (q : List α) : List α :=
  q.dropWhile fun m => deadline m < now

/-- The messages arrive one by one; the queue settles before each arrival. -/
def arrive (deadline arrival : α → τ) : List α → List α → List α
  | q, [] => q
  | q, m :: ms => arrive deadline arrival (settle deadline (arrival m) q ++ [m]) ms

/-- The queue at time `t`. -/
def queueAt (deadline arrival : α → τ) (ms : List α) (t : τ) : List α :=
  settle deadline t (arrive deadline arrival [] (ms.filter fun m => arrival m ≤ t))

/-- At no time does a message whose deadline is over sit in the queue. -/
def NeverOverdue (deadline arrival : α → τ) (ms : List α) : Prop :=
  ∀ t, ∀ m ∈ queueAt deadline arrival ms t, ¬deadline m < t

variable {deadline arrival : α → τ}

/-- Settling early makes no difference later on. -/
theorem settle_append {s t : τ} (h : s ≤ t) (q ms : List α) :
    settle deadline t (settle deadline s q ++ ms) = settle deadline t (q ++ ms) := by
  induction q with
  | nil => rfl
  | cons m q ih =>
    by_cases hm : deadline m < s
    · have later : deadline m < t := lt_of_lt_of_le hm h
      simpa [settle, hm, later] using ih
    · simp [settle, hm]

theorem settle_arrive {t : τ} {ms : List α} (past : ∀ m ∈ ms, arrival m ≤ t) (q : List α) :
    settle deadline t (arrive deadline arrival q ms) = settle deadline t (q ++ ms) := by
  induction ms generalizing q with
  | nil => simp [arrive]
  | cons m ms ih =>
    have now : arrival m ≤ t := past m List.mem_cons_self
    have rest := ih (fun m' hm' => past m' (List.mem_cons_of_mem m hm')) (settle deadline (arrival m) q ++ [m])
    rw [arrive, rest, List.append_assoc, settle_append now]
    rfl

theorem queueAt_eq (ms : List α) (t : τ) :
    queueAt deadline arrival ms t = settle deadline t (ms.filter fun m => arrival m ≤ t) := by
  have past : ∀ m ∈ ms.filter (fun m => arrival m ≤ t), arrival m ≤ t := by simp
  rw [queueAt, settle_arrive past]
  rfl

theorem mem_settle_of_behind {t : τ} {a b : α} {q : List α} (order : [a, b].Sublist q)
    (stays : ¬deadline a < t) : b ∈ settle deadline t q := by
  induction q with
  | nil => cases order
  | cons m q ih =>
    by_cases hm : deadline m < t
    · have behind : [a, b].Sublist q := by
        cases order with
        | cons _ rest => exact rest
        | cons_cons _ rest => exact absurd hm stays
      simpa [settle, hm] using ih behind
    · have all : settle deadline t (m :: q) = m :: q := by simp [settle, hm]
      rw [all]
      exact order.subset (by simp)

/-- In a queue sorted by deadline nothing overdue is left. -/
theorem not_overdue_of_sorted {t : τ} {q : List α}
    (sorted : q.Pairwise fun a b => deadline a ≤ deadline b) :
    ∀ m ∈ settle deadline t q, ¬deadline m < t := by
  induction q with
  | nil => simp [settle]
  | cons m q ih =>
    obtain ⟨first, rest⟩ := List.pairwise_cons.mp sorted
    by_cases hm : deadline m < t
    · simpa [settle, hm] using ih rest
    · intro m' hm'
      have all : settle deadline t (m :: q) = m :: q := by simp [settle, hm]
      rw [all] at hm'
      rcases List.mem_cons.mp hm' with rfl | behind
      · exact hm
      · exact fun late => hm (lt_of_le_of_lt (first m' behind) late)

/-- Messages leave on time exactly if they arrive in the order of their deadlines. -/
theorem neverOverdue_iff {ms : List α} (ahead : ∀ m ∈ ms, arrival m ≤ deadline m) :
    NeverOverdue deadline arrival ms ↔ ms.Pairwise fun a b => deadline a ≤ deadline b := by
  constructor
  · intro punctual
    rw [List.pairwise_iff_forall_sublist]
    intro a b order
    by_contra late
    have ha := ahead a (order.subset (by simp))
    have hb := ahead b (order.subset (by simp))
    have arrived : [a, b].Sublist (ms.filter fun m => arrival m ≤ deadline a) := by
      have both : [a, b].filter (fun m => arrival m ≤ deadline a) = [a, b] := by
        simp [ha, le_of_lt (lt_of_le_of_lt hb (not_le.mp late))]
      rw [← both]
      exact order.filter _
    have stuck := mem_settle_of_behind arrived (lt_irrefl (deadline a))
    rw [← queueAt_eq] at stuck
    exact punctual (deadline a) b stuck (not_le.mp late)
  · intro sorted t m hm
    rw [queueAt_eq] at hm
    exact not_overdue_of_sorted (sorted.filter _) m hm

end HeadExpiry
