import Mathlib.Order.Interval.Set.Defs
import Mathlib.Order.MinMax
import Mathlib.Order.Monotone.Basic

namespace CappedWindows

variable {α : Type} [LinearOrder α]

/-- The values between two successive terms of a sequence, both terms capped. -/
def window (f : Nat → α) (cap : α) (n : Nat) : Set α := Set.Icc (min (f n) cap) (min (f (n + 1)) cap)

section Order

variable {f : Nat → α} {cap a b : α} {n m : Nat}

theorem low_le_high (mono : Monotone f) (cap : α) (n : Nat) : min (f n) cap ≤ min (f (n + 1)) cap :=
  min_le_min_right cap (mono (Nat.le_succ n))

theorem high_le_low (mono : Monotone f) (cap : α) (lt : n < m) : min (f (n + 1)) cap ≤ min (f m) cap :=
  min_le_min_right cap (mono lt)

theorem ordered (mono : Monotone f) (lt : n < m) (ha : a ∈ window f cap n) (hb : b ∈ window f cap m) :
    a ≤ b :=
  ha.2.trans ((high_le_low mono cap lt).trans hb.1)

/-- Two windows share the cap, or the term they meet at. -/
theorem shared (mono : StrictMono f) (lt : n < m) (hn : a ∈ window f cap n) (hm : a ∈ window f cap m) :
    a = cap ∨ m = n + 1 ∧ a = f m := by
  have high : a = min (f (n + 1)) cap :=
    le_antisymm hn.2 ((high_le_low mono.monotone cap lt).trans hm.1)
  have low : a = min (f m) cap :=
    le_antisymm (hn.2.trans (high_le_low mono.monotone cap lt)) hm.1
  rcases le_total cap (f (n + 1)) with capped | below
  · left
    rw [high, min_eq_right capped]
  · have first : a = f (n + 1) := by rw [high, min_eq_left below]
    rcases min_choice (f m) cap with term | top
    · right
      have same : f (n + 1) = f m := by rw [← first, low, term]
      have next : n + 1 = m := mono.injective same
      exact ⟨next.symm, by rw [first, same]⟩
    · left
      rw [low, top]

end Order

end CappedWindows
