import Mathlib.Algebra.Order.Floor.Semifield
import Mathlib.Tactic

/-!
# Ticks which land on a deadline

A clock ticks at a regular interval of `P` seconds. In the last stretch before a
deadline the interval is cut short to the whole seconds which are left, one at
least. Then a tick before the deadline is followed by one less than a second past
it, and some tick falls into the second after it.
-/

namespace OrbitBhyve.Foundation

variable {K : Type*} [Field K] [LinearOrder K] [IsStrictOrderedRing K] [FloorSemiring K]

/-- The interval until the next tick, with `left` until the deadline. -/
def nextInterval (P : ℕ) (left : K) : ℕ := if 0 < left ∧ left < P then max 1 ⌊left⌋₊ else P

def tick (P : ℕ) (deadline t : K) : K := t + nextInterval P (deadline - t)

variable {P : ℕ} {left deadline t : K}

omit [IsStrictOrderedRing K] in
theorem one_le_nextInterval (hP : 1 ≤ P) (left : K) : 1 ≤ nextInterval P left := by
  unfold nextInterval
  split_ifs
  · exact le_max_left 1 _
  · exact hP

theorem nextInterval_lt (h : 0 < left) : (nextInterval P left : K) < left + 1 := by
  unfold nextInterval
  split_ifs with hlast
  · have hfloor : (⌊left⌋₊ : K) ≤ left := Nat.floor_le h.le
    rcases max_choice 1 ⌊left⌋₊ with hone | hleft
    · rw [hone, Nat.cast_one]
      linarith
    · rw [hleft]
      linarith
  · have hlong : (P : K) ≤ left := by
      by_contra hshort
      exact hlast ⟨h, not_le.mp hshort⟩
    linarith

theorem tick_lt (h : t < deadline) : tick P deadline t < deadline + 1 := by
  have hnext : (nextInterval P (deadline - t) : K) < deadline - t + 1 :=
    nextInterval_lt (sub_pos.mpr h)
  unfold tick
  linarith

theorem add_one_le_tick (hP : 1 ≤ P) (deadline t : K) : t + 1 ≤ tick P deadline t := by
  have hone : ((1 : ℕ) : K) ≤ nextInterval P (deadline - t) :=
    Nat.cast_le.mpr (one_le_nextInterval hP _)
  rw [Nat.cast_one] at hone
  unfold tick
  linarith

/-- Some tick is the first at or past the deadline, and less than a second past it. -/
theorem exists_landing (hP : 1 ≤ P) (h : t < deadline) :
    ∃ n, (∀ k < n, (tick P deadline)^[k] t < deadline) ∧ deadline ≤ (tick P deadline)^[n] t ∧
      (tick P deadline)^[n] t < deadline + 1 := by
  -- the seconds which are left bound the ticks which are
  obtain ⟨m, hm⟩ : ∃ m : ℕ, deadline - t ≤ m := ⟨_, Nat.le_ceil _⟩
  induction m generalizing t with
  | zero =>
    rw [Nat.cast_zero] at hm
    linarith
  | succ m ih =>
    by_cases hnext : tick P deadline t < deadline
    · have hless : deadline - tick P deadline t ≤ m := by
        have hone := add_one_le_tick hP deadline t
        rw [Nat.cast_succ] at hm
        linarith
      obtain ⟨n, hbefore, hland⟩ := ih hnext hless
      refine ⟨n + 1, ?_, hland⟩
      intro k hk
      cases k with
      | zero => exact h
      | succ k => exact hbefore k (Nat.lt_of_succ_lt_succ hk)
    · refine ⟨1, ?_, not_lt.mp hnext, tick_lt h⟩
      intro k hk
      obtain rfl : k = 0 := Nat.lt_one_iff.mp hk
      exact h

end OrbitBhyve.Foundation
