import Mathlib.Data.Nat.Bitwise

/-!
# Bits of a number

Adding a power of two to a number which lacks the bit sets that bit and no other.
A mask of one bit tests that bit.
-/

namespace OrbitBhyve.Foundation

theorem testBit_two_pow_add {x n : ℕ} (h : x.testBit n = false) (i : ℕ) :
    (2 ^ n + x).testBit i = (decide (i = n) || x.testBit i) := by
  induction n generalizing x i with
  | zero =>
    rw [Nat.testBit_zero, decide_eq_false_iff_not] at h
    cases i with
    | zero =>
      have hodd : (1 + x) % 2 = 1 := by omega
      simp [Nat.testBit_zero, hodd]
    | succ i =>
      have hhalf : (2 ^ 0 + x) / 2 = x / 2 := by omega
      rw [Nat.testBit_succ, Nat.testBit_succ, hhalf]
      simp
  | succ n ih =>
    rw [Nat.testBit_succ] at h
    cases i with
    | zero =>
      have hsame : (2 ^ (n + 1) + x) % 2 = x % 2 := by omega
      simp [Nat.testBit_zero, hsame]
    | succ i =>
      have hhalf : (2 ^ (n + 1) + x) / 2 = 2 ^ n + x / 2 := by omega
      rw [Nat.testBit_succ, Nat.testBit_succ, hhalf, ih h]
      simp

theorem lt_two_pow_of_bits {x n : ℕ} (h : ∀ i, x.testBit i = true → i < n) : x < 2 ^ n := by
  refine Nat.lt_pow_two_of_testBit x fun i hi => ?_
  by_contra hbit
  have := h i (by simpa using hbit)
  omega

theorem and_shift_ne_zero (n b : ℕ) : (n &&& 1 <<< b != 0) = n.testBit b := by
  rw [Nat.one_shiftLeft, Nat.and_two_pow]
  cases n.testBit b <;> simp

end OrbitBhyve.Foundation
