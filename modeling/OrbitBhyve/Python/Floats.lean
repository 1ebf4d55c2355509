import Mathlib.Algebra.Order.Field.Power
import Mathlib.Data.Int.Log
import Mathlib.Data.Rat.Floor
import Mathlib.Tactic.Linarith
import Mathlib.Tactic.NormNum
import Mathlib.Tactic.Ring
import OrbitBhyve.Python.Rounding

/-!
# Floats as rationals

A float is the rational it stands for, and an operation gives the float nearest to
the exact result, ties to even. That moves the result by a part in `2 ^ 53` of it,
or by half of the least float, at most.
-/

namespace OrbitBhyve.Python

/-- A rational from zero on in units of `b ^ e`, ties to even. -/
def inUnits (b : ℕ) (e : ℤ) (q : ℚ) : ℕ :=
  let scaled := q / (b : ℚ) ^ e
  roundHalfEven scaled.num.toNat scaled.den

/-- The least float over zero. -/
def leastFloat : ℚ := 2 ^ (-1074 : ℤ)

theorem leastFloat_pos : 0 < leastFloat := by
  unfold leastFloat
  positivity

/-- The exponent of the last bit of a float near a positive rational. -/
def lastBit (q : ℚ) : ℤ := max (Int.log 2 q - 52) (-1074)

def nearestFloat (q : ℚ) : ℚ := inUnits 2 (lastBit q) q * 2 ^ lastBit q

/-- The float nearest to a rational, where that is not past the greatest float. -/
def floatOf (q : ℚ) : ℚ := if q < 0 then -nearestFloat (-q) else nearestFloat q

/-- `round(x, digits)` with `scale = 10 ** digits`: the decimal nearest to the float, as a
float. -/
def roundTo (scale : ℕ) (x : ℚ) : ℚ :=
  let magnitude := floatOf ((roundHalfEven (x.num.natAbs * scale) x.den : ℚ) / scale)
  if x.num < 0 then -magnitude else magnitude

/-! ## What rounding leaves out -/

theorem abs_roundHalfEven_sub_le {q : ℚ} (h : 0 ≤ q) :
    |(roundHalfEven q.num.toNat q.den : ℚ) - q| ≤ 1 / 2 := by
  obtain ⟨hlow, hhigh⟩ := roundHalfEven_spec q.num.toNat q.den_pos
  set r := roundHalfEven q.num.toNat q.den
  have hden : (0 : ℚ) < q.den := by exact_mod_cast q.den_pos
  have hnum : (q.num.toNat : ℚ) = q * q.den := by
    have hcast : ((q.num.toNat : ℤ) : ℚ) = q.num := by
      rw [Int.toNat_of_nonneg (Rat.num_nonneg.mpr h)]
    rw [Rat.mul_den_eq_num]
    exact_mod_cast hcast
  have hlow' : 2 * (q.num.toNat : ℚ) ≤ q.den * (2 * r + 1) := by exact_mod_cast hlow
  have hhigh' : (q.den : ℚ) * (2 * r) ≤ 2 * q.num.toNat + q.den := by exact_mod_cast hhigh
  rw [hnum] at hlow' hhigh'
  have hbelow : q.den * (2 * q) ≤ q.den * (2 * (r : ℚ) + 1) := by linarith
  have habove : q.den * (2 * (r : ℚ)) ≤ q.den * (2 * q + 1) := by linarith
  have hbelow := le_of_mul_le_mul_left hbelow hden
  have habove := le_of_mul_le_mul_left habove hden
  rw [abs_le]
  constructor <;> linarith

/-- Counting in units of `2 ^ e` leaves out half a unit. -/
theorem abs_inUnits_sub_le {q : ℚ} (h : 0 ≤ q) (e : ℤ) :
    |(inUnits 2 e q : ℚ) * 2 ^ e - q| ≤ 2 ^ e / 2 := by
  have hunit : (0 : ℚ) < 2 ^ e := by positivity
  have hround := abs_roundHalfEven_sub_le (div_nonneg h hunit.le)
  have hscale : (inUnits 2 e q : ℚ) * 2 ^ e - q =
      ((inUnits 2 e q : ℚ) - q / 2 ^ e) * 2 ^ e := by
    rw [sub_mul, div_mul_cancel₀ q hunit.ne']
  rw [hscale, abs_mul, abs_of_pos hunit]
  calc |(inUnits 2 e q : ℚ) - q / 2 ^ e| * 2 ^ e ≤ 1 / 2 * 2 ^ e := by
        exact mul_le_mul_of_nonneg_right hround hunit.le
    _ = 2 ^ e / 2 := by ring

theorem nearestFloat_zero : nearestFloat 0 = 0 := by
  rw [nearestFloat, inUnits, zero_div]
  exact zero_mul _

theorem abs_nearestFloat_sub_le {q : ℚ} (h : 0 ≤ q) :
    |nearestFloat q - q| ≤ q / 2 ^ 53 + leastFloat / 2 := by
  have hleast := leastFloat_pos
  obtain rfl | hpos := h.eq_or_lt
  · rw [nearestFloat_zero, sub_zero, abs_zero]
    linarith
  have hround := abs_inUnits_sub_le h (lastBit q)
  refine hround.trans ?_
  obtain hlog | hlow := max_choice (Int.log 2 q - 52) (-1074)
  · have hpower : (2 : ℚ) ^ lastBit q / 2 = 2 ^ Int.log 2 q / 2 ^ 53 := by
      rw [lastBit, hlog, zpow_sub₀ (by norm_num)]
      norm_num
      ring
    have hle : (2 : ℚ) ^ Int.log 2 q ≤ q := by
      exact_mod_cast Int.zpow_log_le_self (b := 2) (by norm_num) hpos
    rw [hpower]
    have hshare : (2 : ℚ) ^ Int.log 2 q / 2 ^ 53 ≤ q / 2 ^ 53 := by gcongr
    linarith
  · have hshare : (0 : ℚ) ≤ q / 2 ^ 53 := by positivity
    rw [lastBit, hlow, ← leastFloat]
    linarith

/-- An operation on floats is exact up to a part of its result. -/
theorem abs_floatOf_sub_le (q : ℚ) : |floatOf q - q| ≤ |q| / 2 ^ 53 + leastFloat / 2 := by
  rw [floatOf]
  split_ifs with hneg
  · have hround := abs_nearestFloat_sub_le (neg_nonneg.mpr hneg.le)
    rw [abs_of_neg hneg, ← abs_neg]
    have hsame : -(-nearestFloat (-q) - q) = nearestFloat (-q) - -q := by ring
    rw [hsame]
    exact hround
  · have hnonneg := not_lt.mp hneg
    rw [abs_of_nonneg hnonneg]
    exact abs_nearestFloat_sub_le hnonneg

/-- `1 / 200` is a float above the exact quotient. -/
example : roundTo 100 (floatOf (1 / 200)) = floatOf (1 / 100) := by decide +kernel

end OrbitBhyve.Python
