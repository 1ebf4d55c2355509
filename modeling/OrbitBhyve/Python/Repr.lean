import Mathlib.Data.List.DropRight
import OrbitBhyve.Python.Floats
import OrbitBhyve.Python.Text

/-!
# Floats in a text

`repr` writes a float with the fewest digits which are read back as the same float,
and of those texts the nearest one.
-/

namespace OrbitBhyve.Python

/-- The decimals of `n` digits which may stand for a positive float, as digits and the exponent
of the last one. Under a power of two floats are closer than above it, so that the nearest
decimal may not be read back where the one above the float is. -/
def decimals (q : ℚ) (n : ℕ) : List (ℕ × ℤ) :=
  let e := Int.log 10 q - n + 1
  [(inUnits 10 e q, e), (inUnits 10 e q + 1, e)]

/-- The fewest digits which are read back as the float; seventeen are always enough. -/
def shortest (q : ℚ) : ℕ × ℤ :=
  (((List.range' 1 17).flatMap (decimals q)).find? fun d =>
    nearestFloat (d.1 * 10 ^ d.2) == q).getD (0, 0)

/-- `repr` of a positive float: an exponent is written where the point would be more than
three zeros before the digits, or more than sixteen places behind the first of them. -/
def reprPositive (q : ℚ) : List Char :=
  let (n, e) := shortest q
  let point := (Nat.toDigits 10 n).length + e
  let digits := (Nat.toDigits 10 n).rdropWhile (· == '0')
  if -4 < point ∧ point ≤ 16 then
    if point ≤ 0 then '0' :: '.' :: List.replicate (-point).toNat '0' ++ digits
    else if point < digits.length then
      digits.take point.toNat ++ '.' :: digits.drop point.toNat
    else digits ++ List.replicate (point.toNat - digits.length) '0' ++ ['.', '0']
  else
    let fraction := if digits.length = 1 then [] else '.' :: digits.drop 1
    let sign := if point ≤ 0 then '-' else '+'
    digits.take 1 ++ fraction ++ 'e' :: sign :: (twoDigits (point - 1).natAbs).toList

def reprFloat (q : ℚ) : String :=
  if q = 0 then "0.0"
  else if q < 0 then "-" ++ String.ofList (reprPositive (-q))
  else String.ofList (reprPositive q)

example : reprFloat (3602879701896397 / 2 ^ 55) = "0.1" := by decide +kernel

end OrbitBhyve.Python
