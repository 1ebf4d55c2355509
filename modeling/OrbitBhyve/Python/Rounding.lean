import OrbitBhyve.Wire.Varint

/-!
# Rounded floats

`round` on a binary float rounds its exact value, ties to even. A reading is
kept as the number of hundredths, so that equal readings are equal data.
-/

namespace OrbitBhyve.Python

open Wire

/-- A float rounded to two digits, or a value which `round` passes through. -/
inductive Reading where
  | nan
  | inf (negative : Bool)
  | hundredths (n : ℤ)
  deriving DecidableEq, Repr

/-- The integer nearest to `num / den`, ties to even. -/
def roundHalfEven (num den : ℕ) : ℕ :=
  let q := num / den
  let r := num % den
  if 2 * r < den then q else if den < 2 * r then q + 1 else q + q % 2

/-- Half a step past the greatest float: a quotient from here on does not round to a float. -/
def floatLimit : ℕ := 2 ^ 1024 - 2 ^ 970

theorem two_pow_le_floatLimit : 2 ^ 970 ≤ floatLimit := by
  have hsplit : (2 : ℕ) ^ 1024 = 2 ^ 970 * 2 ^ 54 := by rw [← pow_add]
  have htwice : (2 : ℕ) ^ 970 * 2 ≤ 2 ^ 970 * 2 ^ 54 := Nat.mul_le_mul_left _ (by norm_num)
  unfold floatLimit
  rw [hsplit]
  generalize (2 : ℕ) ^ 970 = x at *
  omega

/-- A number of at most 970 bits is a float, rounded. -/
theorem lt_floatLimit {n k : ℕ} (h : n < 2 ^ k) (hk : k ≤ 970) : n < floatLimit := by
  calc n < 2 ^ k := h
    _ ≤ 2 ^ 970 := by gcongr; decide
    _ ≤ floatLimit := two_pow_le_floatLimit

/-- `round(struct.unpack("<f", data)[0], 2)` on four bytes. -/
def readFloat32 (data : Bytes) : Reading :=
  let bits := data.foldr (fun b acc => b.toNat + 256 * acc) 0
  let negative := bits / 2 ^ 31 % 2 == 1
  let exponent := bits / 2 ^ 23 % 256
  let fraction := bits % 2 ^ 23
  if exponent = 255 then if fraction = 0 then .inf negative else .nan
  else
    -- the value is significand * 2 ^ (scale - 150)
    let significand := if exponent = 0 then fraction else fraction + 2 ^ 23
    let scale := if exponent = 0 then 1 else exponent
    let magnitude := if 150 ≤ scale then 100 * significand * 2 ^ (scale - 150)
      else roundHalfEven (100 * significand) (2 ^ (150 - scale))
    .hundredths (if negative then -magnitude else magnitude)

/-- Rounding moves a quotient by at most half a unit. -/
theorem roundHalfEven_spec (num : ℕ) {den : ℕ} (h : 0 < den) :
    2 * num ≤ den * (2 * roundHalfEven num den + 1) ∧
      den * (2 * roundHalfEven num den) ≤ 2 * num + den := by
  have hdiv := Nat.div_add_mod num den
  have hmod := Nat.mod_lt num h
  have hlow : den * (2 * (num / den)) = 2 * (den * (num / den)) := by ring
  have hhigh : den * (2 * (num / den + 1)) = 2 * (den * (num / den)) + 2 * den := by ring
  have hpar : num / den % 2 = 0 ∨ num / den % 2 = 1 := by omega
  simp only [roundHalfEven, Nat.mul_add_one]
  split_ifs with h1 h2
  · omega
  · omega
  · rcases hpar with hp | hp <;> simp only [hp, Nat.add_zero] <;> omega

example : readFloat32 [0x00, 0x00, 0x00, 0x3E] = .hundredths 12 := by decide +kernel

end OrbitBhyve.Python
