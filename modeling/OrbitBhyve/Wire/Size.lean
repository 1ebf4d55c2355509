import OrbitBhyve.Wire.Protobuf

/-!
# The size of a message

A varint takes one byte for every seven bits of its number, and a field adds its
tag and, for bytes, their length.
-/

namespace OrbitBhyve.Wire

def varintSize (n : ℕ) : ℕ := Nat.log 128 n + 1

theorem varintSize_of_lt {n : ℕ} (h : n < 128) : varintSize n = 1 := by
  rw [varintSize, Nat.log_of_lt h]

theorem varintSize_eq {n k : ℕ} (hlow : 128 ^ k ≤ n) (hhigh : n < 128 ^ (k + 1)) :
    varintSize n = k + 1 := by
  rw [varintSize, Nat.log_eq_of_pow_le_of_lt_pow hlow hhigh]

theorem varintSize_of_le {n : ℕ} (h : 128 ≤ n) : varintSize n = varintSize (n / 128) + 1 := by
  have hpos := Nat.log_pos (b := 128) (by decide) h
  rw [varintSize, varintSize, Nat.log_div_base]
  omega

theorem varintSize_tag {f w : ℕ} (hf : f < 16) (hw : w < 8) : varintSize (f <<< 3 ||| w) = 1 := by
  apply varintSize_of_lt
  have hshift : f <<< 3 < 2 ^ 7 := by
    rw [Nat.shiftLeft_eq]
    omega
  exact Nat.or_lt_two_pow hshift (by omega)

theorem length_pbVarint (n : ℕ) : (pbVarint n).length = varintSize n := by
  induction n using Nat.strongRecOn with
  | ind n ih =>
    by_cases hsmall : n < 128
    · rw [pbVarint_of_lt hsmall, varintSize_of_lt hsmall, List.length_singleton]
    · have hle : 128 ≤ n := Nat.not_lt.mp hsmall
      rw [pbVarint_of_le hle, List.length_cons, ih (n / 128) (by omega), varintSize_of_le hle]

theorem length_pbFieldVarint (f n : ℕ) :
    (pbFieldVarint f n).length = varintSize (f <<< 3 ||| 0) + varintSize n := by
  rw [pbFieldVarint, List.length_append, length_pbVarint, length_pbVarint]

theorem length_pbFieldBytes (f : ℕ) (d : Bytes) :
    (pbFieldBytes f d).length = varintSize (f <<< 3 ||| 2) + varintSize d.length + d.length := by
  rw [pbFieldBytes, List.length_append, List.length_append, length_pbVarint, length_pbVarint]

end OrbitBhyve.Wire
