import Mathlib.Tactic

/-!
# Counters which wrap

A counter shows a growing total modulo `M`. A reader who counts the falls of the
reading knows the total, as long as the total grows by less than `M` between two
readings: it has wrapped once if the reading falls, and not at all if it does not.
-/

namespace OrbitBhyve.Foundation

variable {M T T' : ℕ}

/-- The wraps counted so far, after a reading. -/
def countWrap (last wraps reading : ℕ) : ℕ := if reading < last then wraps + 1 else wraps

def unwrapped (M wraps reading : ℕ) : ℕ := wraps * M + reading

theorem unwrapped_div_mod (M T : ℕ) : unwrapped M (T / M) (T % M) = T := by
  rw [unwrapped, Nat.mul_comm]
  exact Nat.div_add_mod T M

/-- Between two readings there is one wrap at most. -/
theorem div_eq_or_succ (hM : 0 < M) (hle : T ≤ T') (hlt : T' < T + M) :
    T' / M = T / M ∨ T' / M = T / M + 1 := by
  have hlow : T / M ≤ T' / M := Nat.div_le_div_right hle
  have hhigh : T' / M ≤ (T + M) / M := Nat.div_le_div_right hlt.le
  rw [Nat.add_div_right T hM] at hhigh
  omega

theorem mod_lt_mod_iff (hM : 0 < M) (hle : T ≤ T') (hlt : T' < T + M) :
    T' % M < T % M ↔ T' / M = T / M + 1 := by
  have hT := Nat.div_add_mod T M
  have hT' := Nat.div_add_mod T' M
  have hmod := Nat.mod_lt T hM
  rcases div_eq_or_succ hM hle hlt with hsame | hnext
  · rw [hsame] at hT' ⊢
    constructor
    · intro hfall
      omega
    · intro hsucc
      omega
  · rw [hnext, Nat.mul_succ] at hT'
    constructor
    · intro _
      exact hnext
    · intro _
      omega

theorem countWrap_div_mod (hM : 0 < M) (hle : T ≤ T') (hlt : T' < T + M) :
    countWrap (T % M) (T / M) (T' % M) = T' / M := by
  unfold countWrap
  split_ifs with hfall
  · exact ((mod_lt_mod_iff hM hle hlt).mp hfall).symm
  · rcases div_eq_or_succ hM hle hlt with hsame | hnext
    · exact hsame.symm
    · exact absurd ((mod_lt_mod_iff hM hle hlt).mpr hnext) hfall

theorem implied_of_fall (hM : 0 < M) (hle : T ≤ T') (hlt : T' < T + M) (hfall : T' % M < T % M) :
    M - T % M + T' % M = T' - T := by
  have hT := Nat.div_add_mod T M
  have hT' := Nat.div_add_mod T' M
  have hmod := Nat.mod_lt T hM
  rw [(mod_lt_mod_iff hM hle hlt).mp hfall, Nat.mul_succ] at hT'
  omega

end OrbitBhyve.Foundation
