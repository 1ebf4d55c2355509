import Mathlib.Logic.Function.Iterate
import Mathlib.Tactic

/-!
# Cyclic redundancy checks

A register of `w` bits is shifted one place at a time and reduced by a
generator whenever a one leaves it. The step is linear over exclusive or, and
injective when the generator is odd. A word is fed in at the top of the
register. Two words fed one after the other are one longer word as long as
both fit the register together, so a burst of at most `w` wrong bits always
leaves a different register behind.
-/

namespace OrbitBhyve.Foundation.Crc

variable {w : ℕ}

/-- Shift one bit out and reduce by the generator if it was set. -/
def step (g c : BitVec w) : BitVec w := if c.msb then (c <<< 1) ^^^ g else c <<< 1

/-- Feed the `k` low bits of `u` to the register. -/
def feed (g : BitVec w) (k : ℕ) (s u : BitVec w) : BitVec w :=
  (step g)^[k] (s ^^^ (u <<< (w - k)))

variable {g : BitVec w}

theorem step_xor (a b : BitVec w) : step g (a ^^^ b) = step g a ^^^ step g b := by
  unfold step
  rw [BitVec.msb_xor, BitVec.shiftLeft_xor_distrib]
  cases a.msb <;> cases b.msb
  · simp
  · simp only [Bool.false_xor, if_true, Bool.false_eq_true, if_false]
    exact BitVec.xor_assoc _ _ _
  · simp only [Bool.xor_false, if_true, Bool.false_eq_true, if_false]
    ac_rfl
  · simp only [Bool.xor_self, Bool.false_eq_true, if_false, if_true]
    calc a <<< 1 ^^^ b <<< 1 = a <<< 1 ^^^ b <<< 1 ^^^ (g ^^^ g) := by simp
      _ = a <<< 1 ^^^ g ^^^ (b <<< 1 ^^^ g) := by ac_rfl

theorem iterate_step_xor (k : ℕ) (a b : BitVec w) :
    (step g)^[k] (a ^^^ b) = (step g)^[k] a ^^^ (step g)^[k] b := by
  induction k generalizing a b with
  | zero => rfl
  | succ k ih => rw [Function.iterate_succ_apply, Function.iterate_succ_apply,
      Function.iterate_succ_apply, step_xor, ih]

/-- Only zero steps to zero: a shifted value has no lowest bit, an odd generator has one. -/
theorem eq_zero_of_step (hg : g.getLsbD 0 = true) {c : BitVec w} (h : step g c = 0#w) :
    c = 0#w := by
  unfold step at h
  cases hc : c.msb with
  | true =>
    rw [hc, if_pos rfl] at h
    have hbit := congrArg (fun x => x.getLsbD 0) h
    simp [hg] at hbit
  | false =>
    rw [hc, if_neg (by decide)] at h
    have hlt := BitVec.msb_eq_false_iff_two_mul_lt.mp hc
    have hval := congrArg BitVec.toNat h
    simp only [BitVec.toNat_shiftLeft, Nat.shiftLeft_eq, BitVec.toNat_ofNat, Nat.zero_mod] at hval
    rw [Nat.mod_eq_of_lt (by omega)] at hval
    apply BitVec.eq_of_toNat_eq
    rw [BitVec.toNat_ofNat, Nat.zero_mod]
    omega

theorem step_injective (hg : g.getLsbD 0 = true) : Function.Injective (step g) := by
  intro a b h
  apply BitVec.xor_eq_zero_iff.mp
  apply eq_zero_of_step hg
  rw [step_xor, h, BitVec.xor_self]

/-- A value with `k` leading zeros is only shifted by `k` steps. -/
theorem iterate_step_of_lt (k : ℕ) {c : BitVec w} (hk : k ≤ w) (h : c.toNat < 2 ^ (w - k)) :
    (step g)^[k] c = c <<< k := by
  induction k with
  | zero => simp
  | succ k ih =>
    have hpow : 2 ^ (w - k) = 2 * 2 ^ (w - (k + 1)) := by
      rw [show w - k = w - (k + 1) + 1 by omega, pow_succ]
      omega
    have hshift : (c <<< k).toNat = c.toNat * 2 ^ k := by
      have hfit : 2 ^ (w - k) * 2 ^ k = 2 ^ w := by rw [← pow_add, Nat.sub_add_cancel (by omega)]
      have hlt := Nat.mul_lt_mul_of_pos_right (show c.toNat < 2 ^ (w - k) by omega)
        (Nat.two_pow_pos k)
      rw [BitVec.toNat_shiftLeft, Nat.shiftLeft_eq, Nat.mod_eq_of_lt (by omega)]
    have hmsb : (c <<< k).msb = false := by
      rw [BitVec.msb_eq_false_iff_two_mul_lt, hshift]
      calc 2 * (c.toNat * 2 ^ k) = c.toNat * 2 ^ (k + 1) := by ring
        _ < 2 ^ (w - (k + 1)) * 2 ^ (k + 1) := Nat.mul_lt_mul_of_pos_right h (Nat.two_pow_pos _)
        _ = 2 ^ w := by rw [← pow_add, Nat.sub_add_cancel hk]
    rw [Function.iterate_succ_apply', ih (by omega) (by omega), step, hmsb,
      if_neg (by decide), ← BitVec.shiftLeft_add]

theorem feed_injective_state (hg : g.getLsbD 0 = true) (k : ℕ) (u : BitVec w) :
    Function.Injective fun s => feed g k s u := by
  intro s s' h
  exact (BitVec.xor_left_inj _).mp ((step_injective hg).iterate k h)

/-- Nothing is lost when a word is shifted to the top of the register. -/
theorem eq_of_shiftLeft {k : ℕ} (hk : k ≤ w) {u v : BitVec w} (hu : u.toNat < 2 ^ k)
    (hv : v.toNat < 2 ^ k) (h : u <<< (w - k) = v <<< (w - k)) : u = v := by
  have hval : ∀ {x : BitVec w}, x.toNat < 2 ^ k →
      (x <<< (w - k)).toNat = x.toNat * 2 ^ (w - k) := by
    intro x hx
    have hlt := Nat.mul_lt_mul_of_pos_right hx (Nat.two_pow_pos (w - k))
    rw [← pow_add, Nat.add_sub_cancel' hk] at hlt
    rw [BitVec.toNat_shiftLeft, Nat.shiftLeft_eq, Nat.mod_eq_of_lt hlt]
  have heq := congrArg BitVec.toNat h
  rw [hval hu, hval hv] at heq
  exact BitVec.eq_of_toNat_eq (Nat.eq_of_mul_eq_mul_right (Nat.two_pow_pos _) heq)

theorem feed_injective_word (hg : g.getLsbD 0 = true) {k : ℕ} (hk : k ≤ w) (s : BitVec w)
    {u v : BitVec w} (hu : u.toNat < 2 ^ k) (hv : v.toNat < 2 ^ k)
    (h : feed g k s u = feed g k s v) : u = v :=
  eq_of_shiftLeft hk hu hv ((BitVec.xor_right_inj _).mp ((step_injective hg).iterate k h))

/-- Two words which fit the register together are fed as one. -/
theorem feed_feed {j k : ℕ} (hjk : j + k ≤ w) (s v : BitVec w) {u : BitVec w}
    (hu : u.toNat < 2 ^ k) :
    feed g k (feed g j s v) u = feed g (j + k) s ((v <<< k) ^^^ u) := by
  have hlow : (step g)^[j] (u <<< (w - (j + k))) = u <<< (w - k) := by
    rw [iterate_step_of_lt j (by omega), ← BitVec.shiftLeft_add]
    · congr 1
      omega
    · rw [BitVec.toNat_shiftLeft, Nat.shiftLeft_eq]
      calc u.toNat * 2 ^ (w - (j + k)) % 2 ^ w ≤ u.toNat * 2 ^ (w - (j + k)) := Nat.mod_le _ _
        _ < 2 ^ k * 2 ^ (w - (j + k)) := Nat.mul_lt_mul_of_pos_right hu (Nat.two_pow_pos _)
        _ = 2 ^ (w - j) := by
          rw [← pow_add]
          congr 1
          omega
  have hhigh : v <<< k <<< (w - (j + k)) = v <<< (w - j) := by
    rw [← BitVec.shiftLeft_add]
    congr 1
    omega
  unfold feed
  rw [← hlow, ← iterate_step_xor, ← Function.iterate_add_apply, Nat.add_comm k j,
    BitVec.shiftLeft_xor_distrib, hhigh, BitVec.xor_assoc]

end OrbitBhyve.Foundation.Crc
