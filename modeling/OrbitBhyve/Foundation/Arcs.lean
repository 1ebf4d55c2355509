import Mathlib.Data.List.Basic
import Mathlib.Data.List.Nodup
import Mathlib.Tactic

/-!
# Arcs of a wrapping counter

The values which a counter modulo `m` takes in `n` steps from `a`. They are
distinct up to a whole turn, and two arcs meet as soon as one of them reaches
the start of the other.
-/

namespace OrbitBhyve.Foundation

def arc (m a n : ℕ) : List ℕ := (List.range n).map fun i => (a + i) % m

variable {m a b n k : ℕ}

theorem mem_arc {x : ℕ} : x ∈ arc m a n ↔ ∃ i < n, (a + i) % m = x := by
  simp [arc]

@[simp] theorem length_arc (m a n : ℕ) : (arc m a n).length = n := by simp [arc]

theorem arc_append (m a n k : ℕ) : arc m a n ++ arc m ((a + n) % m) k = arc m a (n + k) := by
  have hshift : arc m ((a + n) % m) k = (List.range k).map fun i => (a + (n + i)) % m := by
    apply List.map_congr_left
    intro i _
    rw [Nat.mod_add_mod, Nat.add_assoc]
  rw [hshift, arc, arc, List.range_add, List.map_append, List.map_map]
  rfl

/-- The steps after which a counter at `a` is at `b`. -/
def stepsTo (m a b : ℕ) : ℕ := (b + (m - a)) % m

theorem add_stepsTo (ha : a < m) (hb : b < m) : (a + stepsTo m a b) % m = b := by
  have hturn : a + (b + (m - a)) = b + m := by omega
  rw [stepsTo, Nat.add_mod_mod, hturn, Nat.add_mod_right, Nat.mod_eq_of_lt hb]

theorem nodup_arc (hm : 0 < m) : (arc m a n).Nodup ↔ n ≤ m := by
  rw [arc, List.nodup_map_iff_inj_on List.nodup_range]
  constructor
  · intro hinj
    by_contra hlong
    have hturn := hinj 0 (List.mem_range.mpr (by omega)) m (List.mem_range.mpr (by omega))
      (by rw [Nat.add_mod_right, Nat.add_zero])
    omega
  · intro hn i hi j hj hij
    rw [List.mem_range] at hi hj
    have hmod : i ≡ j [MOD m] := Nat.ModEq.add_left_cancel' a hij
    exact Nat.ModEq.eq_of_lt_of_lt hmod (by omega) (by omega)

theorem start_mem_arc (ha : a < m) (hn : 0 < n) : a ∈ arc m a n :=
  mem_arc.mpr ⟨0, hn, by rw [Nat.add_zero, Nat.mod_eq_of_lt ha]⟩

theorem mem_arc_of_stepsTo (ha : a < m) (hb : b < m) (h : stepsTo m a b < n) : b ∈ arc m a n :=
  mem_arc.mpr ⟨stepsTo m a b, h, add_stepsTo ha hb⟩

theorem stepsTo_add_stepsTo (ha : a < m) (hb : b < m) (hne : a ≠ b) :
    stepsTo m a b + stepsTo m b a = m := by
  unfold stepsTo
  rcases Nat.lt_or_gt_of_ne hne with hlt | hgt
  · have hforth : (b + (m - a)) % m = b - a := by
      rw [show b + (m - a) = b - a + m by omega, Nat.add_mod_right, Nat.mod_eq_of_lt (by omega)]
    have hback : (a + (m - b)) % m = a + (m - b) := Nat.mod_eq_of_lt (by omega)
    omega
  · have hforth : (b + (m - a)) % m = b + (m - a) := Nat.mod_eq_of_lt (by omega)
    have hback : (a + (m - b)) % m = a - b := by
      rw [show a + (m - b) = a - b + m by omega, Nat.add_mod_right, Nat.mod_eq_of_lt (by omega)]
    omega

/-- Two arcs which begin have no value in common exactly when neither reaches the other. -/
theorem disjoint_arc (ha : a < m) (hb : b < m) (hn : 0 < n) (hk : 0 < k) :
    List.Disjoint (arc m a n) (arc m b k) ↔ n ≤ stepsTo m a b ∧ k ≤ stepsTo m b a := by
  constructor
  · intro hdisjoint
    constructor
    · by_contra hreach
      exact hdisjoint (mem_arc_of_stepsTo ha hb (by omega)) (start_mem_arc hb hk)
    · by_contra hreach
      exact hdisjoint (start_mem_arc ha hn) (mem_arc_of_stepsTo hb ha (by omega))
  · rintro ⟨hforth, hback⟩ x hx hx'
    obtain ⟨i, hi, rfl⟩ := mem_arc.mp hx
    obtain ⟨j, hj, hij⟩ := mem_arc.mp hx'
    have hne : a ≠ b := by
      rintro rfl
      have hzero : stepsTo m a a = 0 := by
        rw [stepsTo, show a + (m - a) = m by omega, Nat.mod_self]
      omega
    have hturn := stepsTo_add_stepsTo ha hb hne
    have hway : a + stepsTo m a b ≡ b [MOD m] :=
      (add_stepsTo ha hb).trans (Nat.mod_eq_of_lt hb).symm
    have hmod : a + (stepsTo m a b + j) ≡ a + i [MOD m] := by
      rw [← Nat.add_assoc]
      exact (hway.add_right j).trans hij
    have heq := Nat.ModEq.eq_of_lt_of_lt (Nat.ModEq.add_left_cancel' a hmod) (by omega) (by omega)
    omega

end OrbitBhyve.Foundation
