import Mathlib.Algebra.Order.BigOperators.Group.List
import Mathlib.Data.List.Chain
import Mathlib.Tactic

/-!
# Sums over consecutive pairs

A rate which is read from time to time is integrated by booking each interval
between two readings. The sum of what is booked grows with the readings as long as
nothing negative is booked, and does not change when a reading is put into an
interval whose parts come to the whole.
-/

namespace OrbitBhyve.Foundation

variable {α M : Type*}

section Sums

variable [AddCommMonoid M] {book : α → α → M} {a x b : α}

/-- What is booked between the items of a list and their successors. -/
def pairSum (book : α → α → M) : List α → M
  | a :: b :: rest => book a b + pairSum book (b :: rest)
  | [_] | [] => 0

@[simp] theorem pairSum_nil : pairSum book [] = 0 := rfl
@[simp] theorem pairSum_singleton (a : α) : pairSum book [a] = 0 := rfl
@[simp] theorem pairSum_cons_cons (a b : α) (rest : List α) :
    pairSum book (a :: b :: rest) = book a b + pairSum book (b :: rest) := rfl

theorem pairSum_append_cons (before rest : List α) (a : α) :
    pairSum book (before ++ a :: rest) =
      pairSum book (before ++ [a]) + pairSum book (a :: rest) := by
  induction before with
  | nil => simp
  | cons c before ih =>
    cases before with
    | nil => simp
    | cons d before =>
      simp only [List.cons_append, pairSum_cons_cons] at ih ⊢
      rw [ih, add_assoc]

/-- An item between two others changes nothing where its two parts come to the whole. -/
theorem pairSum_insert (h : book a x + book x b = book a b) (before rest : List α) :
    pairSum book (before ++ a :: x :: b :: rest) = pairSum book (before ++ a :: b :: rest) := by
  rw [pairSum_append_cons, pairSum_append_cons before (b :: rest), pairSum_cons_cons,
    pairSum_cons_cons, pairSum_cons_cons, ← add_assoc (book a x), h]

theorem pairSum_eq_sum_filter (books : α → Bool) (amount : α → α → M) (xs : List α) :
    pairSum (fun a b => if books a then amount a b else 0) xs =
      (((xs.zip xs.tail).filter fun p => books p.1).map fun p => amount p.1 p.2).sum := by
  induction xs with
  | nil => rfl
  | cons a xs ih =>
    cases xs with
    | nil => rfl
    | cons b xs =>
      rw [pairSum_cons_cons, ih, List.tail_cons, List.tail_cons, List.zip_cons_cons,
        List.filter_cons]
      split_ifs with ha
      · rfl
      · exact zero_add _

end Sums

section Order

variable [AddCommMonoid M] [PartialOrder M] [IsOrderedAddMonoid M] {book : α → α → M}

theorem pairSum_nonneg {xs : List α} (h : xs.IsChain fun a b => 0 ≤ book a b) :
    0 ≤ pairSum book xs := by
  induction xs with
  | nil => exact le_rfl
  | cons a xs ih =>
    cases xs with
    | nil => exact le_rfl
    | cons b xs =>
      obtain ⟨hab, hrest⟩ := List.isChain_cons_cons.mp h
      exact add_nonneg hab (ih hrest)

theorem pairSum_le_append {xs ys : List α} (h : (xs ++ ys).IsChain fun a b => 0 ≤ book a b) :
    pairSum book xs ≤ pairSum book (xs ++ ys) := by
  induction xs with
  | nil => exact pairSum_nonneg h
  | cons a xs ih =>
    cases xs with
    | nil => exact pairSum_nonneg h
    | cons b xs =>
      obtain ⟨-, hrest⟩ := List.isChain_cons_cons.mp h
      exact add_le_add_right (ih hrest) _

end Order

/-- The parts of an interval under a cap which the whole keeps. -/
theorem min_add_min_of_le [AddCommMonoid M] [LinearOrder M] [IsOrderedAddMonoid M] {s t cap : M}
    (hs : 0 ≤ s) (ht : 0 ≤ t) (h : s + t ≤ cap) : min s cap + min t cap = min (s + t) cap := by
  rw [min_eq_left h, min_eq_left ((le_add_of_nonneg_right ht).trans h),
    min_eq_left ((le_add_of_nonneg_left hs).trans h)]

end OrbitBhyve.Foundation
