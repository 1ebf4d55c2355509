import Mathlib.Algebra.Order.Group.Defs
import Mathlib.Order.Bounds.Basic
import Mathlib.Tactic

/-!
# A window which closes when it goes quiet

A reader waits for marks. Until the first one it waits up to a deadline; each
mark then holds the window open for a fixed gap more, never past the deadline.
The window ends at the first instant which is the deadline or which has a mark
behind it and none within the gap.
-/

namespace OrbitBhyve.Foundation

variable {τ : Type*} [AddCommMonoid τ] [LinearOrder τ] [IsOrderedCancelAddMonoid τ]

/-- The end of a window which is open up to `limit`, with the marks still to come.
A mark at the limit itself is too late. -/
def windowEnd (quiet deadline : τ) : τ → List τ → τ
  | limit, [] => limit
  | limit, t :: ts =>
    if limit ≤ t then limit else windowEnd quiet deadline (min (t + quiet) deadline) ts

/-- A mark lies a gap behind `t`, and none is nearer. -/
def Quiet (quiet : τ) (marks : List τ) (t : τ) : Prop :=
  (∃ a ∈ marks, a + quiet ≤ t) ∧ ∀ a ∈ marks, a < t → a + quiet ≤ t

/-- The instants at which a window may close. -/
def Closes (quiet deadline : τ) (marks : List τ) (t : τ) : Prop :=
  deadline ≤ t ∨ Quiet quiet marks t

variable {quiet deadline start a : τ} {marks : List τ}

section Unfolding

omit [IsOrderedCancelAddMonoid τ]

@[simp] theorem windowEnd_nil (limit : τ) : windowEnd quiet deadline limit [] = limit := rfl

theorem windowEnd_cons_of_le {limit : τ} (h : limit ≤ a) :
    windowEnd quiet deadline limit (a :: marks) = limit := if_pos h

theorem windowEnd_cons_of_lt {limit : τ} (h : a < limit) :
    windowEnd quiet deadline limit (a :: marks) =
      windowEnd quiet deadline (min (a + quiet) deadline) marks := if_neg (not_le.mpr h)

theorem windowEnd_of_le {limit : τ} (h : ∀ t ∈ marks, limit ≤ t) :
    windowEnd quiet deadline limit marks = limit := by
  cases marks with
  | nil => rfl
  | cons b bs => exact windowEnd_cons_of_le (h b (by simp))

omit [AddCommMonoid τ] in
theorem head_le (hsorted : (a :: marks).Pairwise (· ≤ ·)) : ∀ t ∈ a :: marks, a ≤ t := by
  intro t ht
  rcases List.mem_cons.mp ht with rfl | ht
  · exact le_rfl
  · exact (List.pairwise_cons.mp hsorted).1 t ht

theorem Closes.of_mem_iff {marks' : List τ} (hmem : ∀ t, t ∈ marks ↔ t ∈ marks') (t : τ) :
    Closes quiet deadline marks t ↔ Closes quiet deadline marks' t := by
  simp only [Closes, Quiet, hmem]

end Unfolding

/-- A window past its first mark, by induction on the marks to come: the last mark
seen is all that the limit depends on. -/
theorem isLeast_windowEnd_of_mark (hquiet : 0 < quiet)
    (hsorted : (a :: marks).Pairwise (· ≤ ·)) (hin : a < deadline) :
    IsLeast {t | a ≤ t ∧ Closes quiet deadline (a :: marks) t}
      (windowEnd quiet deadline (min (a + quiet) deadline) marks) := by
  have hgap : ∀ b : τ, b < b + quiet := fun b => lt_add_of_pos_right b hquiet
  induction marks generalizing a with
  | nil =>
    refine ⟨⟨le_min (hgap a).le hin.le, ?_⟩, fun t ⟨_, hclose⟩ => ?_⟩
    · rcases le_total deadline (a + quiet) with hcap | hcap
      · exact .inl (by simp [hcap])
      · refine .inr ⟨⟨a, by simp, by simp [hcap]⟩, fun b hb _ => ?_⟩
        rw [List.mem_singleton.mp hb]
        simp [hcap]
    · rcases hclose with hlate | ⟨⟨b, hb, hbt⟩, _⟩
      · exact min_le_of_right_le hlate
      · rw [List.mem_singleton.mp hb] at hbt
        exact min_le_of_left_le hbt
  | cons b bs ih =>
    -- any mark of the list is at or after the one which opened the window
    have hopen := head_le hsorted
    have hafter := head_le (List.pairwise_cons.mp hsorted).2
    have hab : a ≤ b := hopen b (by simp)
    rcases le_or_gt (min (a + quiet) deadline) b with hlate | hsoon
    · rw [windowEnd_cons_of_le hlate]
      refine ⟨⟨le_min (hgap a).le hin.le, ?_⟩, fun t ⟨_, hclose⟩ => ?_⟩
      · rcases le_total deadline (a + quiet) with hcap | hcap
        · exact .inl (by simp [hcap])
        · rw [min_eq_left hcap] at hlate ⊢
          refine .inr ⟨⟨a, by simp, le_rfl⟩, fun c hc hct => ?_⟩
          rcases List.mem_cons.mp hc with rfl | hc
          · exact le_rfl
          · exact absurd hct (not_lt.mpr (hlate.trans (hafter c hc)))
      · rcases hclose with hover | ⟨⟨c, hc, hct⟩, _⟩
        · exact min_le_of_right_le hover
        · exact min_le_of_left_le ((add_le_add_left (hopen c hc) quiet).trans hct)
    · rw [windowEnd_cons_of_lt hsoon]
      have hin' : b < deadline := hsoon.trans_le (min_le_right _ _)
      obtain ⟨⟨hb, hclose⟩, hleast⟩ := ih (List.pairwise_cons.mp hsorted).2 hin'
      refine ⟨⟨hab.trans hb, ?_⟩, fun t ⟨hat, hclose⟩ => hleast ?_⟩
      · rcases hclose with hover | ⟨⟨c, hc, hct⟩, hnone⟩
        · exact .inl hover
        · refine .inr ⟨⟨c, List.mem_cons_of_mem _ hc, hct⟩, fun d hd hdt => ?_⟩
          rcases List.mem_cons.mp hd with rfl | hd
          · exact (add_le_add_left (hopen c (List.mem_cons_of_mem _ hc)) quiet).trans hct
          · exact hnone d hd hdt
      · rcases hclose with hover | ⟨⟨c, hc, hct⟩, hnone⟩
        · exact ⟨hin'.le.trans hover, .inl hover⟩
        · have hlimit : a + quiet ≤ t :=
            (add_le_add_left (hopen c hc) quiet).trans hct
          have hbt : b < t := (hsoon.trans_le (min_le_left _ _)).trans_le hlimit
          have hbgap : b + quiet ≤ t := hnone b (by simp) hbt
          exact ⟨hbt.le, .inr ⟨⟨b, by simp, hbgap⟩, fun d hd hdt =>
            hnone d (List.mem_cons_of_mem _ hd) hdt⟩⟩

/-- A window which nothing has been seen in yet is open up to the deadline. -/
theorem isLeast_windowEnd (hquiet : 0 < quiet) (hstart : start ≤ deadline)
    (hsorted : (start :: marks).Pairwise (· ≤ ·)) :
    IsLeast {t | start ≤ t ∧ Closes quiet deadline marks t}
      (windowEnd quiet deadline deadline marks) := by
  cases marks with
  | nil =>
    refine ⟨⟨hstart, .inl le_rfl⟩, fun t ⟨_, hclose⟩ => ?_⟩
    rcases hclose with hover | ⟨⟨b, hb, _⟩, _⟩
    · exact hover
    · simp at hb
  | cons b bs =>
    have hb : start ≤ b := head_le hsorted b (by simp)
    have hsorted' := (List.pairwise_cons.mp hsorted).2
    have hafter := head_le hsorted'
    have hfirst : ∀ t, Closes quiet deadline (b :: bs) t → min b deadline ≤ t := by
      intro t hclose
      rcases hclose with hover | ⟨⟨c, hc, hct⟩, _⟩
      · exact min_le_of_right_le hover
      · exact min_le_of_left_le
          ((hafter c hc).trans ((le_add_of_nonneg_right hquiet.le).trans hct))
    rcases le_or_gt deadline b with hlate | hsoon
    · rw [windowEnd_cons_of_le hlate]
      refine ⟨⟨hstart, .inl le_rfl⟩, fun t ⟨_, hclose⟩ => ?_⟩
      simpa [hlate] using hfirst t hclose
    · rw [windowEnd_cons_of_lt hsoon]
      obtain ⟨⟨hopen, hclose⟩, hleast⟩ := isLeast_windowEnd_of_mark hquiet hsorted' hsoon
      refine ⟨⟨hb.trans hopen, hclose⟩, fun t ⟨_, hclose'⟩ => hleast ⟨?_, hclose'⟩⟩
      simpa [hsoon.le] using hfirst t hclose'

theorem lt_windowEnd (hquiet : 0 < quiet) {limit : τ} (hlimit : a < limit) (hin : a < deadline)
    (hafter : ∀ t ∈ marks, a ≤ t) : a < windowEnd quiet deadline limit marks := by
  induction marks generalizing limit with
  | nil => exact hlimit
  | cons b bs ih =>
    rcases le_or_gt limit b with hlate | hsoon
    · rwa [windowEnd_cons_of_le hlate]
    · rw [windowEnd_cons_of_lt hsoon]
      have hgap : a < b + quiet :=
        (hafter b (by simp)).trans_lt (lt_add_of_pos_right b hquiet)
      exact ih (lt_min hgap hin) fun t ht => hafter t (List.mem_cons_of_mem _ ht)

/-- Every further mark falls into the window exactly when each comes before the deadline
and within the gap after the one before it. -/
theorem forall_lt_windowEnd_of_mark (hquiet : 0 < quiet)
    (hsorted : (a :: marks).Pairwise (· ≤ ·)) :
    (∀ t ∈ marks, t < windowEnd quiet deadline (min (a + quiet) deadline) marks) ↔
      (∀ t ∈ marks, t < deadline) ∧ (a :: marks).IsChain (fun s t => t < s + quiet) := by
  induction marks generalizing a with
  | nil => simp
  | cons b bs ih =>
    have hsorted' := (List.pairwise_cons.mp hsorted).2
    rw [List.isChain_cons_cons]
    rcases le_or_gt (min (a + quiet) deadline) b with hlate | hsoon
    · rw [windowEnd_cons_of_le hlate]
      refine ⟨fun h => absurd (h b (by simp)) (not_lt.mpr hlate), fun ⟨hin, hnear, _⟩ => ?_⟩
      exact absurd (lt_min hnear (hin b (by simp))) (not_lt.mpr hlate)
    · rw [windowEnd_cons_of_lt hsoon, List.forall_mem_cons, List.forall_mem_cons, ih hsorted']
      have hin : b < deadline := hsoon.trans_le (min_le_right _ _)
      have hnear : b < a + quiet := hsoon.trans_le (min_le_left _ _)
      have hb : b < windowEnd quiet deadline (min (b + quiet) deadline) bs :=
        lt_windowEnd hquiet (lt_min (lt_add_of_pos_right b hquiet) hin) hin
          (List.pairwise_cons.mp hsorted').1
      tauto

theorem forall_lt_windowEnd (hquiet : 0 < quiet) (hsorted : marks.Pairwise (· ≤ ·)) :
    (∀ t ∈ marks, t < windowEnd quiet deadline deadline marks) ↔
      (∀ t ∈ marks, t < deadline) ∧ marks.IsChain (fun s t => t < s + quiet) := by
  cases marks with
  | nil => simp
  | cons b bs =>
    rw [List.forall_mem_cons, List.forall_mem_cons]
    rcases le_or_gt deadline b with hlate | hsoon
    · rw [windowEnd_cons_of_le hlate]
      exact ⟨fun h => absurd h.1 (not_lt.mpr hlate), fun h => absurd h.1.1 (not_lt.mpr hlate)⟩
    · rw [windowEnd_cons_of_lt hsoon, forall_lt_windowEnd_of_mark hquiet hsorted]
      have hb : b < windowEnd quiet deadline (min (b + quiet) deadline) bs :=
        lt_windowEnd hquiet (lt_min (lt_add_of_pos_right b hquiet) hsoon) hsoon
          (List.pairwise_cons.mp hsorted).1
      tauto

end OrbitBhyve.Foundation
