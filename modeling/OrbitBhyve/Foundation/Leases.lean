import Mathlib.Data.List.ReduceOption
import Mathlib.Tactic

/-!
# Leases

A grant at `g` is in force up to its expiry. A holder renews in attempts, some of
which come to nothing; if every attempt after one of those is later than the
lapse, the holder is covered exactly as long as no attempt is missed.
-/

namespace OrbitBhyve.Foundation

variable {τ : Type*} [LinearOrder τ] {expiry : τ → τ}

def Covered (expiry : τ → τ) (grants : List τ) (t : τ) : Prop :=
  ∃ g ∈ grants, g ≤ t ∧ t < expiry g

def Covers (expiry : τ → τ) (grants : List τ) (start stop : τ) : Prop :=
  ∀ t, start ≤ t → t < stop → Covered expiry grants t

/-- The grant in force after the attempts. -/
def lastGrant (last : τ) (attempts : List (Option τ)) : τ :=
  attempts.foldl (fun g a => a.getD g) last

/-- Grants come in order, and after an attempt which comes to nothing none before the lapse. -/
def Spaced (expiry : τ → τ) : τ → List (Option τ) → Prop
  | _, [] => True
  | last, none :: attempts =>
    (∀ g ∈ attempts.reduceOption, expiry last < g) ∧ Spaced expiry last attempts
  | last, some g :: attempts => last ≤ g ∧ Spaced expiry g attempts

section Spaced

variable {last : τ} {attempts : List (Option τ)}

theorem Spaced.le_of_mem (h : Spaced expiry last attempts) :
    ∀ g ∈ attempts.reduceOption, last ≤ g := by
  induction attempts generalizing last with
  | nil => simp
  | cons a attempts ih =>
    cases a with
    | none =>
      intro g hg
      exact ih h.2 g (by simpa using hg)
    | some g' =>
      intro g hg
      rw [List.reduceOption_cons_of_some, List.mem_cons] at hg
      rcases hg with rfl | hg
      · exact h.1
      · exact h.1.trans (ih h.2 g hg)

theorem Spaced.le_lastGrant (h : Spaced expiry last attempts) (i : ℕ) :
    last ≤ lastGrant last (attempts.take i) := by
  induction attempts generalizing last i with
  | nil => simp [lastGrant]
  | cons a attempts ih =>
    cases i with
    | zero => simp [lastGrant]
    | succ i =>
      cases a with
      | none => exact ih h.2 i
      | some g => exact h.1.trans (ih h.2 i)

end Spaced

theorem not_covers_of_lapse {last stop : τ} {grants : List τ} (hself : last ≤ expiry last)
    (hpast : ∀ g ∈ grants, expiry last < g) (hstop : expiry last < stop) :
    ¬ Covers expiry (last :: grants) last stop := by
  intro hcovers
  obtain ⟨g, hg, hle, hlt⟩ := hcovers (expiry last) hself hstop
  rcases List.mem_cons.mp hg with rfl | hg
  · exact lt_irrefl _ hlt
  · exact absurd (hpast g hg) (not_lt.mpr hle)

/-- A renewal before the lapse moves the start of what is to be covered. -/
theorem covers_cons_iff {last g stop : τ} {grants : List τ} (hmono : Monotone expiry)
    (hle : last ≤ g) (htime : g ≤ expiry last) :
    Covers expiry (last :: g :: grants) last stop ↔ Covers expiry (g :: grants) g stop := by
  constructor
  · intro hcovers t ht hstop
    obtain ⟨g', hg', hle', hlt⟩ := hcovers t (hle.trans ht) hstop
    rcases List.mem_cons.mp hg' with rfl | hg'
    · exact ⟨g, by simp, ht, hlt.trans_le (hmono hle)⟩
    · exact ⟨g', hg', hle', hlt⟩
  · intro hcovers t ht hstop
    by_cases hbefore : t < g
    · exact ⟨last, by simp, ht, hbefore.trans_le htime⟩
    · obtain ⟨g', hg', hin⟩ := hcovers t (not_lt.mp hbefore) hstop
      exact ⟨g', List.mem_cons_of_mem _ hg', hin⟩

/-- Each attempt which is still called for renews in time. -/
def Renewed (expiry : τ → τ) (stop last : τ) (attempts : List (Option τ)) : Prop :=
  ∀ i a, attempts[i]? = some a → expiry (lastGrant last (attempts.take i)) < stop →
    ∃ g, a = some g ∧ g ≤ expiry (lastGrant last (attempts.take i))

theorem renewed_cons {stop last : τ} {a : Option τ} {attempts : List (Option τ)} :
    Renewed expiry stop last (a :: attempts) ↔
      (expiry last < stop → ∃ g, a = some g ∧ g ≤ expiry last) ∧
        Renewed expiry stop (a.getD last) attempts := by
  constructor
  · intro h
    exact ⟨fun hlt => h 0 a rfl hlt, fun i b hb hlt => h (i + 1) b hb hlt⟩
  · rintro ⟨hfirst, hrest⟩ i b hb hlt
    cases i with
    | zero =>
      obtain rfl : a = b := by simpa using hb
      exact hfirst hlt
    | succ i => exact hrest i b (by simpa using hb) hlt

/-- As long as no attempt is called for, the grant in force covers what is left. -/
theorem covers_and_renewed_of_le (hmono : Monotone expiry) {stop last : τ}
    {attempts : List (Option τ)} (hspaced : Spaced expiry last attempts)
    (hstop : stop ≤ expiry last) :
    Covers expiry (last :: attempts.reduceOption) last stop ∧
      Renewed expiry stop last attempts := by
  constructor
  · intro t ht hlt
    exact ⟨last, by simp, ht, hlt.trans_le hstop⟩
  · intro i a _ hlt
    exact absurd (hstop.trans (hmono (hspaced.le_lastGrant i))) (not_le.mpr hlt)

/-- The holder is covered exactly if each attempt which is still called for renews in time. -/
theorem covers_iff_renewed (hmono : Monotone expiry) (hself : ∀ g, g ≤ expiry g) {stop last : τ}
    {attempts : List (Option τ)} (hspaced : Spaced expiry last attempts)
    (hend : (∀ a ∈ attempts, a.isSome) → stop ≤ expiry (lastGrant last attempts)) :
    Covers expiry (last :: attempts.reduceOption) last stop ↔
      Renewed expiry stop last attempts := by
  induction attempts generalizing last with
  | nil =>
    obtain ⟨hcovers, hrenewed⟩ := covers_and_renewed_of_le hmono hspaced (hend (by simp))
    exact ⟨fun _ => hrenewed, fun _ => hcovers⟩
  | cons a attempts ih =>
    by_cases hstop : stop ≤ expiry last
    · obtain ⟨hcovers, hrenewed⟩ := covers_and_renewed_of_le hmono hspaced hstop
      exact ⟨fun _ => hrenewed, fun _ => hcovers⟩
    · have hlapse : expiry last < stop := not_le.mp hstop
      rw [renewed_cons]
      cases a with
      | none =>
        have hpast : ¬ Covers expiry (last :: attempts.reduceOption) last stop :=
          not_covers_of_lapse (hself last) hspaced.1 hlapse
        simp [hpast, hlapse]
      | some g =>
        rw [List.reduceOption_cons_of_some]
        by_cases htime : g ≤ expiry last
        · rw [covers_cons_iff hmono hspaced.1 htime, ih hspaced.2 fun hall => ?_]
          · simp [htime]
          · exact hend (by simpa using hall)
        · have hpast : ¬ Covers expiry (last :: g :: attempts.reduceOption) last stop := by
            apply not_covers_of_lapse (hself last) _ hlapse
            intro g' hg'
            rcases List.mem_cons.mp hg' with rfl | hg'
            · exact not_le.mp htime
            · exact (not_le.mp htime).trans_le (hspaced.2.le_of_mem g' hg')
          simp [hpast, hlapse, htime]

end OrbitBhyve.Foundation
