import Mathlib.Data.List.Basic
import Mathlib.Tactic

/-!
# Runs of a deterministic machine

A run folds events into a state. `StepsMeet` says that every step of a run
meets a condition on its event and the state before it; an invariant which
such steps preserve holds after the run, and a count which never falls is
unchanged over a run exactly when no step of it counts.
-/

namespace OrbitBhyve.Foundation

variable {σ ε : Type*} {step : σ → ε → σ}

def run (step : σ → ε → σ) (s : σ) (es : List ε) : σ := es.foldl step s

/-- Every step of the run meets `ok` on the state before it. -/
def StepsMeet (step : σ → ε → σ) (ok : σ → ε → Prop) : σ → List ε → Prop
  | _, [] => True
  | s, e :: es => ok s e ∧ StepsMeet step ok (step s e) es

def StepsMeet.decide {ok : σ → ε → Prop} [∀ s e, Decidable (ok s e)] :
    ∀ (s : σ) (es : List ε), Decidable (StepsMeet step ok s es)
  | _, [] => .isTrue trivial
  | s, e :: es =>
    haveI : Decidable (StepsMeet step ok (step s e) es) := StepsMeet.decide (step s e) es
    inferInstanceAs (Decidable (_ ∧ _))

instance {ok : σ → ε → Prop} [∀ s e, Decidable (ok s e)] (s : σ) (es : List ε) :
    Decidable (StepsMeet step ok s es) :=
  StepsMeet.decide s es

@[simp] theorem run_nil (s : σ) : run step s [] = s := rfl

@[simp] theorem run_cons (s : σ) (e : ε) (es : List ε) :
    run step s (e :: es) = run step (step s e) es := rfl

theorem run_append (s : σ) (es fs : List ε) :
    run step s (es ++ fs) = run step (run step s es) fs :=
  List.foldl_append

theorem run_add (weight : ε → ℕ) (n : ℕ) (es : List ε) :
    run (fun n e => n + weight e) n es = n + (es.map weight).sum := by
  induction es generalizing n with
  | nil => rfl
  | cons e es ih => rw [run_cons, ih, List.map_cons, List.sum_cons, Nat.add_assoc]

theorem StepsMeet.take {ok : σ → ε → Prop} {s : σ} {es : List ε} (h : StepsMeet step ok s es)
    (k : ℕ) : StepsMeet step ok s (es.take k) := by
  induction es generalizing s k with
  | nil => simpa using h
  | cons e es ih =>
    cases k with
    | zero => trivial
    | succ k => exact ⟨h.1, ih h.2 k⟩

theorem StepsMeet.mono {ok ok' : σ → ε → Prop} (himp : ∀ s e, ok s e → ok' s e) {s : σ}
    {es : List ε} (h : StepsMeet step ok s es) : StepsMeet step ok' s es := by
  induction es generalizing s with
  | nil => trivial
  | cons e es ih => exact ⟨himp s e h.1, ih h.2⟩

theorem StepsMeet.and {ok ok' : σ → ε → Prop} {s : σ} {es : List ε}
    (h : StepsMeet step ok s es) (h' : StepsMeet step ok' s es) :
    StepsMeet step (fun s e => ok s e ∧ ok' s e) s es := by
  induction es generalizing s with
  | nil => trivial
  | cons e es ih => exact ⟨⟨h.1, h'.1⟩, ih h.2 h'.2⟩

theorem StepsMeet.right_of_append {ok : σ → ε → Prop} {s : σ} {es fs : List ε}
    (h : StepsMeet step ok s (es ++ fs)) : StepsMeet step ok (run step s es) fs := by
  induction es generalizing s with
  | nil => exact h
  | cons e es ih => exact ih h.2

theorem StepsMeet.of_forall {ok : ε → Prop} {es : List ε} (h : ∀ e ∈ es, ok e) (s : σ) :
    StepsMeet step (fun _ e => ok e) s es := by
  induction es generalizing s with
  | nil => trivial
  | cons e es ih =>
    exact ⟨h e List.mem_cons_self, ih (fun e' he' => h e' (List.mem_cons_of_mem e he')) (step s e)⟩

/-- The run rule of an invariant, from its step rule. -/
theorem run_invariant {ok : σ → ε → Prop} {inv : σ → Prop}
    (hstep : ∀ s e, inv s → ok s e → inv (step s e)) {s : σ} {es : List ε} (hs : inv s)
    (h : StepsMeet step ok s es) : inv (run step s es) := by
  induction es generalizing s with
  | nil => exact hs
  | cons e es ih => exact ih (hstep s e hs h.1) h.2

/-- Steps which keep an invariant meet whatever follows from it. -/
theorem StepsMeet.of_invariant {ok ok' : σ → ε → Prop} {inv : σ → Prop}
    (hstep : ∀ s e, inv s → ok s e → inv (step s e)) (hok : ∀ s e, inv s → ok s e → ok' s e)
    {s : σ} {es : List ε} (hs : inv s) (h : StepsMeet step ok s es) :
    StepsMeet step ok' s es := by
  induction es generalizing s with
  | nil => trivial
  | cons e es ih => exact ⟨hok s e hs h.1, ih (hstep s e hs h.1) h.2⟩

theorem stepsMeet_iff_forall_append {ok : σ → ε → Prop} {s : σ} {es : List ε} :
    StepsMeet step ok s es ↔
      ∀ before e after, es = before ++ e :: after → ok (run step s before) e := by
  induction es generalizing s with
  | nil => simp [StepsMeet]
  | cons e es ih =>
    constructor
    · rintro ⟨hfirst, hrest⟩ before e' after heq
      cases before with
      | nil =>
        obtain ⟨rfl, -⟩ := List.cons.inj heq
        exact hfirst
      | cons b before =>
        obtain ⟨rfl, htail⟩ := List.cons.inj heq
        exact ih.mp hrest before e' after htail
    · intro hall
      exact ⟨hall [] e es rfl, ih.mpr fun before e' after heq =>
        hall (e :: before) e' after (congrArg (e :: ·) heq)⟩

/-- Machines which run in lockstep, for a relation under which their conditions agree. -/
theorem stepsMeet_iff_of_simulation {τ : Type*} {step' : τ → ε → τ} {ok : σ → ε → Prop}
    {ok' : τ → ε → Prop} {R : σ → τ → Prop} (hok : ∀ s t e, R s t → (ok s e ↔ ok' t e))
    (hstep : ∀ s t e, R s t → R (step s e) (step' t e)) {s : σ} {t : τ} {es : List ε}
    (h : R s t) : StepsMeet step ok s es ↔ StepsMeet step' ok' t es := by
  induction es generalizing s t with
  | nil => exact Iff.rfl
  | cons e es ih => exact and_congr (hok s t e h) (ih (hstep s t e h))

/-- A family of machines run side by side. -/
theorem forall_stepsMeet_iff {ι : Type*} (step : ι → σ → ε → σ) (ok : ι → σ → ε → Prop)
    (s : ι → σ) (es : List ε) :
    (∀ i, StepsMeet (step i) (ok i) (s i) es) ↔
      StepsMeet (fun s e i => step i (s i) e) (fun s e => ∀ i, ok i (s i) e) s es := by
  induction es generalizing s with
  | nil => exact iff_of_true (fun _ => trivial) trivial
  | cons e es ih => exact forall_and.trans (and_congr Iff.rfl (ih _))

/-- Two conditions which agree along the runs of a machine, as long as they hold. -/
theorem StepsMeet.congr {pre ok ok' : σ → ε → Prop} {inv : σ → Prop}
    (hstep : ∀ s e, inv s → pre s e → ok' s e → inv (step s e))
    (hok : ∀ s e, inv s → pre s e → (ok s e ↔ ok' s e)) {s : σ} {es : List ε} (hs : inv s)
    (h : StepsMeet step pre s es) : StepsMeet step ok s es ↔ StepsMeet step ok' s es := by
  induction es generalizing s with
  | nil => exact Iff.rfl
  | cons e es ih =>
    refine (and_congr_left fun _ => hok s e hs h.1).trans (and_congr_right fun he => ?_)
    exact ih (hstep s e hs h.1 he) h.2

/-- A property which steps keep exactly when they meet `ok` holds all along a run exactly
when every step of it does. -/
theorem always_iff_stepsMeet {ok : σ → ε → Prop} {inv P : σ → Prop} (hP : ∀ s, inv s → P s)
    (hstep : ∀ s e, inv s → ok s e → inv (step s e))
    (hbad : ∀ s e, inv s → ¬ ok s e → ¬ P (step s e)) {s : σ} {es : List ε} (hs : inv s) :
    (∀ k, P (run step s (es.take k))) ↔ StepsMeet step ok s es := by
  induction es generalizing s with
  | nil => exact iff_of_true (fun k => by simpa using hP s hs) trivial
  | cons e es ih =>
    constructor
    · intro hall
      have hok : ok s e := by
        by_contra hnot
        exact hbad s e hs hnot (by simpa using hall 1)
      exact ⟨hok, (ih (hstep s e hs hok)).mp fun k => hall (k + 1)⟩
    · rintro ⟨hok, hoks⟩ k
      cases k with
      | zero => exact hP s hs
      | succ k => exact (ih (hstep s e hs hok)).mpr hoks k

variable {count : σ → ℕ}

theorem run_count_mono (hmono : ∀ s e, count s ≤ count (step s e)) (s : σ) (es : List ε) :
    count s ≤ count (run step s es) := by
  induction es generalizing s with
  | nil => exact le_rfl
  | cons e es ih => exact (hmono s e).trans (ih (step s e))

/-- Nothing is counted over a run whose steps meet `pre` exactly when every step meets `ok`. -/
theorem run_count_eq_iff {pre ok : σ → ε → Prop} {inv : σ → Prop}
    (hstep : ∀ s e, inv s → pre s e → inv (step s e))
    (hmono : ∀ s e, count s ≤ count (step s e))
    (hcount : ∀ s e, inv s → pre s e → (count (step s e) = count s ↔ ok s e)) {s : σ}
    {es : List ε} (hs : inv s) (h : StepsMeet step pre s es) :
    count (run step s es) = count s ↔ StepsMeet step ok s es := by
  induction es generalizing s with
  | nil => exact iff_of_true rfl trivial
  | cons e es ih =>
    have hfirst := hmono s e
    have hrest := run_count_mono hmono (step s e) es
    have htail := ih (hstep s e hs h.1) h.2
    rw [run_cons]
    constructor
    · intro heq
      have hzero : count (step s e) = count s := by omega
      exact ⟨(hcount s e hs h.1).mp hzero, htail.mp (by omega)⟩
    · rintro ⟨hok, hoks⟩
      rw [htail.mpr hoks, (hcount s e hs h.1).mpr hok]

end OrbitBhyve.Foundation
