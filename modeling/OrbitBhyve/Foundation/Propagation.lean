import OrbitBhyve.Foundation.Effect

/-!
# Where a raise comes out

A run of a program comes to its parts one after the other. What a part raises is
what the program raises when nothing but sequencing stands around it. A program
is accounted for when everything it does is done by parts of this kind which are
known: here a state counts the operations done so far, and every count taken
during a run belongs to a known part.
-/

namespace OrbitBhyve.Foundation

variable {ε σ α β γ : Type}

/-- The run of `x` from one state comes to its part `y` in another, with only sequencing
around it. -/
inductive Reaches {β : Type} (y : Prog ε σ β) : {α : Type} → Prog ε σ α → σ → σ → Prop
  | here (s : σ) : Reaches y y s s
  | first {γ α : Type} {x : Prog ε σ γ} {f : γ → Prog ε σ α} {s t : σ} :
      Reaches y x s t → Reaches y (x >>= f) s t
  | next {γ α : Type} {x : Prog ε σ γ} {f : γ → Prog ε σ α} {s s' t : σ} {c : γ} :
      x s = .ok c s' → Reaches y (f c) s' t → Reaches y (x >>= f) s t

theorem Reaches.raises {y : Prog ε σ β} {x : Prog ε σ α} {s t t' : σ} {e : ε}
    (h : Reaches y x s t) (hy : y t = .error e t') : x s = .error e t' := by
  induction h with
  | here s => exact hy
  | first _ ih => exact run_bind_error (ih hy)
  | next hx _ ih => rw [run_bind_ok hx, ih hy]

/-! ## Accounting for every operation -/

/-- A kind of part: which counts a program takes when it is started in a state. -/
abbrev Places (ε σ : Type) := {β : Type} → Prog ε σ β → σ → ℕ → Prop

/-- Every count taken during a run is taken by a known part which the run comes to. -/
def Accounted (count : σ → ℕ) (known : Places ε σ) (x : Prog ε σ α) : Prop :=
  ∀ s k, count s ≤ k → k < count (after x s) →
    ∃ (β : Type) (y : Prog ε σ β) (t : σ), Reaches y x s t ∧ known y t k

section Accounted

variable {count : σ → ℕ} {known : Places ε σ}

theorem Accounted.of_known {x : Prog ε σ α}
    (h : ∀ s k, count s ≤ k → k < count (after x s) → known x s k) : Accounted count known x :=
  fun s k hlo hhi => ⟨α, x, s, .here s, h s k hlo hhi⟩

theorem Accounted.of_keeps {x : Prog ε σ α} (h : Keeps count x) : Accounted count known x := by
  intro s k hlo hhi
  rw [h.apply s] at hhi
  omega

theorem Accounted.bind {x : Prog ε σ β} {f : β → Prog ε σ α} (hx : Accounted count known x)
    (hf : ∀ b, Accounted count known (f b)) : Accounted count known (x >>= f) := by
  intro s k hlo hhi
  by_cases hfirst : k < count (after x s)
  · obtain ⟨γ, y, t, hreach, hknown⟩ := hx s k hlo hfirst
    exact ⟨γ, y, t, .first hreach, hknown⟩
  · cases hrun : x s with
    | error e s' =>
      rw [after_bind_error hrun] at hhi
      rw [after_of_error hrun] at hfirst
      exact absurd hhi hfirst
    | ok b s' =>
      rw [after_bind_ok hrun] at hhi
      rw [after_of_ok hrun] at hfirst
      obtain ⟨γ, y, t, hreach, hknown⟩ := hf b s' k (Nat.le_of_not_lt hfirst) hhi
      exact ⟨γ, y, t, .next hrun hreach, hknown⟩

theorem Accounted.ite {c : Prop} [Decidable c] {x y : Prog ε σ α} (hx : Accounted count known x)
    (hy : Accounted count known y) : Accounted count known (if c then x else y) := by
  split
  · exact hx
  · exact hy

theorem Accounted.pure (a : α) : Accounted count known (Pure.pure a : Prog ε σ α) :=
  .of_keeps (Moves.pure a)

theorem Accounted.onlyIf {c : Bool} {x : Prog ε σ Unit} (hx : Accounted count known x) :
    Accounted count known (onlyIf c x) :=
  hx.ite (.pure ())

end Accounted
end OrbitBhyve.Foundation
