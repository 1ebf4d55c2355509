import Mathlib.Order.Defs.Unbundled
import Mathlib.Tactic

/-!
# Effectful programs with exceptions

A program reads and writes a state and may raise; as in Python, a raise keeps
what was written before it. `after` is the state a program leaves behind,
however it ends. `Moves R` says that a program only ever moves the state along
a preorder `R`, which composes over sequencing, branches, handlers and
`finally`; a preserved field, an invariant and "the log only grows" are all of
this form. The equations `run_*` follow one outcome through a program.
-/

namespace OrbitBhyve.Foundation

variable {ε σ α β : Type}

/-- A program over the state `σ` which may raise `ε`. -/
abbrev Prog (ε σ α : Type) := EStateM ε σ α

/-- The state a program leaves behind, returned from or raised out of. -/
def after (x : Prog ε σ α) (s : σ) : σ :=
  match x s with
  | .ok _ s' | .error _ s' => s'

/-- What a program returns, if it returns. -/
def result (x : Prog ε σ α) (s : σ) : Except ε α :=
  match x s with
  | .ok a _ => .ok a
  | .error e _ => .error e

def raising (r : Except ε α) : Prog ε σ α :=
  match r with
  | .ok a => pure a
  | .error e => throw e

/-- Swallow everything a program raises. -/
def swallow (x : Prog ε σ Unit) : Prog ε σ Unit := tryCatch x fun _ => pure ()

/-- A statement under an `if` without `else`. -/
def onlyIf (c : Bool) (x : Prog ε σ Unit) : Prog ε σ Unit := if c then x else pure ()

/-- Every run moves the state along `R`. -/
def Moves (R : σ → σ → Prop) (x : Prog ε σ α) : Prop := ∀ s, R s (after x s)

/-- A statement which never raises. -/
def Returns (x : Prog ε σ Unit) : Prop := ∀ s, x s = .ok () (after x s)

/-! ## Equations -/

theorem run_pure (a : α) (s : σ) : (pure a : Prog ε σ α) s = .ok a s := rfl

theorem run_throw (e : ε) (s : σ) : (throw e : Prog ε σ α) s = .error e s := rfl

theorem run_get (s : σ) : (get : Prog ε σ σ) s = .ok s s := rfl

theorem run_modify (f : σ → σ) (s : σ) : (modify f : Prog ε σ PUnit) s = .ok ⟨⟩ (f s) := rfl

theorem run_bind (x : Prog ε σ α) (f : α → Prog ε σ β) (s : σ) :
    (x >>= f) s = match x s with
      | .ok a s' => f a s'
      | .error e s' => .error e s' := rfl

theorem run_bind_ok {x : Prog ε σ α} {f : α → Prog ε σ β} {s s' : σ} {a : α}
    (h : x s = .ok a s') : (x >>= f) s = f a s' := by
  rw [run_bind, h]

theorem run_bind_error {x : Prog ε σ α} {f : α → Prog ε σ β} {s s' : σ} {e : ε}
    (h : x s = .error e s') : (x >>= f) s = .error e s' := by
  rw [run_bind, h]

theorem run_bind_eq_ok {x : Prog ε σ α} {f : α → Prog ε σ β} {s s'' : σ} {b : β} :
    (x >>= f) s = .ok b s'' ↔ ∃ a s', x s = .ok a s' ∧ f a s' = .ok b s'' := by
  rw [run_bind]
  cases x s <;> simp

theorem run_tryCatch (x : Prog ε σ α) (h : ε → Prog ε σ α) (s : σ) :
    (tryCatch x h) s = match x s with
      | .ok a s' => .ok a s'
      | .error e s' => h e s' := by
  change EStateM.tryCatch x h s = _
  simp only [EStateM.tryCatch]
  cases x s <;> rfl

theorem run_swallow (x : Prog ε σ Unit) (s : σ) : swallow x s = .ok () (after x s) := by
  rw [swallow, run_tryCatch, after]
  cases x s <;> rfl

theorem run_tryFinally (x : Prog ε σ α) (fin : Prog ε σ Unit) (s : σ) :
    (tryFinally x fin) s = match x s with
      | .ok a s' => (match fin s' with
        | .ok _ s'' => .ok a s''
        | .error e s'' => .error e s'')
      | .error e s' => (match fin s' with
        | .ok _ s'' => .error e s''
        | .error e' s'' => .error e' s'') := by
  simp only [tryFinally, tryFinally', Functor.map, EStateM.map]
  cases x s with
  | ok a s' => cases h : fin s' <;> simp [h]
  | error e s' => cases h : fin s' <;> simp [h]

theorem run_tryFinally_eq_ok {x : Prog ε σ α} {fin : Prog ε σ Unit} {s s'' : σ} {a : α} :
    tryFinally x fin s = .ok a s'' ↔ ∃ s', x s = .ok a s' ∧ fin s' = .ok () s'' := by
  rw [run_tryFinally]
  cases x s with
  | ok a' s' => cases h : fin s' <;> simp [h]
  | error e s' => cases h : fin s' <;> simp [h]

theorem run_onlyIf_true (x : Prog ε σ Unit) (s : σ) : onlyIf true x s = x s := rfl

theorem run_onlyIf_false (x : Prog ε σ Unit) (s : σ) : onlyIf false x s = .ok () s := rfl

theorem run_raising_ok {r : Except ε α} {a : α} (h : r = .ok a) (s : σ) :
    raising r s = .ok a s := by
  subst h
  rfl

theorem run_raising_error {r : Except ε α} {e : ε} (h : r = .error e) (s : σ) :
    (raising r : Prog ε σ α) s = .error e s := by
  subst h
  rfl

theorem run_raising_eq_ok {r : Except ε α} {a : α} {s s' : σ} :
    raising r s = .ok a s' ↔ r = .ok a ∧ s' = s := by
  cases r with
  | error e => simp [raising, run_throw]
  | ok b => simp [raising, run_pure, eq_comm]

theorem after_of_ok {x : Prog ε σ α} {s s' : σ} {a : α} (h : x s = .ok a s') :
    after x s = s' := by
  simp [after, h]

theorem after_bind_ok {x : Prog ε σ α} {f : α → Prog ε σ β} {s s' : σ} {a : α}
    (h : x s = .ok a s') : after (x >>= f) s = after (f a) s' := by
  simp only [after, run_bind_ok h]

theorem after_bind_error {x : Prog ε σ α} {f : α → Prog ε σ β} {s s' : σ} {e : ε}
    (h : x s = .error e s') : after (x >>= f) s = s' := by
  simp only [after, run_bind_error h]

theorem after_of_error {x : Prog ε σ α} {s s' : σ} {e : ε} (h : x s = .error e s') :
    after x s = s' := by
  simp [after, h]

@[simp] theorem after_pure (a : α) (s : σ) : after (pure a : Prog ε σ α) s = s := rfl

@[simp] theorem after_raising (r : Except ε α) (s : σ) : after (raising r) s = s := by
  cases r <;> rfl

@[simp] theorem after_swallow (x : Prog ε σ Unit) (s : σ) : after (swallow x) s = after x s :=
  after_of_ok (run_swallow x s)

/-- The `finally` block runs whatever becomes of the body. -/
theorem after_tryFinally (x : Prog ε σ α) (fin : Prog ε σ Unit) (s : σ) :
    after (tryFinally x fin) s = after fin (after x s) := by
  simp only [after, run_tryFinally]
  cases x s with
  | ok a s' => cases hfin : fin s' <;> simp [hfin]
  | error e s' => cases hfin : fin s' <;> simp [hfin]

/-! ## Statements which never raise -/

theorem Returns.pure : Returns (pure () : Prog ε σ Unit) := fun _ => rfl

theorem Returns.modify (f : σ → σ) : Returns (modify f : Prog ε σ PUnit) := fun _ => rfl

theorem Returns.bind {x y : Prog ε σ Unit} (hx : Returns x) (hy : Returns y) :
    Returns (x >>= fun _ => y) := by
  intro s
  rw [run_bind_ok (hx s), hy, after_bind_ok (hx s)]

theorem Returns.ite {c : Prop} [Decidable c] {x y : Prog ε σ Unit} (hx : Returns x)
    (hy : Returns y) : Returns (if c then x else y) := by
  split
  · exact hx
  · exact hy

theorem Returns.onlyIf {c : Bool} {x : Prog ε σ Unit} (hx : Returns x) : Returns (onlyIf c x) :=
  hx.ite .pure

theorem Returns.swallow (x : Prog ε σ Unit) : Returns (swallow x) := by
  intro s
  rw [run_swallow, after_swallow]

theorem Returns.after_bind {x : Prog ε σ Unit} (hx : Returns x) (f : Unit → Prog ε σ α) (s : σ) :
    after (x >>= f) s = after (f ()) (after x s) :=
  after_bind_ok (hx s)

/-! ## Moving along a preorder -/

variable {R : σ → σ → Prop}

theorem Moves.of_ok {x : Prog ε σ α} (h : Moves R x) {s s' : σ} {a : α} (hx : x s = .ok a s') :
    R s s' := by
  have := h s
  rwa [after_of_ok hx] at this

theorem Moves.of_error {x : Prog ε σ α} (h : Moves R x) {s s' : σ} {e : ε}
    (hx : x s = .error e s') : R s s' := by
  have := h s
  rwa [after_of_error hx] at this

theorem Moves.modify {f : σ → σ} (h : ∀ s, R s (f s)) : Moves R (modify f : Prog ε σ PUnit) := h

theorem Moves.mono {R' : σ → σ → Prop} {x : Prog ε σ α} (h : Moves R x)
    (himp : ∀ s s', R s s' → R' s s') : Moves R' x :=
  fun s => himp _ _ (h s)

section Preorder

variable [IsPreorder σ R]

theorem Moves.pure (a : α) : Moves R (pure a : Prog ε σ α) := fun s => refl_of R s

theorem Moves.throw (e : ε) : Moves R (throw e : Prog ε σ α) := fun s => refl_of R s

theorem Moves.get : Moves R (get : Prog ε σ σ) := fun s => refl_of R s

theorem Moves.raising (r : Except ε α) : Moves R (raising r : Prog ε σ α) := by
  intro s
  rw [after_raising]
  exact refl_of R s

theorem Moves.bind {x : Prog ε σ α} {f : α → Prog ε σ β} (hx : Moves R x)
    (hf : ∀ a, Moves R (f a)) : Moves R (x >>= f) := by
  intro s
  have h := hx s
  cases hr : x s with
  | ok a s' =>
    rw [after_of_ok hr] at h
    rw [after_bind_ok hr]
    exact trans_of R h (hf a s')
  | error e s' =>
    rw [after_of_error hr] at h
    rwa [after_bind_error hr]

/-- What follows a pure computation may rely on its result. -/
theorem Moves.bind_raising {r : Except ε α} {f : α → Prog ε σ β}
    (hf : ∀ a, r = .ok a → Moves R (f a)) : Moves R (Foundation.raising r >>= f) := by
  cases r with
  | error e => exact Moves.throw e
  | ok a => exact hf a rfl

theorem Moves.tryCatch {x : Prog ε σ α} {h : ε → Prog ε σ α} (hx : Moves R x)
    (hh : ∀ e, Moves R (h e)) : Moves R (tryCatch x h) := by
  intro s
  have hs := hx s
  simp only [after, run_tryCatch] at hs ⊢
  cases hr : x s with
  | ok a s' => simpa [hr] using hs
  | error e s' =>
    simp only [hr] at hs
    exact trans_of R hs (hh e s')

theorem Moves.swallow {x : Prog ε σ Unit} (hx : Moves R x) : Moves R (swallow x) :=
  hx.tryCatch fun _ => .pure ()

theorem Moves.tryFinally {x : Prog ε σ α} {fin : Prog ε σ Unit} (hx : Moves R x)
    (hf : Moves R fin) : Moves R (tryFinally x fin) := by
  intro s
  rw [after_tryFinally]
  exact trans_of R (hx s) (hf (after x s))

end Preorder

theorem Moves.ite {c : Prop} [Decidable c] {x y : Prog ε σ α} (hx : Moves R x) (hy : Moves R y) :
    Moves R (if c then x else y) := by
  split
  · exact hx
  · exact hy

theorem Moves.onlyIf [IsPreorder σ R] {c : Bool} {x : Prog ε σ Unit} (hx : Moves R x) :
    Moves R (onlyIf c x) :=
  hx.ite (Moves.pure ())

/-! ## Preserved quantities -/

/-- A program keeps a quantity when it moves along "the quantity is the same". -/
def Keeps {γ : Type} (q : σ → γ) (x : Prog ε σ α) : Prop := Moves (fun s s' => q s' = q s) x

theorem Keeps.apply {γ : Type} {q : σ → γ} {x : Prog ε σ α} (h : Keeps q x) (s : σ) :
    q (after x s) = q s :=
  h s

/-- What follows a program does not change a quantity it keeps, returned or raised. -/
theorem Keeps.after_bind {γ : Type} {q : σ → γ} {x : Prog ε σ α} {f : α → Prog ε σ β}
    (hf : ∀ a, Keeps q (f a)) (s : σ) : q (after (x >>= f) s) = q (after x s) := by
  cases h : x s with
  | ok a s' => rw [after_bind_ok h, after_of_ok h, (hf a).apply]
  | error e s' => rw [after_bind_error h, after_of_error h]

instance keepsPreorder {γ : Type} (q : σ → γ) : IsPreorder σ (fun s s' => q s' = q s) where
  refl _ := rfl
  trans _ _ _ h h' := h'.trans h

/-! ## Preserved properties -/

/-- A program preserves a property of the state, returned from or raised out of. -/
def Preserves (P : σ → Prop) (x : Prog ε σ α) : Prop := Moves (fun s s' => P s → P s') x

instance preservesPreorder (P : σ → Prop) : IsPreorder σ (fun s s' => P s → P s') where
  refl _ h := h
  trans _ _ _ h h' := h' ∘ h

theorem Keeps.preserves {γ : Type} {q : σ → γ} {P : σ → Prop} {x : Prog ε σ α} (h : Keeps q x)
    (hP : ∀ s s', q s' = q s → P s → P s') : Preserves P x :=
  h.mono hP

theorem Keeps.preserves_eq {γ : Type} {q : σ → γ} {x : Prog ε σ α} (h : Keeps q x) (v : γ) :
    Preserves (fun s => q s = v) x :=
  h.preserves fun _ _ heq hv => heq.trans hv

/-- What a first part establishes and the rest preserves holds in the end. -/
theorem Preserves.after_bind {P : σ → Prop} {x : Prog ε σ α} {f : α → Prog ε σ β}
    (hf : ∀ a, Preserves P (f a)) {s : σ} (h : P (after x s)) : P (after (x >>= f) s) := by
  cases hx : x s with
  | ok a s' =>
    rw [after_of_ok hx] at h
    rw [after_bind_ok hx]
    exact hf a s' h
  | error e s' =>
    rw [after_of_error hx] at h
    rwa [after_bind_error hx]

/-! ## Computations which may raise -/

theorem except_bind_eq_ok {x : Except ε α} {f : α → Except ε β} {b : β} (h : x >>= f = .ok b) :
    ∃ a, x = .ok a ∧ f a = .ok b := by
  cases x with
  | error e => cases h
  | ok a => exact ⟨a, rfl, h⟩

theorem except_map_bind {γ : Type} (x : Except ε α) (f : α → Except ε β) (g : β → γ) :
    (x >>= f).map g = x >>= fun a => (f a).map g := by
  cases x <;> rfl

theorem except_bind_map {γ : Type} (x : Except ε α) (f : α → β) (g : β → Except ε γ) :
    x.map f >>= g = x >>= fun a => g (f a) := by
  cases x <;> rfl

end OrbitBhyve.Foundation
