import OrbitBhyve.Foundation.Effect

/-!
# A cache over an effectful computation

`memo` runs a computation for a key which the cache does not have and keeps what
it returned. A computation is steady when what it returns depends on a quantity
of the state alone, which it keeps; over such a one a cache makes no difference
to what is returned.
-/

namespace OrbitBhyve.Foundation

variable {ε σ κ α γ : Type}

section Memo

variable [DecidableEq κ]

/-- The value of a key, from the cache if it has it, and the cache after that. -/
def memo (x : Prog ε σ α) (cache : List (κ × α)) (key : κ) : Prog ε σ (α × List (κ × α)) :=
  match cache.lookup key with
  | some a => pure (a, cache)
  | none => do
    let a ← x
    return (a, (key, a) :: cache)

theorem mem_of_lookup {cache : List (κ × α)} {key : κ} {a : α} (h : cache.lookup key = some a) :
    (key, a) ∈ cache := by
  induction cache with
  | nil => cases h
  | cons entry cache ih =>
    obtain ⟨k, v⟩ := entry
    rw [List.lookup_cons] at h
    by_cases hk : key = k
    · rw [beq_iff_eq.mpr hk] at h
      obtain rfl := Option.some.inj h
      rw [hk]
      exact List.mem_cons_self
    · rw [beq_eq_false_iff_ne.mpr hk] at h
      exact List.mem_cons_of_mem _ (ih h)

theorem notMem_of_lookup {cache : List (κ × α)} {key : κ} (h : cache.lookup key = none) :
    key ∉ cache.map Prod.fst := by
  intro hmem
  obtain ⟨entry, hentry, rfl⟩ := List.mem_map.mp hmem
  have hne := List.lookup_eq_none_iff.mp h entry hentry
  simp at hne

theorem memo_cases (x : Prog ε σ α) (cache : List (κ × α)) (key : κ) (s : σ) :
    (∃ a, cache.lookup key = some a ∧ memo x cache key s = .ok (a, cache) s) ∨
    (cache.lookup key = none ∧ memo x cache key s =
      match x s with
      | .ok a s' => .ok (a, (key, a) :: cache) s'
      | .error e s' => .error e s') := by
  unfold memo
  cases hlookup : cache.lookup key with
  | some a => exact .inl ⟨a, rfl, rfl⟩
  | none =>
    refine .inr ⟨rfl, ?_⟩
    change (x >>= fun a => pure (a, (key, a) :: cache)) s = _
    rw [run_bind]
    cases x s <;> rfl

end Memo

/-- What a computation returns depends on `q` alone, which it keeps. -/
structure Steady (q : σ → γ) (x : Prog ε σ α) : Prop where
  keeps : Keeps q x
  same : ∀ s s', q s = q s' → result x s = result x s'

/-- Every entry of the cache is what the computation of its key returns. -/
def Coherent (q : σ → γ) (v : γ) (x : κ → Prog ε σ α) (cache : List (κ × α)) : Prop :=
  ∀ entry ∈ cache, ∀ s, q s = v → result (x entry.1) s = .ok entry.2

section Coherent

variable {q : σ → γ} {x : κ → Prog ε σ α} {cache : List (κ × α)}

theorem Coherent.nil (v : γ) : Coherent q v x [] := fun _ h => by cases h

/-- Over a coherent cache the result is that of the computation, and the cache stays coherent. -/
theorem Coherent.memo [DecidableEq κ] (key : κ) (hsteady : Steady q (x key)) {s : σ}
    (h : Coherent q (q s) x cache) :
    match memo (x key) cache key s with
    | .ok (a, cache') s' =>
      result (x key) s = .ok a ∧ q s' = q s ∧ Coherent q (q s) x cache'
    | .error e s' => result (x key) s = .error e ∧ q s' = q s := by
  obtain ⟨a, hlookup, hrun⟩ | ⟨-, hrun⟩ := memo_cases (x key) cache key s
  · rw [hrun]
    exact ⟨h (key, a) (mem_of_lookup hlookup) s rfl, rfl, h⟩
  · rw [hrun]
    have hkeeps := hsteady.keeps.apply s
    cases hx : x key s with
    | error e s' =>
      rw [after_of_error hx] at hkeeps
      exact ⟨by simp [result, hx], hkeeps⟩
    | ok a s' =>
      rw [after_of_ok hx] at hkeeps
      have hresult : result (x key) s = .ok a := by simp [result, hx]
      refine ⟨hresult, hkeeps, fun entry hentry t ht => ?_⟩
      obtain rfl | hold := List.mem_cons.mp hentry
      · rw [← hresult]
        exact hsteady.same t s ht
      · exact h entry hold t ht

end Coherent

end OrbitBhyve.Foundation
