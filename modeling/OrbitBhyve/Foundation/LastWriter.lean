import Mathlib.Data.List.Perm.Basic

/-!
# The last writer wins

Items arrive one after the other and some of them write a register. What the
register holds at the end is what the last of the writers wrote, or what it
held before. Where at most one item writes it, their order has no part in it.
-/

namespace OrbitBhyve.Foundation

variable {α β σ : Type*} {said : α → Option β} {as bs : List α} {b : β}

/-- What the last item that says anything says. -/
def lastSaid (said : α → Option β) (as : List α) : Option β := as.reverse.findSome? said

theorem lastSaid_append : lastSaid said (as ++ bs) = (lastSaid said bs).or (lastSaid said as) := by
  rw [lastSaid, List.reverse_append, List.findSome?_append]
  rfl

theorem lastSaid_singleton (a : α) : lastSaid said [a] = said a := by
  rw [lastSaid, List.reverse_singleton, List.findSome?_cons]
  cases said a <;> rfl

theorem lastSaid_cons (a : α) : lastSaid said (a :: as) = (lastSaid said as).or (said a) := by
  rw [← List.singleton_append, lastSaid_append, lastSaid_singleton]

theorem lastSaid_map {γ : Type*} (g : β → γ) (as : List α) :
    lastSaid (fun a => (said a).map g) as = (lastSaid said as).map g := by
  induction as with
  | nil => rfl
  | cons a as ih =>
    rw [lastSaid_cons, lastSaid_cons, ih]
    cases lastSaid said as <;> rfl

theorem lastSaid_eq_none : lastSaid said as = none ↔ ∀ a ∈ as, said a = none := by
  rw [lastSaid, List.findSome?_eq_none_iff]
  simp only [List.mem_reverse]

/-- The last item that says anything, with what came before and after it. -/
theorem lastSaid_eq_some : lastSaid said as = some b ↔
    ∃ before a after, as = before ++ a :: after ∧ said a = some b ∧
      ∀ c ∈ after, said c = none := by
  rw [lastSaid, List.findSome?_eq_some_iff]
  constructor
  · rintro ⟨l₁, a, l₂, hsplit, ha, hnone⟩
    refine ⟨l₂.reverse, a, l₁.reverse, ?_, ha, fun c hc => hnone c (List.mem_reverse.mp hc)⟩
    rw [← List.reverse_reverse as, hsplit]
    simp
  · rintro ⟨before, a, after, rfl, ha, hnone⟩
    refine ⟨after.reverse, a, before.reverse, by simp, ha, ?_⟩
    exact fun c hc => hnone c (List.mem_reverse.mp hc)

/-- What the last item says, as far as it can be read. -/
theorem lastSaid_bind {γ : Type*} {read : β → Option γ} {c : γ}
    (hlast : lastSaid said as = some b) (hread : read b = some c) :
    lastSaid (fun a => (said a).bind read) as = some c := by
  obtain ⟨before, a, after, rfl, ha, hnone⟩ := lastSaid_eq_some.mp hlast
  refine lastSaid_eq_some.mpr ⟨before, a, after, rfl, ?_, fun d hd => ?_⟩
  · rw [ha, Option.bind_some, hread]
  · rw [hnone d hd, Option.bind_none]

/-- Some item says anything. -/
def Speaks (said : α → Option β) (as : List α) : Prop := ∃ a ∈ as, said a ≠ none

def Says (said : α → Option β) (b : β) (as : List α) : Prop := ∃ a ∈ as, said a = some b

theorem Says.mono (h : Says said b as) (hsub : ∀ a ∈ as, a ∈ bs) : Says said b bs := by
  obtain ⟨a, ha, hsaid⟩ := h
  exact ⟨a, hsub a ha, hsaid⟩

theorem Says.of_imp {said' : α → Option β} (h : Says said b as)
    (himp : ∀ a, said a = some b → said' a = some b) : Says said' b as := by
  obtain ⟨a, ha, hsaid⟩ := h
  exact ⟨a, ha, himp a hsaid⟩

theorem said_of_lastSaid (h : lastSaid said as = some b) : Says said b as := by
  obtain ⟨before, a, after, rfl, ha, -⟩ := lastSaid_eq_some.mp h
  exact ⟨a, by simp, ha⟩

/-- What a register holds has been said, or it was there and nothing was said. -/
theorem getD_lastSaid_eq {old : β} : (lastSaid said as).getD old = b ↔
    lastSaid said as = some b ∨ old = b ∧ ¬ Speaks said as := by
  have hsilent : ¬ Speaks said as ↔ lastSaid said as = none := by
    rw [lastSaid_eq_none, Speaks]
    push Not
    rfl
  rw [hsilent]
  cases lastSaid said as <;> simp

/-- A value found in a register proves what every word of it proves exactly when an old
value of that kind is overwritten, or the same is known from elsewhere. -/
theorem getD_lastSaid_imp_iff (old : β) {P : Prop} (h : Says said b as → P) :
    ((lastSaid said as).getD old = b → P) ↔ (old = b → Speaks said as ∨ P) := by
  rw [getD_lastSaid_eq]
  constructor
  · intro hall hold
    by_cases hspeaks : Speaks said as
    · exact .inl hspeaks
    · exact .inr (hall (.inr ⟨hold, hspeaks⟩))
  · rintro hall (hsaid | ⟨hold, hsilent⟩)
    · exact h (said_of_lastSaid hsaid)
    · exact (hall hold).resolve_left hsilent

theorem foldl_register {step : σ → α → σ} {reg : σ → β}
    (h : ∀ s a, reg (step s a) = (said a).getD (reg s)) (as : List α) (s : σ) :
    reg (as.foldl step s) = (lastSaid said as).getD (reg s) := by
  induction as generalizing s with
  | nil => rfl
  | cons a as ih =>
    rw [List.foldl_cons, ih, h, lastSaid_cons]
    cases lastSaid said as <;> rfl

section Alone

/-- At most one item says anything. -/
def SaysOnce (said : α → Option β) (as : List α) : Prop :=
  as.Pairwise fun a c => said a = none ∨ said c = none

theorem SaysOnce.lastSaid_eq_some (h : SaysOnce said as) :
    lastSaid said as = some b ↔ ∃ a ∈ as, said a = some b := by
  rw [Foundation.lastSaid_eq_some]
  constructor
  · rintro ⟨before, a, after, rfl, ha, -⟩
    exact ⟨a, by simp, ha⟩
  · rintro ⟨a, hmem, ha⟩
    obtain ⟨before, after, rfl⟩ := List.append_of_mem hmem
    refine ⟨before, a, after, rfl, ha, fun c hc => ?_⟩
    have hafter := (List.pairwise_append.mp h).2.1
    exact ((List.pairwise_cons.mp hafter).1 c hc).resolve_left (by simp [ha])

theorem SaysOnce.getD_lastSaid_eq_some {said : α → Option (Option β)} (h : SaysOnce said as) :
    (lastSaid said as).getD none = some b ↔ ∃ a ∈ as, said a = some (some b) := by
  rw [← h.lastSaid_eq_some]
  cases lastSaid said as <;> simp

theorem SaysOnce.perm (h : SaysOnce said as) (hperm : as.Perm bs) : SaysOnce said bs :=
  (hperm.pairwise_iff fun hac => hac.symm).mp h

/-- The order of the items does not matter to a register which one of them writes at most. -/
theorem SaysOnce.lastSaid_perm (h : SaysOnce said as) (hperm : as.Perm bs) :
    lastSaid said bs = lastSaid said as := by
  apply Option.ext
  intro b
  rw [(h.perm hperm).lastSaid_eq_some, h.lastSaid_eq_some]
  simp only [hperm.mem_iff]

end Alone
end OrbitBhyve.Foundation
