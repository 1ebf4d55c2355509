import Mathlib.Data.List.Basic
import Mathlib.Tactic

/-!
# Repeated self-delimiting parsers

A byte format is often read by a loop which peels one item off the front of
the unread input until nothing is left or an item fails. `parseMany` refuses
the whole input in the second case, `parseWhile` keeps what was read. The loop
is total because every item consumes input. If each written item is recovered
with its rest untouched, then either reading inverts concatenation.
-/

namespace OrbitBhyve.Foundation

variable {α β γ : Type*}

/-- One item off the front of the input together with the unread rest. -/
abbrev Parser (β α : Type*) := List β → Option (α × List β)

/-- A successful parse leaves strictly less input. -/
def Parser.Consumes (p : Parser β α) : Prop :=
  ∀ data a rest, p data = some (a, rest) → rest.length < data.length

/-- The encoding of each admissible `c` is read as `view c`, whatever follows it. -/
def Parser.Inverts (p : Parser β α) (encode : γ → List β) (view : γ → α) (dom : γ → Prop) :
    Prop :=
  ∀ c rest, dom c → p (encode c ++ rest) = some (view c, rest)

/-- The items read before the loop stops, and the input it stops at. -/
def parseLoop (p : Parser β α) : ℕ → List β → List α × List β
  | _, [] => ([], [])
  | 0, b :: bs => ([], b :: bs)
  | fuel + 1, b :: bs =>
    match p (b :: bs) with
    | none => ([], b :: bs)
    | some (a, rest) =>
      let r := parseLoop p fuel rest
      (a :: r.1, r.2)

/-- Read items until the first failure. -/
def parseWhile (p : Parser β α) (data : List β) : List α := (parseLoop p data.length data).1

/-- Read items until the input is empty; one failure refuses the whole input. -/
def parseMany (p : Parser β α) (data : List β) : Option (List α) :=
  let r := parseLoop p data.length data
  if r.2.isEmpty then some r.1 else none

variable {p : Parser β α}

/-- Fuel beyond the length of the input is never used. -/
theorem parseLoop_congr (hp : p.Consumes) : ∀ (fuel fuel' : ℕ) (data : List β),
    data.length ≤ fuel → data.length ≤ fuel' → parseLoop p fuel data = parseLoop p fuel' data := by
  intro fuel
  induction fuel with
  | zero =>
    intro fuel' data h _
    have : data = [] := List.length_eq_zero_iff.mp (by omega)
    subst this
    cases fuel' <;> rfl
  | succ fuel ih =>
    intro fuel' data h h'
    cases data with
    | nil => cases fuel' <;> rfl
    | cons b bs =>
      cases fuel' with
      | zero => simp at h'
      | succ fuel' =>
        simp only [parseLoop]
        cases hb : p (b :: bs) with
        | none => rfl
        | some r =>
          have hlt := hp _ r.1 r.2 hb
          simp only [List.length_cons] at h h' hlt
          simp only [ih fuel' r.2 (by omega) (by omega)]

theorem parseLoop_of_some (hp : p.Consumes) {data rest : List β} {a : α}
    (h : p data = some (a, rest)) (hne : data ≠ []) :
    parseLoop p data.length data =
      (a :: (parseLoop p rest.length rest).1, (parseLoop p rest.length rest).2) := by
  obtain ⟨b, bs, rfl⟩ := List.exists_cons_of_ne_nil hne
  have hlt := hp _ _ _ h
  simp only [List.length_cons, parseLoop, h]
  rw [parseLoop_congr hp bs.length rest.length rest (by simpa using Nat.le_of_lt_succ hlt) le_rfl]

@[simp] theorem parseMany_nil : parseMany p [] = some [] := rfl
@[simp] theorem parseWhile_nil : parseWhile p [] = [] := rfl

theorem parseMany_of_some (hp : p.Consumes) {data rest : List β} {a : α}
    (h : p data = some (a, rest)) (hne : data ≠ []) :
    parseMany p data = (parseMany p rest).map (a :: ·) := by
  simp only [parseMany, parseLoop_of_some hp h hne]
  split <;> rfl

theorem parseMany_of_none {data : List β} (h : p data = none) (hne : data ≠ []) :
    parseMany p data = none := by
  obtain ⟨b, bs, rfl⟩ := List.exists_cons_of_ne_nil hne
  simp [parseMany, parseLoop, h]

theorem parseWhile_of_some (hp : p.Consumes) {data rest : List β} {a : α}
    (h : p data = some (a, rest)) (hne : data ≠ []) :
    parseWhile p data = a :: parseWhile p rest := by
  simp only [parseWhile, parseLoop_of_some hp h hne]

theorem parseWhile_of_none {data : List β} (h : p data = none) : parseWhile p data = [] := by
  cases data with
  | nil => rfl
  | cons b bs => simp [parseWhile, parseLoop, h]

variable {encode : γ → List β} {view : γ → α} {dom : γ → Prop}

theorem Parser.Consumes.encode_ne_nil (hp : p.Consumes) (hi : p.Inverts encode view dom) {c : γ}
    (hc : dom c) (rest : List β) : encode c ++ rest ≠ [] := by
  intro h
  have hlt := hp _ _ _ (hi c rest hc)
  simp [h] at hlt

/-- The strict loop peels off a whole block of written items. -/
theorem parseMany_flatMap_append (hp : p.Consumes) (hi : p.Inverts encode view dom)
    (items : List γ) (h : ∀ c ∈ items, dom c) (rest : List β) :
    parseMany p (items.flatMap encode ++ rest) =
      (parseMany p rest).map (items.map view ++ ·) := by
  induction items with
  | nil => simp
  | cons c items ih =>
    have hc := h c List.mem_cons_self
    rw [List.flatMap_cons, List.append_assoc,
      parseMany_of_some hp (hi c _ hc) (hp.encode_ne_nil hi hc _),
      ih (fun b hb => h b (List.mem_cons_of_mem _ hb)), Option.map_map]
    rfl

/-- Concatenated encodings are read back as the list that was written. -/
theorem parseMany_flatMap (hp : p.Consumes) (hi : p.Inverts encode view dom)
    (items : List γ) (h : ∀ c ∈ items, dom c) :
    parseMany p (items.flatMap encode) = some (items.map view) := by
  simpa using parseMany_flatMap_append hp hi items h []

/-- The lenient loop peels off a whole block of written items. -/
theorem parseWhile_flatMap_append (hp : p.Consumes) (hi : p.Inverts encode view dom)
    (items : List γ) (h : ∀ c ∈ items, dom c) (rest : List β) :
    parseWhile p (items.flatMap encode ++ rest) = items.map view ++ parseWhile p rest := by
  induction items with
  | nil => simp
  | cons c items ih =>
    have hc := h c List.mem_cons_self
    rw [List.flatMap_cons, List.append_assoc,
      parseWhile_of_some hp (hi c _ hc) (hp.encode_ne_nil hi hc _),
      ih (fun b hb => h b (List.mem_cons_of_mem _ hb))]
    rfl

theorem parseWhile_flatMap (hp : p.Consumes) (hi : p.Inverts encode view dom)
    (items : List γ) (h : ∀ c ∈ items, dom c) :
    parseWhile p (items.flatMap encode) = items.map view := by
  simpa using parseWhile_flatMap_append hp hi items h []

end OrbitBhyve.Foundation
