import Mathlib.Data.List.Basic
import Mathlib.Tactic

/-!
# Dictionaries and values

A `dict` with text keys is the list of its items in the order they were put in.
Nothing below asks for the keys to differ: a lookup takes the first item of its
key, and an update keeps one value a key.
-/

namespace OrbitBhyve.Python

abbrev Dict (α : Type*) := List (String × α)

namespace Dict

variable {α : Type*}

/-- `d.get(k)`. -/
def get (d : Dict α) (k : String) : Option α := (d.find? fun item => item.1 == k).map Prod.snd

/-- `{**a, **b}`; a key of both keeps its place in `a`. -/
def update (a b : Dict α) : Dict α :=
  a.map (fun item => (item.1, (get b item.1).getD item.2)) ++
    b.filter fun item => (get a item.1).isNone

/-- `d[k] = v`. -/
def set (d : Dict α) (k : String) (v : α) : Dict α := update d [(k, v)]

@[simp] theorem get_nil (k : String) : get ([] : Dict α) k = none := rfl

theorem get_cons (item : String × α) (d : Dict α) (k : String) :
    get (item :: d) k = if item.1 = k then some item.2 else get d k := by
  unfold get
  rw [List.find?_cons]
  by_cases h : item.1 = k
  · simp [h]
  · simp [h, beq_false_of_ne h]

theorem get_append (a b : Dict α) (k : String) : get (a ++ b) k = (get a k).or (get b k) := by
  unfold get
  rw [List.find?_append, Option.map_or]

theorem get_map (f : String → α → α) (d : Dict α) (k : String) :
    get (d.map fun item => (item.1, f item.1 item.2)) k = (get d k).map (f k) := by
  induction d with
  | nil => rfl
  | cons item d ih =>
    rw [List.map_cons, get_cons, get_cons, ih]
    split_ifs with h
    · rw [Option.map_some, h]
    · rfl

theorem get_filter (p : String → Bool) (d : Dict α) (k : String) :
    get (d.filter fun item => p item.1) k = if p k = true then get d k else none := by
  induction d with
  | nil => simp
  | cons item d ih =>
    rw [List.filter_cons, get_cons]
    by_cases hk : item.1 = k
    · cases hp : p k <;> simp [hk, hp, get_cons, ih]
    · by_cases hp : p item.1 = true
      · rw [if_pos hp, get_cons, if_neg hk, if_neg hk, ih]
      · rw [if_neg hp, if_neg hk, ih]

theorem get_update (a b : Dict α) (k : String) : get (update a b) k = (get b k).or (get a k) := by
  rw [update, get_append, get_map fun k v => (get b k).getD v, get_filter fun k => (get a k).isNone]
  cases ha : get a k <;> cases hb : get b k <;> rfl

theorem get_set (d : Dict α) (k k' : String) (v : α) :
    get (set d k v) k' = if k = k' then some v else get d k' := by
  rw [set, get_update, get_cons, get_nil]
  split_ifs <;> rfl

theorem update_update (a b c : Dict α) : update (update a b) c = update a (update b c) := by
  have hvalue : ∀ item : String × α,
      (get c item.1).getD ((get b item.1).getD item.2) = (get (update b c) item.1).getD item.2 := by
    intro item
    rw [get_update]
    cases get c item.1 <;> rfl
  have hnew : ∀ k, (get (update a b) k).isNone = ((get a k).isNone && (get b k).isNone) := by
    intro k
    rw [get_update]
    cases get a k <;> cases get b k <;> rfl
  unfold update at hvalue hnew ⊢
  simp only [List.map_append, List.map_map, List.filter_append, List.filter_map, List.filter_filter,
    List.append_assoc, Function.comp_def, hvalue, hnew]

theorem forall_mem_update {P : α → Prop} {a b : Dict α} (ha : ∀ item ∈ a, P item.2)
    (hb : ∀ item ∈ b, P item.2) : ∀ item ∈ update a b, P item.2 := by
  refine List.forall_mem_append.mpr ⟨List.forall_mem_map.mpr fun item hitem => ?_, fun item hitem =>
    hb item (List.mem_of_mem_filter hitem)⟩
  cases hfound : get b item.1 with
  | none => exact ha item hitem
  | some v =>
    obtain ⟨found, hmem, rfl⟩ := Option.map_eq_some_iff.mp hfound
    exact hb found (List.mem_of_find?_eq_some hmem)

/-! ### Keys -/

def keys (d : Dict α) : List String := d.map Prod.fst

/-- No key occurs twice, as in every `dict`. -/
def Distinct (d : Dict α) : Prop := d.keys.Nodup

instance (d : Dict α) : Decidable d.Distinct := inferInstanceAs (Decidable (List.Nodup _))

theorem isSome_get {d : Dict α} {k : String} : (get d k).isSome = true ↔ k ∈ d.keys := by
  induction d with
  | nil => simp [keys]
  | cons item d ih =>
    rw [get_cons, keys, List.map_cons, List.mem_cons, ← keys, ← ih]
    split_ifs with h
    · simp [h]
    · simp [Ne.symm h]

theorem get_eq_none {d : Dict α} {k : String} : get d k = none ↔ k ∉ d.keys := by
  rw [← isSome_get, ← Option.not_isSome_iff_eq_none]

theorem keys_update (a b : Dict α) :
    (update a b).keys = a.keys ++ b.keys.filter fun k => (get a k).isNone := by
  unfold update keys
  rw [List.map_append, List.map_map, List.filter_map]
  rfl

theorem keys_update_of_subset {a b : Dict α} (h : ∀ k ∈ b.keys, k ∈ a.keys) :
    (update a b).keys = a.keys := by
  rw [keys_update, List.append_right_eq_self, List.filter_eq_nil_iff]
  intro k hk
  rw [Option.isNone_iff_eq_none, get_eq_none]
  exact not_not_intro (h k hk)

theorem update_of_disjoint {a b : Dict α} (h : ∀ k ∈ b.keys, k ∉ a.keys) : update a b = a ++ b := by
  have hold : ∀ item ∈ a, (item.1, (get b item.1).getD item.2) = id item := by
    intro item hitem
    have hkey : item.1 ∈ a.keys := List.mem_map_of_mem hitem
    rw [get_eq_none.mpr fun hmem => h item.1 hmem hkey]
    rfl
  have hnew : ∀ item ∈ b, (get a item.1).isNone = true := by
    intro item hitem
    rw [Option.isNone_iff_eq_none, get_eq_none]
    exact h item.1 (List.mem_map_of_mem hitem)
  rw [update, List.map_congr_left hold, List.map_id, List.filter_eq_self.mpr hnew]

theorem Distinct.update {a b : Dict α} (ha : a.Distinct) (hb : b.Distinct) :
    (Dict.update a b).Distinct := by
  unfold Distinct
  rw [keys_update]
  refine ha.append (hb.filter _) ?_
  intro k hka hkb
  have hnew := (List.mem_filter.mp hkb).2
  rw [Option.isNone_iff_eq_none, get_eq_none] at hnew
  exact hnew hka

/-- A dictionary is known by its keys, in order, and its values. -/
theorem ext {a b : Dict α} (ha : a.Distinct) (hkeys : a.keys = b.keys)
    (hget : ∀ k, get a k = get b k) : a = b := by
  induction a generalizing b with
  | nil => exact (List.map_eq_nil_iff.mp hkeys.symm).symm
  | cons item a ih =>
    obtain ⟨item', b, rfl, hkey, htail⟩ := List.map_eq_cons_iff.mp hkeys.symm
    obtain ⟨hfresh, hdistinct⟩ := List.nodup_cons.mp ha
    have hvalue := hget item.1
    rw [get_cons, get_cons, if_pos rfl, if_pos hkey] at hvalue
    have hrest : ∀ k, get a k = get b k := by
      intro k
      by_cases hk : item.1 = k
      · subst hk
        have hkeys' : keys b = keys a := htail
        rw [get_eq_none.mpr hfresh, get_eq_none.mpr (hkeys' ▸ hfresh)]
      · have hother := hget k
        rwa [get_cons, get_cons, if_neg hk, if_neg (hkey ▸ hk)] at hother
    rw [ih hdistinct htail.symm hrest]
    exact congrArg (· :: b) (Prod.ext hkey.symm (Option.some.inj hvalue))

/-! ### Values -/

/-- `{k: f(v) for k, v in d.items()}`. -/
def mapValues {β : Type*} (f : α → β) (d : Dict α) : Dict β := d.map fun item => (item.1, f item.2)

section MapValues

variable {β γ : Type*}

theorem get_mapValues (f : α → β) (d : Dict α) (k : String) :
    get (mapValues f d) k = (get d k).map f := by
  induction d with
  | nil => rfl
  | cons item d ih =>
    rw [mapValues, List.map_cons, get_cons, get_cons, ← mapValues, ih]
    split_ifs <;> rfl

theorem mapValues_set (f : α → β) (d : Dict α) (k : String) (v : α) :
    mapValues f (d.set k v) = (mapValues f d).set k (f v) := by
  have hvalue : ∀ item : String × α, f ((get [(k, v)] item.1).getD item.2) =
      (get [(k, f v)] item.1).getD (f item.2) := by
    intro item
    rw [get_cons, get_cons]
    split_ifs <;> rfl
  have hnew : (get (mapValues f d) k).isNone = (get d k).isNone := by
    rw [get_mapValues, Option.isNone_map]
  have hlast : ∀ (b : Bool) (w : α), List.map (fun item => (item.1, f item.2))
      (if b = true then [(k, w)] else []) = if b = true then [(k, f w)] else [] := by
    intro b w
    cases b <;> rfl
  simp only [set, update, List.filter_cons, List.filter_nil, hnew]
  rw [mapValues, List.map_append, hlast, mapValues, List.map_map, List.map_map]
  simp only [Function.comp_def, hvalue]

end MapValues

end Dict

/-- What the cloud, a form or an entry may hold: JSON, with finite floats. -/
inductive Value where
  | none
  | bool (b : Bool)
  | int (n : ℤ)
  | float (q : ℚ)
  | str (s : String)
  | list (xs : List Value)
  | dict (items : List (String × Value))

/-- `value is None or value == "" or value == 0`; a `bool` is a number. -/
def Value.isBlank : Value → Bool
  | none => true
  | bool b => !b
  | int n => n == 0
  | float q => q == 0
  | str s => s == ""
  | list _ | dict _ => false

end OrbitBhyve.Python
