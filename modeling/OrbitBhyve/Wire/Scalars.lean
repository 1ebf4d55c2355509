import OrbitBhyve.Wire.Protobuf

/-!
# Messages of numbers

A writer leaves a number out of its message where it is zero. A reader which
takes a missing field for zero gets back what was written.
-/

namespace OrbitBhyve.Wire

/-- The fields of a message, those left out whose number is zero. -/
def scalarFields (nums : List ℕ) (value : ℕ → ℕ) : List Field :=
  nums.filterMap fun num => if value num = 0 then none else some (.varint num (value num))

def scalarMessage (nums : List ℕ) (value : ℕ → ℕ) : Bytes :=
  (scalarFields nums value).flatMap encodeField

section Scalars

variable (nums : List ℕ) (value : ℕ → ℕ)

theorem scalarFields_built {f : Field} (h : f ∈ scalarFields nums value) : f.Built := by
  obtain ⟨num, -, hf⟩ := List.mem_filterMap.mp h
  split_ifs at hf
  cases hf
  exact Field.varint_built num (value num)

theorem pbParse_scalarMessage :
    pbParse (scalarMessage nums value) = some (scalarFields nums value) :=
  pbParse_flatMap_encodeField _ fun _ hf => scalarFields_built nums value hf

/-- Induction on the numbers: the first field with the number decides, and all of them agree. -/
theorem pbField_scalarFields (num : ℕ) :
    pbField (some (scalarFields nums value)) num =
      if num ∈ nums ∧ value num ≠ 0 then some (.int (value num)) else none := by
  induction nums with
  | nil => simp [scalarFields]
  | cons n nums ih =>
    by_cases hzero : value n = 0
    · have hskip : scalarFields (n :: nums) value = scalarFields nums value := by
        simp [scalarFields, hzero]
      rw [hskip, ih]
      by_cases hnum : num = n
      · subst hnum
        simp [hzero]
      · simp [hnum]
    · have hcons : scalarFields (n :: nums) value =
          .varint n (value n) :: scalarFields nums value := by
        simp [scalarFields, hzero]
      rw [hcons, pbField_cons, ih, Field.varint_num, Field.varint_val]
      by_cases hnum : n = num
      · subst hnum
        simp [hzero]
      · have hne : num ≠ n := fun h => hnum h.symm
        simp [hnum, hne]

theorem pbField_scalarMessage {num : ℕ} (h : num ∈ nums) :
    pbField (pbParse (scalarMessage nums value)) num =
      if value num = 0 then none else some (.int (value num)) := by
  rw [pbParse_scalarMessage, pbField_scalarFields]
  by_cases hzero : value num = 0
  · simp [hzero]
  · simp [h, hzero]

end Scalars

end OrbitBhyve.Wire
