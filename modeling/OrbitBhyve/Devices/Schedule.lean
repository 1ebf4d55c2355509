import OrbitBhyve.Devices.Programs

/-!
# A written program is read back

`parse_program_body` inverts `_build_program_pb`, whether the start times come
back as they were written, one varint each, or as the single packed run which
the device echoes.
-/

namespace OrbitBhyve.Devices

open Foundation Python Wire

namespace ProgramSpec

variable (spec : ProgramSpec)

/-- The interval as it is written: a missing one counts as every day. -/
def writtenInterval : ℕ := if spec.intervalDays.getD 0 = 0 then 1 else spec.intervalDays.getD 0

/-- The anchor as it is written: an empty one is left out. -/
def writtenAnchor : Option String := spec.intervalAnchor.filter (· ≠ "")

/-- The summary which a schedule reads back as. -/
def summary : ProgramSummary where
  slot := some (.int spec.slot)
  empty := false
  dayMode := some spec.dayMode
  weekdayMask :=
    if spec.dayMode = .weekdays then some (.int (spec.weekdayMask.getD 0)) else none
  intervalDays := if spec.dayMode = .interval then some (.int spec.writtenInterval) else none
  intervalAnchor := if spec.dayMode = .interval then spec.writtenAnchor else none
  startMins := spec.startMins
  zones := spec.zones.map fun z => (some (.int z.1), some (.int z.2))
  name := if spec.name = "" then none else some (.text spec.name)
  budget := some (.int spec.budget)

/-! ## The fields of a written program -/

def anchorFields : List Field :=
  spec.writtenAnchor.toList.map fun anchor => .blob 2 (encodeText anchor)

def intervalFields : List Field := .varint 1 spec.writtenInterval :: spec.anchorFields

def dayField : Field :=
  match spec.dayMode with
  | .weekdays => .blob 3 (pbFieldVarint 1 (spec.weekdayMask.getD 0 : ℕ))
  | .interval => .blob 4 (spec.intervalFields.flatMap encodeField)
  | .odd => .blob 5 []
  | .even => .blob 6 []
  | .once => .blob 7 (pbFieldVarint 1 ((1 <<< (spec.slot - 1) : ℕ) : ℤ))

def startFields : List Field := spec.startMins.map (.varint 8)

/-- The single run of start times which the device echoes, absent when there are none. -/
def packedStartFields : List Field :=
  if spec.startMins = [] then [] else [.blob 8 (spec.startMins.flatMap fun m : ℕ => pbVarint m)]

def zoneField (z : ℕ × ℕ) : Field := .blob 9 (pbFieldVarint 1 z.1 ++ pbFieldVarint 2 z.2)

def nameFields : List Field :=
  if spec.name = "" then [] else [.blob 17 (encodeText spec.name)]

def fields (starts : List Field) : List Field :=
  .varint 1 spec.slot :: spec.dayField ::
    (starts ++ (spec.zones.map zoneField ++ (.varint 10 spec.budget :: spec.nameFields)))

def packedBody : Bytes := (spec.fields spec.packedStartFields).flatMap encodeField

theorem encodeField_dayField : encodeField spec.dayField = buildDayMode spec := by
  unfold dayField buildDayMode
  cases spec.dayMode with
  | interval =>
    dsimp only
    rw [encodeField_blob, intervalFields, anchorFields, writtenAnchor, writtenInterval]
    cases spec.intervalAnchor with
    | none => simp
    | some anchor =>
      by_cases h : anchor = ""
      · simp [h, Option.filter]
      · simp [h, Option.filter]
  | weekdays => rfl
  | odd => rfl
  | even => rfl
  | once => rfl

theorem buildProgramBody_eq :
    buildProgramBody spec = (spec.fields spec.startFields).flatMap encodeField := by
  have hname : spec.nameFields.flatMap encodeField =
      if spec.name = "" then [] else pbFieldBytes 17 (encodeText spec.name) := by
    unfold nameFields
    split_ifs <;> simp
  rw [buildProgramBody, fields, startFields, List.flatMap_cons, List.flatMap_cons,
    encodeField_dayField, List.flatMap_append, List.flatMap_append, List.flatMap_cons, hname,
    List.flatMap_map, List.flatMap_map]
  simp [zoneField]

/-! ## Reading them back -/

structure CarryStarts (starts : List Field) : Prop where
  built : ∀ f ∈ starts, f.Built
  num : ∀ f ∈ starts, f.num = 8
  mins : starts.flatMap startsOf = spec.startMins

theorem carryStarts_startFields : spec.CarryStarts spec.startFields where
  built := by simp [startFields]
  num := by simp [startFields]
  mins := by
    rw [startFields, List.flatMap_map]
    simp [startsOf]

theorem carryStarts_packedStartFields : spec.CarryStarts spec.packedStartFields where
  built := by
    unfold packedStartFields
    split_ifs <;> simp
  num := by
    unfold packedStartFields
    split_ifs <;> simp
  mins := by
    unfold packedStartFields
    split_ifs with h
    · simp [h]
    · have hpacked := parseWhile_flatMap readVarint_consumes readVarint_inverts spec.startMins
        (fun _ _ => trivial)
      simpa [startsOf, decodePackedVarints] using hpacked

variable {spec} {starts : List Field}

theorem CarryStarts.fields_built (h : spec.CarryStarts starts) :
    ∀ f ∈ spec.fields starts, f.Built := by
  have hday : spec.dayField.Built := by
    unfold dayField
    cases spec.dayMode <;> exact rfl
  have hname : ∀ f ∈ spec.nameFields, f.Built := by
    unfold nameFields
    split_ifs <;> simp
  have hzones : ∀ f ∈ spec.zones.map zoneField, f.Built := by
    intro f hf
    obtain ⟨z, -, rfl⟩ := List.mem_map.mp hf
    rfl
  intro f hf
  simp only [fields, List.mem_cons, List.mem_append] at hf
  rcases hf with rfl | rfl | hf | hf | rfl | hf
  · rfl
  · exact hday
  · exact h.built f hf
  · exact hzones f hf
  · rfl
  · exact hname f hf

/-- A field number which no repeated field has is looked up in the single ones. -/
theorem CarryStarts.pbField_fields (h : spec.CarryStarts starts) {num : ℕ} (h8 : num ≠ 8)
    (h9 : num ≠ 9) : pbField (some (spec.fields starts)) num =
      pbField (some (.varint 1 spec.slot :: spec.dayField :: .varint 10 spec.budget ::
        spec.nameFields)) num := by
  have hstarts : pbField (some starts) num = none :=
    pbField_eq_none fun f hf => (h.num f hf).trans_ne h8.symm
  have hzones : pbField (some (spec.zones.map zoneField)) num = none := by
    refine pbField_eq_none fun f hf => ?_
    obtain ⟨z, -, rfl⟩ := List.mem_map.mp hf
    exact h9.symm
  rw [fields, pbField_cons, pbField_cons, pbField_append, hstarts, Option.none_or, pbField_append,
    hzones, Option.none_or, pbField_cons, pbField_cons, pbField_cons, pbField_cons]

theorem pbField_nameFields {num : ℕ} (h : num ≠ 17) : pbField (some spec.nameFields) num = none := by
  refine pbField_eq_none fun f hf => ?_
  unfold nameFields at hf
  split_ifs at hf
  · simp at hf
  · rw [List.mem_singleton.mp hf]
    exact h.symm

theorem num_dayField (spec : ProgramSpec) : spec.dayField.num =
    match spec.dayMode with
    | .weekdays => 3
    | .interval => 4
    | .odd => 5
    | .even => 6
    | .once => 7 := by
  unfold dayField
  cases spec.dayMode <;> rfl

theorem CarryStarts.pbField_day (h : spec.CarryStarts starts) {num : ℕ} (hlo : 3 ≤ num)
    (hhi : num ≤ 7) : pbField (some (spec.fields starts)) num =
      if spec.dayField.num = num then some spec.dayField.val else none := by
  rw [h.pbField_fields (by omega) (by omega), pbField_cons, pbField_cons, pbField_cons,
    pbField_nameFields (by omega), Field.varint_num, Field.varint_num, if_neg (by omega),
    if_neg (show ¬ 10 = num by omega)]

theorem pbParse_intervalFields (spec : ProgramSpec) :
    pbParse (spec.intervalFields.flatMap encodeField) = some spec.intervalFields :=
  pbParse_flatMap_encodeField _ (by
    intro f hf
    simp only [intervalFields, anchorFields, List.mem_cons, List.mem_map] at hf
    rcases hf with rfl | ⟨anchor, -, rfl⟩
    · rfl
    · rfl)

theorem pbField_intervalFields (spec : ProgramSpec) :
    pbField (some spec.intervalFields) 1 = some (.int spec.writtenInterval) ∧
      pbField (some spec.intervalFields) 2 =
        spec.writtenAnchor.map fun anchor => .bytes (encodeText anchor) := by
  refine ⟨by simp [intervalFields], ?_⟩
  rw [intervalFields, anchorFields]
  cases spec.writtenAnchor <;> simp

/-- The day mode of the body, whatever carries its start times. -/
theorem CarryStarts.readDays_fields (h : spec.CarryStarts starts) :
    readDays (some (spec.fields starts)) = {
      dayMode := spec.summary.dayMode
      weekdayMask := spec.summary.weekdayMask
      intervalDays := spec.summary.intervalDays
      intervalAnchor := spec.summary.intervalAnchor } := by
  have hday : ∀ num, 3 ≤ num → num ≤ 7 → pbField (some (spec.fields starts)) num =
      if spec.dayField.num = num then some spec.dayField.val else none :=
    fun num hlo hhi => h.pbField_day hlo hhi
  have h3 := hday 3 (by decide) (by decide)
  have h4 := hday 4 (by decide) (by decide)
  have h5 := hday 5 (by decide) (by decide)
  have h6 := hday 6 (by decide) (by decide)
  have h7 := hday 7 (by decide) (by decide)
  unfold readDays readMarker readInterval readWeekdays
  rw [h3, h4, h5, h6, h7]
  unfold summary dayField
  cases spec.dayMode with
  | weekdays => simp [pbParse_pbFieldVarint]
  | interval =>
    obtain ⟨hdays, hanchor⟩ := pbField_intervalFields spec
    simp only [Field.blob_num, Field.blob_val, pbParse_intervalFields, hdays, hanchor, if_true]
    cases spec.writtenAnchor with
    | none => simp
    | some anchor => simp [decodeText_encodeText]
  | odd => simp
  | even => simp
  | once => simp

theorem CarryStarts.flatMap_startsOf (h : spec.CarryStarts starts) :
    (spec.fields starts).flatMap startsOf = spec.startMins := by
  have hskip : ∀ f : Field, f.num ≠ 8 → startsOf f = [] := fun f hf => if_neg hf
  have hnone : ∀ fs : List Field, (∀ f ∈ fs, f.num ≠ 8) → fs.flatMap startsOf = [] :=
    fun fs hfs => List.flatMap_eq_nil_iff.mpr fun f hf => hskip f (hfs f hf)
  have hday : spec.dayField.num ≠ 8 := by
    rw [num_dayField]
    cases spec.dayMode <;> decide
  have hzones : ∀ f ∈ spec.zones.map zoneField, f.num ≠ 8 := by
    intro f hf
    obtain ⟨z, -, rfl⟩ := List.mem_map.mp hf
    exact Nat.succ_ne_self 8
  have hname : ∀ f ∈ spec.nameFields, f.num ≠ 8 := by
    unfold nameFields
    split_ifs <;> simp
  rw [fields, List.flatMap_cons, List.flatMap_cons, List.flatMap_append, List.flatMap_append,
    List.flatMap_cons, h.mins, hskip _ hday, hnone _ hzones, hnone _ hname]
  simp [startsOf]

theorem CarryStarts.flatMap_zoneOf (h : spec.CarryStarts starts) :
    (spec.fields starts).flatMap zoneOf =
      spec.zones.map fun z => (some (.int z.1), some (.int z.2)) := by
  have hskip : ∀ f : Field, f.num ≠ 9 → zoneOf f = [] := by
    intro f hf
    unfold zoneOf
    split
    · exact if_neg hf
    · rfl
  have hnone : ∀ fs : List Field, (∀ f ∈ fs, f.num ≠ 9) → fs.flatMap zoneOf = [] :=
    fun fs hfs => List.flatMap_eq_nil_iff.mpr fun f hf => hskip f (hfs f hf)
  have hday : spec.dayField.num ≠ 9 := by
    rw [num_dayField]
    cases spec.dayMode <;> decide
  have hstarts : ∀ f ∈ starts, f.num ≠ 9 := fun f hf => by
    rw [h.num f hf]
    decide
  have hname : ∀ f ∈ spec.nameFields, f.num ≠ 9 := by
    unfold nameFields
    split_ifs <;> simp
  have hzone : ∀ z : ℕ × ℕ, zoneOf (zoneField z) = [(some (.int z.1), some (.int z.2))] := by
    intro z
    have hparse := pbParse_flatMap_encodeField [.varint 1 z.1, .varint 2 z.2] (by simp)
    simp only [List.flatMap_cons, List.flatMap_nil, encodeField_varint, List.append_nil] at hparse
    simp [zoneOf, zoneField, hparse]
  have hzones : (spec.zones.map zoneField).flatMap zoneOf =
      spec.zones.map fun z => (some (.int z.1), some (.int z.2)) := by
    rw [List.flatMap_map]
    simp only [hzone]
    rw [List.map_eq_flatMap]
  rw [fields, List.flatMap_cons, List.flatMap_cons, List.flatMap_append, List.flatMap_append,
    List.flatMap_cons, hskip _ hday, hnone _ hstarts, hnone _ hname, hzones]
  simp [zoneOf]

/-- A written program is read back, whatever carries its start times. -/
theorem CarryStarts.parse (h : spec.CarryStarts starts) :
    parseProgramBody ((spec.fields starts).flatMap encodeField) = some spec.summary := by
  have hday2 : spec.dayField.num ≠ 2 ∧ spec.dayField.num ≠ 10 ∧ spec.dayField.num ≠ 17 := by
    rw [num_dayField]
    cases spec.dayMode <;> decide
  have hslot : pbField (some (spec.fields starts)) 1 = some (.int spec.slot) := by
    rw [h.pbField_fields (by decide) (by decide)]
    simp
  have hnotSet : pbField (some (spec.fields starts)) 2 = none := by
    rw [h.pbField_fields (by decide) (by decide)]
    simp [hday2.1, pbField_nameFields]
  have hbudget : pbField (some (spec.fields starts)) 10 = some (.int spec.budget) := by
    rw [h.pbField_fields (by decide) (by decide)]
    simp [hday2.2.1]
  have hname : readName (pbField (some (spec.fields starts)) 17) = spec.summary.name := by
    rw [h.pbField_fields (by decide) (by decide)]
    simp only [pbField_cons, Field.varint_num, if_neg hday2.2.2, Nat.reduceEqDiff, if_false]
    unfold nameFields summary
    by_cases hempty : spec.name = ""
    · simp [hempty, readName]
    · simp [hempty, readName, decodeText_encodeText]
  rw [parseProgramBody, pbParse_flatMap_encodeField _ h.fields_built, Option.map_some,
    programSummary, h.readDays_fields, h.flatMap_startsOf, h.flatMap_zoneOf, hslot, hnotSet, hbudget,
    hname]
  rfl

/-- `parse_program_body` on a body as written. -/
theorem parseProgramBody_buildProgramBody (spec : ProgramSpec) :
    parseProgramBody (buildProgramBody spec) = some spec.summary := by
  rw [buildProgramBody_eq, spec.carryStarts_startFields.parse]

/-- `parse_program_body` on a body as the device echoes it. -/
theorem parseProgramBody_packedBody (spec : ProgramSpec) :
    parseProgramBody spec.packedBody = some spec.summary := by
  rw [packedBody, spec.carryStarts_packedStartFields.parse]

end ProgramSpec
end OrbitBhyve.Devices
