import Mathlib.Data.List.Sort
import OrbitBhyve.Python.Value

/-!
# Merge rules of re-discovery

A discovered record is merged onto the stored one of its `cloud_id`, field by
field; a selected device which the cloud no longer lists is carried over as it
is. `discover` gives every record a `cloud_id`, which is empty when the cloud
names none, and such a record is never merged into the list.
-/

namespace OrbitBhyve.Entry

open Python

structure DeviceRecord where
  cloudId : String
  fields : Dict Value

def STICKY_FIELDS : List String :=
  ["network_key", "mesh_device_id", "hub_mesh_device_id", "bridge_device_id", "mesh_id", "mac",
    "stations"]

/-- `not _blank(record.get(field))`. -/
def filled (fields : Dict Value) (field : String) : Bool :=
  match Dict.get fields field with
  | none => false
  | some v => !v.isBlank

/-- One turn of the loop of `merge_device_record`. -/
def keepSticky (old merged : Dict Value) (field : String) : Dict Value :=
  if !filled merged field && filled old field then
    match Dict.get old field with
    | none => merged
    | some v => Dict.set merged field v
  else merged

def mergeDeviceRecord (old new : DeviceRecord) : DeviceRecord where
  cloudId := new.cloudId
  fields := STICKY_FIELDS.foldl (keepSticky old.fields) (Dict.update old.fields new.fields)

def cloudIds (records : List DeviceRecord) : List String := records.map DeviceRecord.cloudId

/-- `by_stored.get(cid)`: of records with one `cloud_id`, the last. -/
def byStored (stored : List DeviceRecord) (cid : String) : Option DeviceRecord :=
  (stored.filter fun r => r.cloudId == cid).getLast?

/-- What becomes of a selected record of the discovery. -/
def mergeDiscovered (stored : List DeviceRecord) (record : DeviceRecord) : DeviceRecord :=
  match byStored stored record.cloudId with
  | none => record
  | some old => mergeDeviceRecord old record

/-- `cid and cid in selected_ids`. -/
def isSelected (selected : List String) (record : DeviceRecord) : Bool :=
  record.cloudId != "" && selected.contains record.cloudId

def mergeDeviceLists (stored discovered : List DeviceRecord) (selected : List String) :
    List DeviceRecord :=
  let out := (discovered.filter (isSelected selected)).map (mergeDiscovered stored)
  out ++ stored.filter fun r => isSelected selected r && !(cloudIds out).contains r.cloudId

def defaultSelection (stored : List String) (known : Option (List String))
    (catalogue : List String) : List String :=
  catalogue.filter fun cid => stored.contains cid || !(known.getD stored).contains cid

def nextKnownIds (known : Option (List String)) (stored catalogue : List String) : List String :=
  ((known.getD [] ++ stored ++ catalogue).dedup).insertionSort (· ≤ ·)

/-- The records a picker offers: the discovery, then what only the entry has. -/
def catalogue (stored discovered : List DeviceRecord) : List DeviceRecord :=
  discovered ++ stored.filter fun r => !(cloudIds discovered).contains r.cloudId

/-! ## Sticky fields -/

section Sticky

variable {old merged : Dict Value} {f g : String}

theorem filled_update (a b : Dict Value) (f : String) :
    filled (Dict.update a b) f = if (Dict.get b f).isSome then filled b f else filled a f := by
  unfold filled
  rw [Dict.get_update]
  cases Dict.get b f <;> rfl

theorem filled_set (d : Dict Value) (g f : String) (v : Value) :
    filled (Dict.set d g v) f = if g = f then !v.isBlank else filled d f := by
  unfold filled
  rw [Dict.get_set]
  split_ifs <;> rfl

theorem exists_of_filled (h : filled old f = true) :
    ∃ v, Dict.get old f = some v ∧ v.isBlank = false := by
  unfold filled at h
  split at h
  · cases h
  · next v hv => exact ⟨v, hv, by simpa using h⟩

theorem filled_keepSticky :
    filled (keepSticky old merged g) f = true ↔
      filled merged f = true ∨ f = g ∧ filled old f = true := by
  unfold keepSticky
  split_ifs with hcopy
  · obtain ⟨hblank, hold⟩ : filled merged g = false ∧ filled old g = true := by
      simpa using hcopy
    obtain ⟨v, hv, hvalue⟩ := exists_of_filled hold
    rw [hv]
    dsimp only
    rw [filled_set, hvalue]
    by_cases hfg : g = f
    · subst hfg
      simp [hold]
    · simp [hfg, Ne.symm hfg]
  · constructor
    · exact Or.inl
    · rintro (h | ⟨rfl, hold⟩)
      · exact h
      · simpa [hold] using hcopy

theorem filled_foldl_keepSticky (fields : List String) :
    filled (fields.foldl (keepSticky old) merged) f = true ↔
      filled merged f = true ∨ f ∈ fields ∧ filled old f = true := by
  induction fields generalizing merged with
  | nil => simp
  | cons g fields ih =>
    rw [List.foldl_cons, ih, filled_keepSticky, List.mem_cons]
    tauto

theorem filled_mergeDeviceRecord {old new : DeviceRecord} (hf : f ∈ STICKY_FIELDS) :
    filled (mergeDeviceRecord old new).fields f = true ↔
      filled new.fields f = true ∨ filled old.fields f = true := by
  have hnew : filled new.fields f = true → (Dict.get new.fields f).isSome = true := by
    intro h
    obtain ⟨v, hv, -⟩ := exists_of_filled h
    rw [hv]
    rfl
  unfold mergeDeviceRecord
  rw [filled_foldl_keepSticky, filled_update]
  split_ifs with hsome
  · tauto
  · constructor
    · rintro (h | ⟨-, h⟩) <;> exact .inr h
    · rintro (h | h)
      · exact absurd (hnew h) hsome
      · exact .inl h

end Sticky

/-! ## What the merge keeps -/

section Lists

variable {stored discovered : List DeviceRecord} {selected : List String} {r : DeviceRecord}
  {cid : String}

theorem cloudId_mergeDiscovered (stored : List DeviceRecord) (record : DeviceRecord) :
    (mergeDiscovered stored record).cloudId = record.cloudId := by
  unfold mergeDiscovered
  split <;> rfl

theorem isSelected_iff :
    isSelected selected r = true ↔ r.cloudId ≠ "" ∧ r.cloudId ∈ selected := by
  simp [isSelected]

theorem mem_cloudIds {records : List DeviceRecord} :
    cid ∈ cloudIds records ↔ ∃ r ∈ records, r.cloudId = cid :=
  List.mem_map

theorem byStored_some {old : DeviceRecord} (h : byStored stored cid = some old) :
    old ∈ stored ∧ old.cloudId = cid := by
  have hmem := List.mem_of_getLast? h
  simpa using hmem

theorem exists_byStored (h : r ∈ stored) : ∃ old, byStored stored r.cloudId = some old := by
  refine Option.ne_none_iff_exists'.mp fun hnone => ?_
  have hempty : (stored.filter fun u => u.cloudId == r.cloudId) = [] :=
    List.getLast?_eq_none_iff.mp hnone
  have hmem : r ∈ stored.filter fun u => u.cloudId == r.cloudId :=
    List.mem_filter.mpr ⟨h, beq_self_eq_true _⟩
  rw [hempty] at hmem
  cases hmem

theorem mem_mergeDeviceLists :
    r ∈ mergeDeviceLists stored discovered selected ↔
      (∃ record ∈ discovered, isSelected selected record = true ∧
        mergeDiscovered stored record = r) ∨
      r ∈ stored ∧ isSelected selected r = true ∧ r.cloudId ∉ cloudIds discovered := by
  have hseen : isSelected selected r = true →
      (r.cloudId ∈ cloudIds ((discovered.filter (isSelected selected)).map
        (mergeDiscovered stored)) ↔ r.cloudId ∈ cloudIds discovered) := by
    intro hsel
    simp only [mem_cloudIds, List.mem_map, List.mem_filter]
    constructor
    · rintro ⟨_, ⟨record, ⟨hrecord, -⟩, rfl⟩, hid⟩
      exact ⟨record, hrecord, (cloudId_mergeDiscovered stored record).symm.trans hid⟩
    · rintro ⟨record, hrecord, hid⟩
      refine ⟨_, ⟨record, ⟨hrecord, ?_⟩, rfl⟩, (cloudId_mergeDiscovered stored record).trans hid⟩
      rw [isSelected_iff, hid]
      exact isSelected_iff.mp hsel
  unfold mergeDeviceLists
  rw [List.mem_append, List.mem_map, List.mem_filter]
  refine or_congr ?_ ?_
  · simp only [List.mem_filter, and_assoc]
  · refine and_congr_right fun _ => ?_
    rw [Bool.and_eq_true]
    refine and_congr_right fun hsel => ?_
    rw [Bool.not_eq_true', ← Bool.not_eq_true, List.contains_iff_mem, hseen hsel]

theorem mem_cloudIds_mergeDeviceLists :
    cid ∈ cloudIds (mergeDeviceLists stored discovered selected) ↔
      cid ≠ "" ∧ cid ∈ selected ∧ (cid ∈ cloudIds discovered ∨ cid ∈ cloudIds stored) := by
  simp only [mem_cloudIds, mem_mergeDeviceLists]
  constructor
  · rintro ⟨_, ⟨record, hrecord, hsel, rfl⟩ | ⟨hstored, hsel, -⟩, rfl⟩
    · rw [cloudId_mergeDiscovered]
      obtain ⟨hne, hmem⟩ := isSelected_iff.mp hsel
      exact ⟨hne, hmem, .inl ⟨record, hrecord, rfl⟩⟩
    · obtain ⟨hne, hmem⟩ := isSelected_iff.mp hsel
      exact ⟨hne, hmem, .inr ⟨_, hstored, rfl⟩⟩
  · rintro ⟨hne, hsel, hfrom⟩
    by_cases hdisc : ∃ record ∈ discovered, record.cloudId = cid
    · obtain ⟨record, hrecord, rfl⟩ := hdisc
      exact ⟨_, .inl ⟨record, hrecord, isSelected_iff.mpr ⟨hne, hsel⟩, rfl⟩,
        cloudId_mergeDiscovered stored record⟩
    · obtain ⟨r, hr, rfl⟩ := hfrom.resolve_left hdisc
      exact ⟨r, .inr ⟨hr, isSelected_iff.mpr ⟨hne, hsel⟩, hdisc⟩, rfl⟩

theorem mem_defaultSelection {ids catalogue : List String} {known : Option (List String)} :
    cid ∈ defaultSelection ids known catalogue ↔
      cid ∈ catalogue ∧ (cid ∈ ids ∨ cid ∉ known.getD ids) := by
  simp [defaultSelection]

theorem mem_nextKnownIds {ids catalogue : List String} {known : Option (List String)} :
    cid ∈ nextKnownIds known ids catalogue ↔
      cid ∈ known.getD [] ∨ cid ∈ ids ∨ cid ∈ catalogue := by
  simp [nextKnownIds]

theorem mem_cloudIds_catalogue :
    cid ∈ cloudIds (catalogue stored discovered) ↔
      cid ∈ cloudIds discovered ∨ cid ∈ cloudIds stored := by
  have hrest : cid ∈ cloudIds (stored.filter fun r => !(cloudIds discovered).contains r.cloudId) ↔
      cid ∈ cloudIds stored ∧ cid ∉ cloudIds discovered := by
    simp only [mem_cloudIds, List.mem_filter, Bool.not_eq_true', ← Bool.not_eq_true,
      List.contains_iff_mem]
    constructor
    · rintro ⟨r, ⟨hr, hnew⟩, rfl⟩
      exact ⟨⟨r, hr, rfl⟩, hnew⟩
    · rintro ⟨⟨r, hr, rfl⟩, hnew⟩
      exact ⟨r, ⟨hr, hnew⟩, rfl⟩
  unfold catalogue
  rw [cloudIds, List.map_append, List.mem_append, ← cloudIds, ← cloudIds, hrest]
  tauto

end Lists

end OrbitBhyve.Entry
