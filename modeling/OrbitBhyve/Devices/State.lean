import OrbitBhyve.Python.DateTime
import OrbitBhyve.Python.Rounding
import OrbitBhyve.Wire.Protobuf

/-!
# Device state

The records of `devices/base.py`. A value which the source copies out of a
parsed message without a type check keeps the parser's untyped form. Slots are
dictionary keys taken from the wire, so the program table is keyed by untyped
values too, in insertion order.
-/

namespace OrbitBhyve.Devices

open Python Wire

inductive DayMode where
  | weekdays
  | interval
  | odd
  | even
  | once
  deriving DecidableEq, Repr

/-- A program name as read back: text, or the integer of a varint `#17`. -/
inductive ReadName where
  | text (s : String)
  | int (n : ℕ)
  deriving DecidableEq, Repr

/-- `ProgramSpec`. Slots count from 1. -/
structure ProgramSpec where
  slot : ℕ
  slot_pos : 0 < slot
  dayMode : DayMode
  weekdayMask : Option ℕ := none
  intervalDays : Option ℕ := none
  intervalAnchor : Option String := none
  startMins : List ℕ := []
  zones : List (ℕ × ℕ) := []
  name : String := ""
  budget : ℕ := 100
  enabled : Bool := false
  deriving DecidableEq

structure ProgramSummary where
  slot : Option PbVal
  empty : Bool := true
  enabled : Option Bool := none
  dayMode : Option DayMode := none
  weekdayMask : Option PbVal := none
  intervalDays : Option PbVal := none
  intervalAnchor : Option String := none
  startMins : List ℕ := []
  zones : List (Option PbVal × Option PbVal) := []
  name : Option ReadName := none
  budget : Option PbVal := none
  deriving DecidableEq

structure FaultStatus where
  pumpFault : Bool
  voltageBoostFail : Bool
  valveOffFlow : Bool
  valveOnNoFlow : Bool
  valveLowFlow : Bool
  valveHighFlow : Bool
  batteryFault : Bool
  stationFaultFlags : ℕ
  accessoryFaultFlags : PbVal
  deriving DecidableEq

/-- `dict[int, ProgramSummary]`, in insertion order. -/
abbrev ProgramTable := List (PbVal × ProgramSummary)

namespace ProgramTable

/-- `programs[key] = value`. -/
def set (key : PbVal) (value : ProgramSummary) : ProgramTable → ProgramTable
  | [] => [(key, value)]
  | (k, v) :: rest => if k = key then (k, value) :: rest else (k, v) :: set key value rest

/-- `programs.get(key)`. -/
def get (table : ProgramTable) (key : PbVal) : Option ProgramSummary := table.lookup key

@[simp] theorem get_nil (key : PbVal) : get [] key = none := rfl

theorem get_cons (k : PbVal) (v : ProgramSummary) (rest : ProgramTable) (key : PbVal) :
    get ((k, v) :: rest) key = if key = k then some v else get rest key := by
  rw [get, List.lookup_cons]
  by_cases h : key = k
  · rw [beq_iff_eq.mpr h, if_pos h]
  · rw [beq_eq_false_iff_ne.mpr h, if_neg h]
    rfl

theorem get_set (table : ProgramTable) (key key' : PbVal) (value : ProgramSummary) :
    get (set key value table) key' = if key' = key then some value else get table key' := by
  induction table with
  | nil => simp [set, get_cons]
  | cons entry rest ih =>
    obtain ⟨k, v⟩ := entry
    by_cases hk : k = key
    · subst hk
      by_cases hkey : key' = k <;> simp [set, get_cons, hkey]
    · by_cases hkey : key' = k
      · have hne : key' ≠ key := fun h => hk (hkey ▸ h)
        simp only [set, if_neg hk, get_cons, if_pos hkey, if_neg hne]
      · simp only [set, if_neg hk, get_cons, if_neg hkey, ih]

theorem get_map (f : PbVal → ProgramSummary → ProgramSummary) (table : ProgramTable)
    (key : PbVal) : get (table.map fun e => (e.1, f e.1 e.2)) key = (get table key).map (f key) := by
  induction table with
  | nil => rfl
  | cons entry rest ih =>
    rw [List.map_cons, get_cons, get_cons, ih]
    split_ifs with h
    · rw [h, Option.map_some]
    · rfl

/-- No key occurs twice. -/
def Distinct : ProgramTable → Prop
  | [] => True
  | (k, _) :: rest => get rest k = none ∧ Distinct rest

theorem mem_iff_get {table : ProgramTable} (h : table.Distinct) {key : PbVal}
    {sch : ProgramSummary} : (key, sch) ∈ table ↔ table.get key = some sch := by
  induction table with
  | nil => simp
  | cons entry rest ih =>
    obtain ⟨k, v⟩ := entry
    obtain ⟨hk, hrest⟩ := h
    rw [List.mem_cons, ih hrest, get_cons, Prod.mk.injEq]
    split_ifs with hkey
    · subst hkey
      simp [hk, eq_comm]
    · simp [hkey]

theorem distinct_set {table : ProgramTable} (h : table.Distinct) (key : PbVal)
    (value : ProgramSummary) : Distinct (set key value table) := by
  induction table with
  | nil => exact ⟨rfl, trivial⟩
  | cons entry rest ih =>
    obtain ⟨k, v⟩ := entry
    obtain ⟨hk, hrest⟩ := h
    rw [set]
    split_ifs with hkey
    · exact ⟨hk, hrest⟩
    · refine ⟨?_, ih hrest⟩
      rw [get_set, if_neg hkey, hk]

theorem distinct_map {table : ProgramTable} (h : table.Distinct)
    {g : PbVal × ProgramSummary → PbVal × ProgramSummary} (hg : ∀ e, (g e).1 = e.1) :
    Distinct (table.map g) := by
  induction table with
  | nil => exact trivial
  | cons entry rest ih =>
    obtain ⟨k, v⟩ := entry
    obtain ⟨hk, hrest⟩ := h
    have hfst : g (k, v) = (k, (g (k, v)).2) := Prod.ext (hg (k, v)) rfl
    have hmap : rest.map g = rest.map fun e => (e.1, (g (e.1, e.2)).2) :=
      List.map_congr_left fun e _ => Prod.ext (hg e) rfl
    rw [List.map_cons, hfst]
    refine ⟨?_, ih hrest⟩
    rw [hmap, get_map fun k v => (g (k, v)).2, hk, Option.map_none]

end ProgramTable

structure DeviceState where
  isWatering : Bool := false
  activeZone : Option ℤ := none
  secondsRemaining : Option ℤ := none
  flowTotal : Option PbVal := none
  flowGpm : Option Reading := none
  flowGpmDevice : Option Reading := none
  flowLpmGen1 : Option ℚ := none
  waterUsedGen1L : Option ℚ := none
  startedAt : Option DateTime := none
  expectedOffAt : Option DateTime := none
  lastCommandAt : Option DateTime := none
  lastCommandLabel : Option String := none
  isConnected : Bool := false
  notificationsLastCmd : ℕ := 0
  deviceClock : Option PbVal := none
  rainDelayMinutes : Option PbVal := none
  rainDelayEnds : Option DateTime := none
  lastSuccessfulPoll : Option DateTime := none
  consecutiveTimeouts : ℕ := 0
  controllerMode : Option PbVal := none
  nextStartFlags : Option PbVal := none
  nextStartAt : Option DateTime := none
  programs : ProgramTable := []
  faults : Option FaultStatus := none
  /-- `extra["mesh_status_raw"]`. -/
  meshStatusRaw : Option Bytes := none
  deriving DecidableEq

end OrbitBhyve.Devices
