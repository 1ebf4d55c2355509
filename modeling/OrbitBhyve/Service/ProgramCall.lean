import OrbitBhyve.Devices.Schedule
import OrbitBhyve.Python.Text

/-!
# The program services

`_spec_from_call` on the data of a `set_program` call which has passed the
service schema, and `_summary_to_dict`, the answer of `get_program`.
-/

namespace OrbitBhyve.Service

open Python Wire Devices

inductive ProgramSlot where
  | A
  | B
  | C
  | D
  | E
  | F
  deriving DecidableEq, Repr

namespace ProgramSlot

/-- `PROGRAM_SLOTS[slot]`. -/
def number : ProgramSlot → ℕ
  | A => 1
  | B => 2
  | C => 3
  | D => 4
  | E => 5
  | F => 6

theorem number_pos (slot : ProgramSlot) : 0 < slot.number := by
  cases slot <;> decide

end ProgramSlot

inductive Weekday where
  | sun
  | mon
  | tue
  | wed
  | thu
  | fri
  | sat
  deriving DecidableEq, Repr

/-- `_WEEKDAY_BITS[d]`. -/
def Weekday.bit : Weekday → ℕ
  | sun => 0
  | mon => 1
  | tue => 2
  | wed => 3
  | thu => 4
  | fri => 5
  | sat => 6

/-- An entry of `zones`, in the ranges of the schema. -/
structure ZoneEntry where
  zone : ℕ
  minutes : ℕ
  zone_range : 1 ≤ zone ∧ zone ≤ 16
  minutes_range : 1 ≤ minutes ∧ minutes ≤ 1440

/-- The data of a `set_program` call which the schema has accepted. -/
structure SetProgramCall where
  slot : ProgramSlot
  dayMode : DayMode
  weekdays : Option (List Weekday) := none
  intervalDays : Option ℕ := none
  intervalAnchor : Option String := none
  startTimes : List String
  zones : List ZoneEntry
  name : String := ""
  budget : ℕ := 100
  enabled : Bool := false
  interval_range : ∀ days ∈ intervalDays, 1 ≤ days ∧ days ≤ 31
  budget_le : budget ≤ 300

/-- What a call is turned down for, with the data of the message. -/
inductive CallError where
  /-- "weekdays mode needs at least one weekday" -/
  | noWeekday
  /-- "interval mode needs interval_days" -/
  | noIntervalDays
  /-- "start_times entries must be HH:MM (or HH:MM:SS); got …" -/
  | notATime (tok : String)
  /-- What `int` says about the digits it cannot read. -/
  | notAnInt (digits : List Char)
  /-- "start_times entry out of range: …" -/
  | outOfRange (tok : String)
  /-- "program name is too long: … bytes (max 32). …" -/
  | nameTooLong (bytes : ℕ)
  deriving DecidableEq

def MAX_PROGRAM_NAME_BYTES : ℕ := 32

def validateProgramName (name : String) : Except CallError String :=
  if MAX_PROGRAM_NAME_BYTES < (encodeText name).length then
    .error (.nameTooLong (encodeText name).length)
  else .ok name

/-- `str(tok).strip().split(":")`. -/
def clockParts (tok : String) : List (List Char) := (strip tok.toList).splitOn ':'

def readInt (digits : List Char) : Except CallError ℕ :=
  match intOfDigits digits with
  | some n => .ok n
  | none => .error (.notAnInt digits)

def parseStartMinutes (tok : String) : Except CallError ℕ :=
  let parts := clockParts tok
  if (parts.length ≠ 2 ∧ parts.length ≠ 3) ∨ parts.all isDigits = false then
    .error (.notATime tok)
  else do
    let hour ← readInt (parts.getD 0 [])
    let minute ← readInt (parts.getD 1 [])
    if hour ≤ 23 ∧ minute ≤ 59 then .ok (hour * 60 + minute) else .error (.outOfRange tok)

def parseStarts : List String → Except CallError (List ℕ)
  | [] => .ok []
  | tok :: toks => do
    let m ← parseStartMinutes tok
    let ms ← parseStarts toks
    .ok (m :: ms)

def weekdayMask (days : List Weekday) : ℕ := days.foldl (fun mask d => mask ||| 1 <<< d.bit) 0

/-- The day-mode checks: the weekday mask of a call. -/
def callWeekdayMask (call : SetProgramCall) : Except CallError (Option ℕ) :=
  match call.dayMode with
  | .weekdays =>
    let mask := weekdayMask (call.weekdays.getD [])
    if mask = 0 then .error .noWeekday else .ok (some mask)
  | .interval => if call.intervalDays.getD 0 = 0 then .error .noIntervalDays else .ok none
  | _ => .ok none

def specFromCall (call : SetProgramCall) : Except CallError ProgramSpec := do
  let mask ← callWeekdayMask call
  let startMins ← parseStarts call.startTimes
  let name ← validateProgramName call.name
  .ok {
    slot := call.slot.number
    slot_pos := call.slot.number_pos
    dayMode := call.dayMode
    weekdayMask := mask
    intervalDays := call.intervalDays
    intervalAnchor := call.intervalAnchor
    startMins := startMins
    zones := call.zones.map fun z => (z.zone - 1, z.minutes * 60)
    name := name
    budget := call.budget
    enabled := call.enabled }

/-! ## The answer -/

/-- `SLOT_LETTERS.get(slot, slot)`. -/
inductive SlotLabel where
  | letter (slot : ProgramSlot)
  | raw (slot : Option PbVal)
  deriving DecidableEq

def slotLabel : Option PbVal → SlotLabel
  | some (.int 1) => .letter .A
  | some (.int 2) => .letter .B
  | some (.int 3) => .letter .C
  | some (.int 4) => .letter .D
  | some (.int 5) => .letter .E
  | some (.int 6) => .letter .F
  | slot => .raw slot

structure ZoneMinutes where
  zone : ℕ
  minutes : Reading
  deriving DecidableEq

/-- The entries of an answer for a slot which is not empty. -/
structure ProgramAnswer where
  slot : SlotLabel
  enabled : Option Bool
  name : Option ReadName
  dayMode : Option DayMode
  weekdayMask : Option PbVal
  intervalDays : Option PbVal
  intervalAnchor : Option String
  startTimes : List String
  zones : List ZoneMinutes
  budget : Option PbVal
  deriving DecidableEq

/-- An answer, with `"empty"` as its tag. -/
inductive ProgramDict where
  | empty (slot : SlotLabel)
  | stored (answer : ProgramAnswer)
  deriving DecidableEq

/-- `f"{m // 60:02d}:{m % 60:02d}"`. -/
def clockText (m : ℕ) : String := twoDigits (m / 60) ++ ":" ++ twoDigits (m % 60)

/-- `{"zone": sid + 1, "minutes": round(sec / 60, 2)}`, in exact arithmetic up to the
greatest float. -/
def zoneMinutes : Option PbVal × Option PbVal → Except PyErr ZoneMinutes
  | (some (.int sid), some (.int sec)) =>
    if sec < 60 * floatLimit then
      .ok { zone := sid + 1, minutes := .hundredths (roundHalfEven (sec * 100) 60) }
    else .error .overflowError
  | _ => .error .typeError

def zonesMinutes : List (Option PbVal × Option PbVal) → Except PyErr (List ZoneMinutes)
  | [] => .ok []
  | z :: zs => do
    let first ← zoneMinutes z
    let rest ← zonesMinutes zs
    .ok (first :: rest)

def summaryToDict (summary : ProgramSummary) : Except PyErr ProgramDict :=
  if summary.empty then .ok (.empty (slotLabel summary.slot))
  else do
    let zones ← zonesMinutes summary.zones
    .ok (.stored {
      slot := slotLabel summary.slot
      enabled := summary.enabled
      name := summary.name
      dayMode := summary.dayMode
      weekdayMask := summary.weekdayMask
      intervalDays := summary.intervalDays
      intervalAnchor := summary.intervalAnchor
      startTimes := summary.startMins.map clockText
      zones := zones
      budget := summary.budget })

end OrbitBhyve.Service
