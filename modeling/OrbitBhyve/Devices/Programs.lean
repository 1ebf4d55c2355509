import OrbitBhyve.Devices.Messages
import OrbitBhyve.Devices.Status

/-!
# Program read-back

`parse_program_body` on one `#19` body, and `parse_sync_dump` on the stream of
a sync dump: later bodies of a slot replace earlier ones, the mask and the
status are those of the last message which carries them, and the enable flags
are filled in from the mask at the end.
-/

namespace OrbitBhyve.Devices

open Foundation Python Wire

def decodePackedVarints (data : Bytes) : List ℕ := parseWhile readVarint data

/-- The start times of one field, a single varint or a packed run. -/
def startsOf (f : Field) : List ℕ :=
  if f.num = 8 then
    match f.val with
    | .int v => [v]
    | .bytes b => decodePackedVarints b
  else []

def zoneOf (f : Field) : List (Option PbVal × Option PbVal) :=
  match f.val with
  | .bytes b =>
    if f.num = 9 then [(pbField (pbParse b) 1, pbField (pbParse b) 2)] else []
  | .int _ => []

/-- The day mode with the fields which are read along with it; a later branch of
the source overrides the mode of an earlier one. -/
structure ReadDays where
  dayMode : Option DayMode := none
  weekdayMask : Option PbVal := none
  intervalDays : Option PbVal := none
  intervalAnchor : Option String := none

def readWeekdays (f : Option (List Field)) (r : ReadDays) : ReadDays :=
  match pbField f 3 with
  | some (.bytes wk) =>
    { r with dayMode := some .weekdays, weekdayMask := pbField (pbParse wk) 1 }
  | _ => r

def readInterval (f : Option (List Field)) (r : ReadDays) : ReadDays :=
  match pbField f 4 with
  | some (.bytes iv) =>
    let ivf := pbParse iv
    { r with
      dayMode := some .interval
      intervalDays := pbField ivf 1
      intervalAnchor :=
        match pbField ivf 2 with
        | some (.bytes anchor) => some (decodeText anchor)
        | _ => none }
  | _ => r

def readMarker (f : Option (List Field)) (num : ℕ) (mode : DayMode) (r : ReadDays) : ReadDays :=
  if (pbField f num).isSome then { r with dayMode := some mode } else r

def readDays (f : Option (List Field)) : ReadDays :=
  readMarker f 7 .once (readMarker f 6 .even (readMarker f 5 .odd
    (readInterval f (readWeekdays f {}))))

def readName (v : Option PbVal) : Option ReadName :=
  match v with
  | some (.bytes b) => some (.text (decodeText b))
  | some (.int n) => some (.int n)
  | none => none

/-- `parse_program_body` past the parse. -/
def programSummary (f : List Field) : ProgramSummary :=
  let days := readDays (some f)
  { slot := pbField (some f) 1
    empty := (pbField (some f) 2).any PbVal.isBytes
    dayMode := days.dayMode
    weekdayMask := days.weekdayMask
    intervalDays := days.intervalDays
    intervalAnchor := days.intervalAnchor
    startMins := f.flatMap startsOf
    zones := f.flatMap zoneOf
    name := readName (pbField (some f) 17)
    budget := pbField (some f) 10 }

def parseProgramBody (pb : Bytes) : Option ProgramSummary := (pbParse pb).map programSummary

structure SyncDump where
  programs : ProgramTable := []
  mask : Option PbVal := none
  status : Option DeviceStatus := none
  deriving DecidableEq

def syncProgram (top : Option (List Field)) (programs : ProgramTable) : ProgramTable :=
  match pbField top 19 with
  | some (.bytes p19) =>
    match parseProgramBody p19 with
    | some sch =>
      match sch.slot with
      | some slot => programs.set slot sch
      | none => programs
    | none => programs
  | _ => programs

def syncMask (top : Option (List Field)) (mask : Option PbVal) : Option PbVal :=
  match pbField top 20 with
  | some (.bytes p20) => pbField (pbParse p20) 1
  | _ => mask

def syncStatus (top : Option (List Field)) (pb : Bytes) (status : Option DeviceStatus) :
    Except PyErr (Option DeviceStatus) :=
  match pbField top 16 with
  | some (.bytes _) => (extractStatus pb).map some
  | _ => .ok status

/-- One round of the loop over the inner messages. -/
def syncMessage (acc : SyncDump) (pb : Bytes) : Except PyErr SyncDump :=
  match pbParse pb with
  | none => .ok acc
  | some top => do
    let status ← syncStatus (some top) pb acc.status
    .ok {
      programs := syncProgram (some top) acc.programs
      mask := syncMask (some top) acc.mask
      status := status }

def syncMessages (acc : SyncDump) : List Bytes → Except PyErr SyncDump
  | [] => .ok acc
  | pb :: rest => do
    let acc ← syncMessage acc pb
    syncMessages acc rest

/-- `bool(active_mask & (1 << (sid - 1)))`. -/
def enabledBit (mask sid : PbVal) : Except PyErr Bool :=
  match sid with
  | .bytes _ => .error .typeError
  | .int 0 => .error .valueError
  | .int (n + 1) =>
    match mask with
    | .bytes _ => .error .typeError
    | .int m => .ok (m.testBit n)

def fillEnabled (mask : PbVal) : ProgramTable → Except PyErr ProgramTable
  | [] => .ok []
  | (sid, sch) :: rest => do
    let on ← enabledBit mask sid
    let rest ← fillEnabled mask rest
    .ok ((sid, { sch with enabled := some on }) :: rest)

/-- `parse_sync_dump` on the inner messages of the stream. -/
def parseSyncMessages (messages : List Bytes) : Except PyErr SyncDump := do
  let dump ← syncMessages {} messages
  match dump.mask with
  | some mask => do
    let programs ← fillEnabled mask dump.programs
    .ok { dump with programs := programs }
  | none => .ok dump

def parseSyncDump (stream : Bytes) : Except PyErr SyncDump :=
  parseSyncMessages (splitInnerMessages stream)

end OrbitBhyve.Devices
