import OrbitBhyve.Devices.State
import OrbitBhyve.Foundation.Utf8
import OrbitBhyve.Wire.Message

/-!
# Request messages

The protobuf bodies which `devices/protobuf.py` sends.
-/

namespace OrbitBhyve.Devices

open Foundation Python Wire

/-- `str.encode()`. -/
def encodeText (s : String) : Bytes := Utf8.encode s.toList

/-- `bytes.decode(errors="replace")`. -/
def decodeText (b : Bytes) : String := String.ofList (Utf8.decodeReplace b)

theorem decodeText_encodeText (s : String) : decodeText (encodeText s) = s := by
  rw [decodeText, encodeText, Utf8.decodeReplace_encode, String.ofList_toList]

def buildStartPb (stationId durationSec : ℤ) : Bytes :=
  let stationInfo := pbFieldVarint 1 stationId ++ pbFieldVarint 2 durationSec
  let manualParams := pbFieldBytes 3 stationInfo
  let timerMode := pbFieldVarint 1 2 ++ pbFieldBytes 2 manualParams
  pbFieldBytes 14 timerMode

def STOP_PB : Bytes := [0x72, 0x04, 0x08, 0x02, 0x12, 0x00]

def REQUEST_STATUS_PB : Bytes := [0x7A, 0x00]

def FLOW_SUBSCRIBE_PB : Bytes := [0xCA, 0x03, 0x05, 0x08, 0xE8, 0x07, 0x10, 0x02]

def FLOW_UNSUBSCRIBE_PB : Bytes := [0xCA, 0x03, 0x04, 0x08, 0x00, 0x10, 0x02]

/-- The `#17` body which `_build_rain_delay_pb` wraps. -/
def rainDelayBody (minutes : ℤ) (expiry : Option ℤ) : Bytes :=
  let body := pbFieldVarint 1 minutes
  match expiry with
  | some e => if 0 < minutes then body ++ (pbFieldVarint 3 e ++ pbFieldVarint 4 1) else body
  | none => body

def buildRainDelayPb (minutes : ℤ) (expiry : Option ℤ) : Bytes :=
  pbFieldBytes 17 (rainDelayBody minutes expiry)

def buildSetEpochTimePb (epochUtc tzOffsetSec : ℤ) : Bytes :=
  pbFieldBytes 75 (pbFieldVarint 1 epochUtc ++ pbFieldVarintSigned 2 tzOffsetSec)

def buildSyncRequestPb : Bytes := pbFieldBytes 10 []

def buildSetActiveProgramsPb (flags : ℕ) : Bytes := pbFieldBytes 20 (pbFieldVarint 1 flags)

def buildSetTimerModePb (mode : ℕ) : Bytes :=
  pbFieldBytes 14 (pbFieldVarint 1 mode ++ pbFieldBytes 2 [])

def buildDayMode (spec : ProgramSpec) : Bytes :=
  match spec.dayMode with
  | .weekdays => pbFieldBytes 3 (pbFieldVarint 1 (spec.weekdayMask.getD 0))
  | .interval =>
    -- `spec.interval_days or 1`
    let days := if spec.intervalDays.getD 0 = 0 then 1 else spec.intervalDays.getD 0
    let iv := pbFieldVarint 1 days
    let iv :=
      match spec.intervalAnchor with
      | some anchor => if anchor = "" then iv else iv ++ pbFieldBytes 2 (encodeText anchor)
      | none => iv
    pbFieldBytes 4 iv
  | .odd => pbFieldBytes 5 []
  | .even => pbFieldBytes 6 []
  | .once => pbFieldBytes 7 (pbFieldVarint 1 ((1 <<< (spec.slot - 1) : ℕ) : ℤ))

/-- The `#19` body which `_build_program_pb` wraps. -/
def buildProgramBody (spec : ProgramSpec) : Bytes :=
  pbFieldVarint 1 spec.slot ++ buildDayMode spec ++
    spec.startMins.flatMap (fun m : ℕ => pbFieldVarint 8 m) ++
    spec.zones.flatMap (fun z => pbFieldBytes 9 (pbFieldVarint 1 z.1 ++ pbFieldVarint 2 z.2)) ++
    pbFieldVarint 10 spec.budget ++
    (if spec.name = "" then [] else pbFieldBytes 17 (encodeText spec.name))

def buildProgramPb (spec : ProgramSpec) : Bytes := pbFieldBytes 19 (buildProgramBody spec)

def buildProgramDeletePb (slot : ℕ) : Bytes :=
  pbFieldBytes 19 (pbFieldVarint 1 slot ++ pbFieldBytes 2 [])

def buildIdentifyPb (seconds : ℤ) : Bytes := pbFieldBytes 47 (pbFieldVarint 1 seconds)

end OrbitBhyve.Devices
