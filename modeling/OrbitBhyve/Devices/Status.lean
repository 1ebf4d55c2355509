import OrbitBhyve.Devices.State
import OrbitBhyve.Wire.Message

/-!
# Status decode

`extract_status`: the fields of a device status as one parsed message carries
them. A missing hop of a path is `none`; the two places where the source
compares or combines an untyped value raise `TypeError` when it is bytes.
-/

namespace OrbitBhyve.Devices

open Python Wire

structure DeviceStatus where
  runState : Option PbVal := none
  isWatering : Option Bool := none
  batteryMv : Option PbVal := none
  deviceClock : Option PbVal := none
  activeStation : Option PbVal := none
  secondsRemaining : Option ℕ := none
  flowTotal : Option PbVal := none
  flowRateGpm : Option Reading := none
  rainDelayMinutes : Option PbVal := none
  rainDelayExpiry : Option PbVal := none
  rainDelayActive : Option Bool := none
  controllerMode : Option PbVal := none
  nextStartFlags : Option PbVal := none
  nextStartEpoch : Option PbVal := none
  faults : Option FaultStatus := none
  deriving DecidableEq

/-- Python's `value or 0`. -/
def orZero (v : Option PbVal) : PbVal :=
  match v with
  | some x => if x.truthy then x else .int 0
  | none => .int 0

/-- `bool(_pb_field(fields, num))`. -/
def flag (fields : Option (List Field)) (num : ℕ) : Bool :=
  match pbField fields num with
  | some v => v.truthy
  | none => false

/-- `(lo or 0) | ((hi or 0) << 32)`. -/
def stationFaultFlags (lo hi : Option PbVal) : Except PyErr ℕ :=
  match orZero lo, orZero hi with
  | .int l, .int h => .ok (l ||| h <<< 32)
  | _, _ => .error .typeError

def faultBlock (ff : Option (List Field)) : Except PyErr FaultStatus := do
  let flags ← stationFaultFlags (pbField ff 2) (pbField ff 3)
  .ok {
    pumpFault := flag ff 1
    voltageBoostFail := flag ff 4
    valveOffFlow := flag ff 5
    valveOnNoFlow := flag ff 6
    valveLowFlow := flag ff 7
    valveHighFlow := flag ff 8
    batteryFault := flag ff 10
    stationFaultFlags := flags
    accessoryFaultFlags := orZero (pbField ff 9) }

/-- Whether a `#16.#13` block reports an active delay, before the run-state has its say. -/
def rainDelayEnabled (minutes enabled : Option PbVal) : Except PyErr (Option Bool) :=
  match enabled, minutes with
  | some e, _ => .ok (some e.truthy)
  | none, some (.int m) => .ok (some (0 < m))
  | none, some (.bytes _) => .error .typeError
  | none, none => .ok none

/-- A run-state other than 3 means no delay is active, whatever the block says. -/
def notRainDelay (runState : Option PbVal) : Bool :=
  runState.isSome && runState != some (.int 3)

/-- The fault report of a status, absent when it carries no block. -/
def faultsOf (s : Option (List Field)) : Except PyErr (Option FaultStatus) :=
  match pbField s 7 with
  | some (.bytes flt) => (faultBlock (pbParse flt)).map some
  | _ => .ok none

/-- The three values read from a `#16.#13` block. -/
structure RainDelayBlock where
  minutes : Option PbVal := none
  expiry : Option PbVal := none
  active : Option Bool := none
  deriving DecidableEq

def rainDelayOf (s : Option (List Field)) : Except PyErr RainDelayBlock :=
  match pbField s 13 with
  | some (.bytes rd) => do
    let rdf := pbParse rd
    let enabled ← rainDelayEnabled (pbField rdf 1) (pbField rdf 4)
    .ok {
      minutes := pbField rdf 1
      expiry := pbField rdf 3
      active := if notRainDelay (pbField s 1) then some false else enabled }
  | _ => .ok {}

/-- The running station, shallow path first. -/
def activeStationOf (s : Option (List Field)) : Option PbVal :=
  match pbSubfield s 6 4 with
  | some (.int n) => some (.int n)
  | _ => pbPath s [2, 2, 3, 1]

def secondsRemainingOf (s : Option (List Field)) : Option ℕ :=
  match pbSubfield s 6 5 with
  | some (.int n) => some n
  | _ => none

def statusBlock (s : Option (List Field)) : Except PyErr DeviceStatus := do
  let faults ← faultsOf s
  let rain ← rainDelayOf s
  .ok {
    runState := pbField s 1
    batteryMv := pbSubfield s 14 3
    activeStation := activeStationOf s
    secondsRemaining := secondsRemainingOf s
    rainDelayMinutes := rain.minutes
    rainDelayExpiry := rain.expiry
    rainDelayActive := rain.active
    controllerMode := pbPath s [2, 1]
    nextStartFlags := pbField s 9
    nextStartEpoch := pbField s 10
    faults := faults }

/-- The `#16` of a message, all absent when there is none. -/
def statusOf (top : Option (List Field)) : Except PyErr DeviceStatus :=
  match pbField top 16 with
  | some (.bytes status) => statusBlock (pbParse status)
  | _ => .ok {}

def wstatusActive : List ℕ := [2, 3, 5, 6, 7]

/-- `is_watering`: the run-state decides, else the code of a `#30`. -/
def wateringOf (runState : Option PbVal) (top : Option (List Field)) : Option Bool :=
  match runState with
  | some rs => some (rs == .int 4)
  | none =>
    if (pbField top 30).isSome then
      match pbSubfield top 30 1 with
      | some (.int code) => some (wstatusActive.contains code)
      | _ => some false
    else none

/-- `#59.#4`, a float32. -/
def flowRate (top : Option (List Field)) : Option Reading :=
  match pbSubfield top 59 4 with
  | some (.bytes raw) => if raw.length = 4 then some (readFloat32 raw) else none
  | _ => none

/-- `battery_mv`, from the status or else from a standalone `#46` report. -/
def batteryOf (status : Option PbVal) (top : Option (List Field)) : Option PbVal :=
  match status with
  | some mv => some mv
  | none => pbSubfield top 46 3

/-- `extract_status` past the parse. -/
def extractTop (top : Option (List Field)) : Except PyErr DeviceStatus := do
  let st ← statusOf top
  .ok { st with
    deviceClock := pbField top 7
    batteryMv := batteryOf st.batteryMv top
    isWatering := wateringOf st.runState top
    flowTotal := pbSubfield top 59 3
    flowRateGpm := flowRate top }

def extractStatus (protobuf : Bytes) : Except PyErr DeviceStatus :=
  match pbParse protobuf with
  | none => .ok {}
  | some top => extractTop (some top)

theorem extractTop_eq_ok {top : Option (List Field)} {st : DeviceStatus} :
    extractTop top = .ok st ↔ ∃ block, statusOf top = .ok block ∧ st = { block with
      deviceClock := pbField top 7
      batteryMv := batteryOf block.batteryMv top
      isWatering := wateringOf block.runState top
      flowTotal := pbSubfield top 59 3
      flowRateGpm := flowRate top } := by
  simp only [extractTop, bind, Except.bind]
  cases statusOf top <;> simp [eq_comm]

theorem extractTop_clock (v : PbVal) {rest : List Field}
    (h : ∀ f ∈ rest, f.num ∉ [7, 16, 30, 46, 59]) :
    extractTop (some (⟨7, 0, v⟩ :: rest)) = .ok { deviceClock := some v } := by
  have hnone : ∀ n ∈ [7, 16, 30, 46, 59], pbField (some rest) n = none := by
    intro n hn
    exact pbField_eq_none fun f hf heq => h f hf (heq ▸ hn)
  have h16 := hnone 16 (by simp)
  have h30 := hnone 30 (by simp)
  have h46 := hnone 46 (by simp)
  have h59 := hnone 59 (by simp)
  simp [extractTop, statusOf, wateringOf, flowRate, batteryOf, pbSubfield, pbPath, h16, h30, h46,
    h59, bind, Except.bind]

end OrbitBhyve.Devices
