import OrbitBhyve.Devices.Confirmation
import OrbitBhyve.Devices.Faults

/-!
# The fault sensors

The problem, leak and no-flow sensors show the stored faults. So after any run
of operations they show the faults of the device as it last reported them, each
flag and each station, and a status without the report leaves them as they are.
-/

namespace OrbitBhyve.Entities

open Foundation Python Wire Devices

/-- `extra_state_attributes` of `BHyveProblemBinarySensor`. -/
structure ProblemAttributes where
  pumpFault : Bool
  batteryFault : Bool
  voltageBoostFail : Bool
  valveOffFlowDetected : Bool
  valveOnNoFlowDetected : Bool
  valveLowFlowDetected : Bool
  valveHighFlowDetected : Bool
  stationFaults : List ℕ
  accessoryFaultFlags : PbVal
  deriving DecidableEq

/-- `is_on` of `BHyveProblemBinarySensor`. -/
def problemIsOn (s : DeviceState) : Option Bool := s.faults.map FaultStatus.anyFault

/-- `extra_state_attributes` of `BHyveProblemBinarySensor`. -/
def problemAttributes (s : DeviceState) : Option ProblemAttributes :=
  s.faults.map fun faults => {
    pumpFault := faults.pumpFault
    batteryFault := faults.batteryFault
    voltageBoostFail := faults.voltageBoostFail
    valveOffFlowDetected := faults.valveOffFlow
    valveOnNoFlowDetected := faults.valveOnNoFlow
    valveLowFlowDetected := faults.valveLowFlow
    valveHighFlowDetected := faults.valveHighFlow
    stationFaults := faults.stationFaults
    accessoryFaultFlags := faults.accessoryFaultFlags }

/-- `is_on` of `BHyveLeakBinarySensor`. -/
def leakIsOn (s : DeviceState) : Option Bool := s.faults.map FaultStatus.valveOffFlow

/-- `is_on` of `BHyveNoFlowBinarySensor`. -/
def noFlowIsOn (s : DeviceState) : Option Bool := s.faults.map FaultStatus.valveOnNoFlow

structure FaultSensors where
  problem : Option Bool
  attributes : Option ProblemAttributes
  leak : Option Bool
  noFlow : Option Bool
  deriving DecidableEq

def faultSensors (s : DeviceState) : FaultSensors where
  problem := problemIsOn s
  attributes := problemAttributes s
  leak := leakIsOn s
  noFlow := noFlowIsOn s

def deviceSensors (f : DeviceFaults) : FaultSensors where
  problem := some (decide (f ≠ {}))
  attributes := some {
    pumpFault := f.pump
    batteryFault := f.battery
    voltageBoostFail := f.voltageBoost
    valveOffFlowDetected := f.offFlow
    valveOnNoFlowDetected := f.noFlow
    valveLowFlowDetected := f.lowFlow
    valveHighFlowDetected := f.highFlow
    stationFaults := ((List.range 64).filter f.stations.getLsbD).map (· + 1)
    accessoryFaultFlags := .int f.accessory }
  leak := some f.offFlow
  noFlow := some f.noFlow

theorem faultSensors_congr {s s' : DeviceState} (h : s'.faults = s.faults) :
    faultSensors s' = faultSensors s := by
  unfold faultSensors problemIsOn problemAttributes leakIsOn noFlowIsOn
  rw [h]

theorem faultSensors_of_status {s : DeviceState} {f : DeviceFaults}
    (h : s.faults = some f.status) : faultSensors s = deviceSensors f := by
  have hany : f.status.anyFault = decide (f ≠ {}) := by
    rw [Bool.eq_iff_iff, decide_eq_true_iff, ← Bool.not_eq_false, ← not_iff_not, not_not, not_not]
    exact f.anyFault_eq_false
  unfold faultSensors problemIsOn problemAttributes leakIsOn noFlowIsOn
  rw [h, Option.map_some, Option.map_some, Option.map_some, Option.map_some, hany,
    f.stationFaults_status]
  rfl

/-- After any run of operations, with any replies and wherever they raise: the sensors show
the faults which the device last reported, if the observer got through to the report; until
it reports any, they show what they showed before the run. -/
theorem faultSensors_after_run (replies : ℕ → Reply) (utcOffset : UtcOffset)
    (ops : List ProtobufOp) (w : World ProtobufDevice) :
    ∃ new, (after (ProtobufOp.run (protobufRadio replies utcOffset) ops) w).log = w.log ++ new ∧
      (lastSaid faultReport new = none →
        faultSensors (after (ProtobufOp.run (protobufRadio replies utcOffset) ops) w).dev.state =
          faultSensors w.dev.state) ∧
      ∀ f : DeviceFaults, lastSaid faultReport new = some f.block →
        faultSensors (after (ProtobufOp.run (protobufRadio replies utcOffset) ops) w).dev.state =
          deviceSensors f := by
  obtain ⟨new, hlog, hfaults⟩ := faults_after_run replies utcOffset ops w
  refine ⟨new, hlog, fun hnone => ?_, fun f hlast => ?_⟩
  · rw [hnone] at hfaults
    exact faultSensors_congr hfaults
  · rw [hlast, Option.map_some, Option.getD_some, readFaults_block] at hfaults
    exact faultSensors_of_status hfaults

/-- `#16 {#1=1, #7 {#5=1}}`: idle, and water runs. -/
def leakReport : Body :=
  ⟨pbFieldBytes 16 (pbFieldVarint 1 1 ++ pbFieldBytes 7 (DeviceFaults.block { offFlow := true })),
    by decide⟩

/-- Every operation hears of the leak, and then a status without faults in it. -/
def leakReplies (_ : ℕ) : Reply where
  frames := [⟨leakReport.frame, .epoch⟩, ⟨runningReport.frame, .epoch⟩]
  clock := .epoch

/-- The leak stays on behind the status which does not mention it. -/
theorem faultSensors_after_run_leak :
    faultSensors (after (ProtobufOp.run (protobufRadio leakReplies .utc) [.refreshStatus false])
      { dev := {}, clock := .epoch }).dev.state = deviceSensors { offFlow := true } := by
  obtain ⟨new, hlog, -, hlast⟩ := faultSensors_after_run leakReplies .utc [.refreshStatus false]
    { dev := {}, clock := .epoch }
  apply hlast
  rw [List.nil_append] at hlog
  rw [← hlog]
  decide +kernel

end OrbitBhyve.Entities
