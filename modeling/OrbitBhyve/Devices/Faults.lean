import OrbitBhyve.Devices.Forgetting
import OrbitBhyve.Devices.Registers
import OrbitBhyve.Devices.Repertoire
import OrbitBhyve.Wire.Scalars

/-!
# Faults

A device reports its faults in the `#7` block of a status, flags which are not
set left out. A status without the block says nothing about them, and no method
writes them: what is stored is what the last block said which got through.
-/

namespace OrbitBhyve.Devices

open Foundation Python Wire

namespace FaultStatus

def anyFault (s : FaultStatus) : Bool :=
  s.pumpFault || s.voltageBoostFail || s.valveOffFlow || s.valveOnNoFlow || s.valveLowFlow ||
    s.valveHighFlow || s.batteryFault || s.stationFaultFlags != 0 || s.accessoryFaultFlags.truthy

def stationFaults (s : FaultStatus) : List ℕ :=
  ((List.range 64).filter fun i => s.stationFaultFlags >>> i &&& 1 != 0).map (· + 1)

end FaultStatus

/-! ## The block -/

/-- The faults of a device; the flag of station `i + 1` is bit `i` of `stations`. -/
structure DeviceFaults where
  pump : Bool := false
  stations : BitVec 64 := 0
  voltageBoost : Bool := false
  offFlow : Bool := false
  noFlow : Bool := false
  lowFlow : Bool := false
  highFlow : Bool := false
  accessory : ℕ := 0
  battery : Bool := false
  deriving DecidableEq

namespace DeviceFaults

variable (f : DeviceFaults)

/-- The numbers of the block; the stations take two words. -/
def value : ℕ → ℕ
  | 1 => f.pump.toNat
  | 2 => f.stations.toNat % 2 ^ 32
  | 3 => f.stations.toNat / 2 ^ 32
  | 4 => f.voltageBoost.toNat
  | 5 => f.offFlow.toNat
  | 6 => f.noFlow.toNat
  | 7 => f.lowFlow.toNat
  | 8 => f.highFlow.toNat
  | 9 => f.accessory
  | 10 => f.battery.toNat
  | _ => 0

def block : Bytes := scalarMessage (List.range' 1 10) f.value

def status : FaultStatus where
  pumpFault := f.pump
  voltageBoostFail := f.voltageBoost
  valveOffFlow := f.offFlow
  valveOnNoFlow := f.noFlow
  valveLowFlow := f.lowFlow
  valveHighFlow := f.highFlow
  batteryFault := f.battery
  stationFaultFlags := f.stations.toNat
  accessoryFaultFlags := .int f.accessory

theorem pbField_block {num : ℕ} (h : num ∈ List.range' 1 10) :
    pbField (pbParse f.block) num =
      if f.value num = 0 then none else some (.int (f.value num)) :=
  pbField_scalarMessage _ _ h

theorem orZero_block {num : ℕ} (h : num ∈ List.range' 1 10) :
    orZero (pbField (pbParse f.block) num) = .int (f.value num) := by
  rw [f.pbField_block h]
  split_ifs with hzero
  · rw [hzero]
    rfl
  · exact if_pos (by simpa [PbVal.truthy] using hzero)

theorem flag_block {num : ℕ} {b : Bool} (h : num ∈ List.range' 1 10)
    (hvalue : f.value num = b.toNat) : flag (pbParse f.block) num = b := by
  rw [flag, f.pbField_block h, hvalue]
  cases b <;> rfl

theorem stations_words : f.value 2 ||| f.value 3 <<< 32 = f.stations.toNat := by
  have hlow : f.value 2 < 2 ^ 32 := Nat.mod_lt _ (by decide)
  rw [Nat.or_comm, ← Nat.shiftLeft_add_eq_or_of_lt hlow, Nat.shiftLeft_eq]
  exact Nat.div_add_mod' _ _

theorem faultBlock_block : faultBlock (pbParse f.block) = .ok f.status := by
  have hstations : stationFaultFlags (pbField (pbParse f.block) 2) (pbField (pbParse f.block) 3) =
      .ok f.stations.toNat := by
    rw [stationFaultFlags, f.orZero_block (by decide), f.orZero_block (by decide)]
    exact congrArg Except.ok f.stations_words
  rw [faultBlock, hstations, f.flag_block (b := f.pump) (by decide) rfl,
    f.flag_block (b := f.voltageBoost) (by decide) rfl,
    f.flag_block (b := f.offFlow) (by decide) rfl, f.flag_block (b := f.noFlow) (by decide) rfl,
    f.flag_block (b := f.lowFlow) (by decide) rfl, f.flag_block (b := f.highFlow) (by decide) rfl,
    f.flag_block (b := f.battery) (by decide) rfl, f.orZero_block (by decide : 9 ∈ List.range' 1 10)]
  rfl

/-- A device without faults sends an empty block. -/
example : block {} = [] := rfl

theorem anyFault_eq_false : f.status.anyFault = false ↔ f = {} := by
  constructor
  · intro h
    obtain ⟨pump, stations, voltageBoost, offFlow, noFlow, lowFlow, highFlow, accessory, battery⟩ := f
    simp only [FaultStatus.anyFault, status, Bool.or_eq_false_iff, bne_eq_false_iff_eq,
      PbVal.truthy] at h
    obtain ⟨⟨⟨⟨⟨⟨⟨⟨rfl, rfl⟩, rfl⟩, rfl⟩, rfl⟩, rfl⟩, rfl⟩, hstations⟩, hacc⟩ := h
    obtain rfl : accessory = 0 := by simpa using hacc
    obtain rfl : stations = 0 := BitVec.eq_of_toNat_eq hstations
    rfl
  · rintro rfl
    rfl

theorem stationFaults_status :
    f.status.stationFaults = ((List.range 64).filter f.stations.getLsbD).map (· + 1) := by
  have hbit : (fun i => f.status.stationFaultFlags >>> i &&& 1 != 0) = f.stations.getLsbD := by
    funext i
    rw [Nat.and_comm]
    rfl
  rw [FaultStatus.stationFaults, hbit]

end DeviceFaults

/-! ## The observer -/

def ProtobufDevice.reports (d : ProtobufDevice) :
    Option ℕ × Option FaultStatus × Option PbVal × Option DateTime :=
  (d.batteryMv, d.state.faults, d.state.nextStartFlags, d.state.nextStartAt)

section Observer

variable {now : DateTime} {st : DeviceStatus} (d : ProtobufDevice)

theorem reports_withRemaining : (withRemaining st d).reports = d.reports := by
  unfold withRemaining
  split <;> rfl

theorem reports_withZone : (withZone st d).reports = d.reports := by
  unfold withZone
  split <;> rfl

theorem reports_withWatering : (withWatering now st d).reports = d.reports := by
  unfold withWatering
  split
  · rfl
  · exact (reports_withRemaining _).trans (reports_withZone _)
  · rfl

theorem reports_withRain : (withRain st d).reports = d.reports := by
  unfold withRain
  split_ifs <;> rfl

theorem faults_withStartFlags : (withStartFlags st d).state.faults = d.state.faults := by
  unfold withStartFlags
  split
  · rfl
  · split_ifs <;> rfl

theorem faults_withStart : (withStart st d).state.faults = d.state.faults := by
  unfold withStart
  split_ifs <;> rfl

/-- The faults are stored behind the conversion of the rain delay, before that of the next
start. -/
theorem faults_observe (now : DateTime) (pt : Bytes) :
    (observe now pt d).state.faults = ((decodedStatus pt).bind fun st =>
      if reaches now st d .nextStart then st.faults else none).or d.state.faults := by
  rw [observe_eq]
  cases decodedStatus pt with
  | none => rfl
  | some st =>
    have hreport : ∀ d' : ProtobufDevice, d'.state.faults = d.state.faults →
        (withStartFlags st (withFaults st d')).state.faults = st.faults.or d.state.faults := by
      intro d' hd'
      rw [faults_withStartFlags, ← hd']
      rfl
    have hrain : (withRain st (withWatering now st (withSensors st (withClock st d)))).reports =
        (withSensors st (withClock st d)).reports :=
      (reports_withRain _).trans (reports_withWatering _)
    rw [Option.bind_some]
    unfold reaches
    dsimp only
    cases hfail : firstFailure now st d with
    | none =>
      rw [writtenAll, faults_withStart]
      exact hreport _ (congrArg (fun r => r.2.1) hrain)
    | some stop =>
      obtain ⟨c, e⟩ := stop
      cases c with
      | battery => rfl
      | station => rfl
      | offTime =>
        exact congrArg (fun r => r.2.1) ((reports_withRemaining _).trans (reports_withZone _))
      | rainExpiry => exact congrArg (fun r => r.2.1) (reports_withWatering _)
      | nextStart => exact hreport _ (congrArg (fun r => r.2.1) hrain)

end Observer

/-! ## Reports -/

def frameFaults (pt : Bytes) : Option Bytes :=
  match pbField (frameBlock pt) 7 with
  | some (.bytes flt) => some flt
  | _ => none

/-- The block which an entry of a log brings, if the observer gets through to it. -/
def faultReport : LogEntry ProtobufDevice → Option Bytes
  | .heard n met =>
    if (decodedStatus n.pt).any fun st => reaches n.clock st met .nextStart then frameFaults n.pt
    else none
  | .wrote _ => none

theorem faultReport_heard (n : Notice) (met : ProtobufDevice) : faultReport (.heard n met) =
    if (decodedStatus n.pt).any fun st => reaches n.clock st met .nextStart then frameFaults n.pt
    else none := rfl

def DeviceStatus.faultsReport (st : DeviceStatus) : Option (Option FaultStatus) :=
  st.faults.map some

def readFaults (flt : Bytes) : Option FaultStatus := (faultBlock (pbParse flt)).toOption

theorem readFaults_block (f : DeviceFaults) : readFaults f.block = some f.status := by
  rw [readFaults, f.faultBlock_block]
  rfl

/-- A status is what the frame's `#16` block says, and five fields beside it. -/
theorem decodedStatus_eq_some {pt : Bytes} {st : DeviceStatus} (h : decodedStatus pt = some st) :
    ∃ block, statusBlock (frameBlock pt) = .ok block ∧ st = { block with
      deviceClock := pbField (frameTop pt) 7
      batteryMv := batteryOf block.batteryMv (frameTop pt)
      isWatering := wateringOf block.runState (frameTop pt)
      flowTotal := pbSubfield (frameTop pt) 59 3
      flowRateGpm := flowRate (frameTop pt) } := by
  obtain ⟨protobuf, hdec, hext⟩ := Option.bind_eq_some_iff.mp h
  have htop : frameTop pt = pbParse protobuf := by
    rw [frameTop, hdec]
    rfl
  have hok : extractTop (frameTop pt) = .ok st := by
    unfold extractStatus at hext
    rw [htop]
    cases hparse : pbParse protobuf with
    | none =>
      rw [hparse] at hext
      cases hext
      rfl
    | some top =>
      rw [hparse] at hext
      dsimp only at hext
      cases hok : extractTop (some top) with
      | error e =>
        rw [hok] at hext
        cases hext
      | ok st' =>
        rw [hok] at hext
        exact congrArg Except.ok (Option.some.inj hext)
  obtain ⟨block, hblock, hst⟩ := extractTop_eq_ok.mp hok
  refine ⟨block, ?_, hst⟩
  rw [statusOf] at hblock
  rw [frameBlock]
  cases hstatus : pbField (frameTop pt) 16 with
  | none =>
    rw [hstatus] at hblock
    exact hblock
  | some status =>
    rw [hstatus] at hblock
    cases status with
    | int n => exact hblock
    | bytes status => exact hblock

theorem reports_of_statusBlock {s : Option (List Field)} {st : DeviceStatus}
    (h : statusBlock s = .ok st) : faultsOf s = .ok st.faults ∧
      (st.nextStartFlags, st.nextStartEpoch) = (pbField s 9, pbField s 10) := by
  obtain ⟨faults, hfaults, h⟩ := except_bind_eq_ok h
  obtain ⟨rain, -, h⟩ := except_bind_eq_ok h
  cases h
  exact ⟨hfaults, rfl⟩

theorem reports_of_decodedStatus {pt : Bytes} {st : DeviceStatus} (h : decodedStatus pt = some st) :
    faultsOf (frameBlock pt) = .ok st.faults ∧ (st.nextStartFlags, st.nextStartEpoch) =
      (pbField (frameBlock pt) 9, pbField (frameBlock pt) 10) := by
  obtain ⟨block, hblock, rfl⟩ := decodedStatus_eq_some h
  have hreports := reports_of_statusBlock hblock
  exact hreports

theorem faultsReport_eq {pt : Bytes} {st : DeviceStatus} (h : decodedStatus pt = some st) :
    st.faultsReport = (frameFaults pt).map readFaults := by
  obtain ⟨hfaults, -⟩ := reports_of_decodedStatus h
  rw [faultsOf] at hfaults
  rw [frameFaults, DeviceStatus.faultsReport]
  cases hblock : pbField (frameBlock pt) 7 with
  | none =>
    rw [hblock] at hfaults
    rw [← Except.ok.inj hfaults]
    rfl
  | some flt =>
    rw [hblock] at hfaults
    cases flt with
    | int n =>
      rw [← Except.ok.inj hfaults]
      rfl
    | bytes flt =>
      dsimp only at hfaults ⊢
      rw [Option.map_some, readFaults]
      cases hread : faultBlock (pbParse flt) with
      | error e =>
        rw [hread] at hfaults
        cases hfaults
      | ok faults =>
        rw [hread] at hfaults
        rw [← Except.ok.inj hfaults]
        rfl

theorem applied_heard (c : Conversion) (report : DeviceStatus → Option (Option FaultStatus))
    (n : Notice) (met : ProtobufDevice) : applied report c (.heard n met) =
      (decodedStatus n.pt).bind fun st =>
        if reaches n.clock st met c then report st else none := rfl

theorem applied_faultsReport (e : LogEntry ProtobufDevice) :
    applied DeviceStatus.faultsReport .nextStart e = (faultReport e).map readFaults := by
  cases e with
  | wrote pt => rfl
  | heard n met =>
    rw [applied_heard, faultReport_heard]
    cases hst : decodedStatus n.pt with
    | none => rfl
    | some st =>
      rw [Option.bind_some, Option.any_some]
      split_ifs with hreach
      · exact faultsReport_eq hst
      · rfl

/-! ## Over a run -/

section Run

variable {β : Type} {said : LogEntry ProtobufDevice → Option β} {field : ProtobufDevice → β}

/-- A field which only the observer writes follows the log of a run. -/
theorem Register.moves_run {R : Radio ProtobufDevice} (h : Register R said field)
    (hfield : ∀ d d' : ProtobufDevice, d'.observerFields = d.observerFields → field d' = field d)
    (ops : List ProtobufOp) : Moves (Follows said field) (ProtobufOp.run R ops) := by
  have htraffic : OpTraffic R (fun _ => True) (Follows said field) :=
    ⟨h.operates, fun _ _ _ _ _ => trivial, fun hlog hsame => .of_same hlog (hfield _ _ hsame)⟩
  exact htraffic.moves_run ops fun _ _ _ _ _ _ => trivial

variable (replies : ℕ → Reply) (utcOffset : UtcOffset)

theorem register_faults : Register (protobufRadio replies utcOffset)
    (fun e => (faultReport e).map readFaults) (fun d => d.state.faults) where
  hears n w := by
    rw [← applied_faultsReport, dev_hears, faults_observe, applied_heard]
    cases decodedStatus n.pt with
    | none => rfl
    | some st =>
      rw [Option.bind_some, Option.bind_some]
      split_ifs with hreach
      · cases hfaults : st.faults with
        | none => simp [DeviceStatus.faultsReport, hfaults]
        | some faults => simp [DeviceStatus.faultsReport, hfaults]
      · rfl
  writes _ := rfl

theorem faults_after_run (ops : List ProtobufOp) (w : World ProtobufDevice) :
    ∃ new, (after (ProtobufOp.run (protobufRadio replies utcOffset) ops) w).log = w.log ++ new ∧
      (after (ProtobufOp.run (protobufRadio replies utcOffset) ops) w).dev.state.faults =
        ((lastSaid faultReport new).map readFaults).getD w.dev.state.faults := by
  obtain ⟨new, hlog, hfaults⟩ := (register_faults replies utcOffset).moves_run
    (fun _ _ h => congrArg ObserverFields.faults h) ops w
  rw [lastSaid_map] at hfaults
  exact ⟨new, hlog, hfaults⟩

end Run

end OrbitBhyve.Devices
