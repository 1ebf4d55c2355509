import OrbitBhyve.Devices.Observer

/-!
# Where the observer stops

`apply_status_plaintext` assigns one field after the other. Five conversions
on the way can raise: the range test of the battery, the number of the running
zone, the off time, the expiry of the rain delay and the time of the next
start. What was assigned before the first of them that raises stays assigned,
and nothing behind it is.
-/

namespace OrbitBhyve.Devices

open Foundation Python Wire

/-- The conversions which can raise, in the order the observer comes by them. -/
inductive Conversion where
  | battery
  | station
  | offTime
  | rainExpiry
  | nextStart
  deriving DecidableEq, Repr

def errorOf {α : Type} : Except PyErr α → Option PyErr
  | .ok _ => none
  | .error e => some e

/-- A range test or a sum on what may be bytes. -/
def bytesError : Option PbVal → Option PyErr
  | some (.bytes _) => some .typeError
  | _ => none

/-- Whether a countdown moves the off time, through both computations which can overflow. -/
def countdownMoves (now : DateTime) (r : ℕ) (expected : Option DateTime) : Except PyErr Bool := do
  let newOff ← now.addSeconds r
  movesOffTime expected newOff

def DeviceStatus.reportsDelay (st : DeviceStatus) : Bool :=
  st.rainDelayActive == some true && (orZero st.rainDelayMinutes).truthy

def DeviceStatus.reportsStart (st : DeviceStatus) : Bool := st.nextStartFlags.any PbVal.truthy

section Conversions

variable (now : DateTime) (st : DeviceStatus) (d : ProtobufDevice)

/-- What a conversion raises on a status, for a device with this off time. -/
def Conversion.failure : Conversion → Option PyErr
  | battery => bytesError st.batteryMv
  | station => if st.isWatering = some true then bytesError st.activeStation else none
  | offTime =>
    if st.isWatering = some true then
      st.secondsRemaining.bind fun r => errorOf (countdownMoves now r d.state.expectedOffAt)
    else none
  | rainExpiry => if st.reportsDelay then errorOf (timestampOf st.rainDelayExpiry) else none
  | nextStart => if st.reportsStart then errorOf (timestampOf st.nextStartEpoch) else none

def firstFailure : Option (Conversion × PyErr) :=
  [Conversion.battery, .station, .offTime, .rainExpiry, .nextStart].findSome? fun c =>
    (c.failure now st d).map fun e => (c, e)

/-! ## What is assigned -/

def withClock : ProtobufDevice :=
  { d with state := { d.state with deviceClock := st.deviceClock.or d.state.deviceClock } }

/-- A battery reading out of range is not taken over. -/
def withSensors : ProtobufDevice :=
  { d with
    batteryMv := match st.batteryMv with
      | some (.int mv) => if 1500 ≤ mv ∧ mv ≤ 4000 then some mv else d.batteryMv
      | _ => d.batteryMv
    state := { d.state with
      flowTotal := st.flowTotal.or d.state.flowTotal
      flowGpmDevice := st.flowRateGpm.or d.state.flowGpmDevice } }

/-- The valve is open, and a status has been parsed. -/
def withOpen : ProtobufDevice :=
  { d with
    statusParsed := d.statusParsed.map fun _ => true
    state := { d.state with isWatering := true } }

def withZone : ProtobufDevice :=
  match st.activeStation with
  | some (.int n) => { d with state := { d.state with activeZone := some (n + 1) } }
  | _ => d

def withRemaining : ProtobufDevice :=
  match st.secondsRemaining with
  | some r => { d with state := { d.state with secondsRemaining := some (r : ℤ) } }
  | none => d

def withOffTime : ProtobufDevice :=
  { d with state := { d.state with
    expectedOffAt := countdownOff now st.secondsRemaining d.state.expectedOffAt } }

def withIdle : ProtobufDevice :=
  { d with
    statusParsed := d.statusParsed.map fun _ => true
    state := idleState d.state }

def withWatering : ProtobufDevice :=
  match st.isWatering with
  | none => d
  | some true => withOffTime now st (withRemaining st (withZone st (withOpen d)))
  | some false => withIdle d

def withMinutes : ProtobufDevice :=
  { d with state := { d.state with rainDelayMinutes := st.rainDelayMinutes } }

def withRain : ProtobufDevice :=
  if st.reportsDelay then
    { d with state := { d.state with
      rainDelayMinutes := st.rainDelayMinutes
      rainDelayEnds := (timestampOf st.rainDelayExpiry).toOption.join } }
  else if st.rainDelayActive.isSome || notRainDelay st.runState then
    { d with state := { d.state with rainDelayMinutes := some (.int 0), rainDelayEnds := none } }
  else d

def withFaults : ProtobufDevice :=
  { d with state := { d.state with
    faults := st.faults.or d.state.faults
    controllerMode := st.controllerMode.or d.state.controllerMode } }

/-- The programs which start next; a status with a run-state and without them clears them. -/
def withStartFlags : ProtobufDevice :=
  match st.nextStartFlags with
  | some flags => { d with state := { d.state with
      nextStartFlags := if flags.truthy then some flags else none } }
  | none => if st.runState.isSome then
      { d with state := { d.state with nextStartFlags := none } } else d

def withStart : ProtobufDevice :=
  if st.nextStartFlags.isSome || st.runState.isSome then
    { d with state := { d.state with nextStartAt :=
      if st.reportsStart then (timestampOf st.nextStartEpoch).toOption.join else none } }
  else d

def writtenBefore : Conversion → ProtobufDevice
  | .battery => withClock st d
  | .station => withOpen (withSensors st (withClock st d))
  | .offTime => withRemaining st (withZone st (withOpen (withSensors st (withClock st d))))
  | .rainExpiry => withMinutes st (withWatering now st (withSensors st (withClock st d)))
  | .nextStart => withStartFlags st (withFaults st (withRain st
      (withWatering now st (withSensors st (withClock st d)))))

def writtenAll : ProtobufDevice :=
  withStart st (withStartFlags st (withFaults st (withRain st
    (withWatering now st (withSensors st (withClock st d))))))

end Conversions

/-! ## Step by step -/

section Steps

variable {now : DateTime} {st : DeviceStatus} (d : ProtobufDevice)

theorem applyClock_eq : applyClock st d = .ok () (withClock st d) := by
  unfold applyClock withClock
  cases st.deviceClock <;> rfl

theorem applyBattery_eq : applyBattery st d =
    match bytesError st.batteryMv with
    | some e => .error e d
    | none => .ok () { d with batteryMv := (withSensors st d).batteryMv } := by
  unfold applyBattery withSensors
  rcases st.batteryMv with _ | mv | b
  · rfl
  · dsimp only [bytesError]
    split_ifs <;> rfl
  · rfl

theorem applyFlow_eq : applyFlow st d = .ok () { d with state := { d.state with
    flowTotal := st.flowTotal.or d.state.flowTotal
    flowGpmDevice := st.flowRateGpm.or d.state.flowGpmDevice } } := by
  unfold applyFlow
  cases st.flowTotal <;> cases st.flowRateGpm <;> rfl

theorem applyActiveStation_eq : applyActiveStation st.activeStation d =
    match bytesError st.activeStation with
    | some e => .error e d
    | none => .ok () (withZone st d) := by
  unfold applyActiveStation withZone
  rcases st.activeStation with _ | n | b <;> rfl

theorem applyCountdown_eq : applyCountdown now st.secondsRemaining d =
    match st.secondsRemaining.bind fun r =>
      errorOf (countdownMoves now r d.state.expectedOffAt) with
    | some e => .error e (withRemaining st d)
    | none => .ok () (withOffTime now st (withRemaining st d)) := by
  unfold applyCountdown withOffTime withRemaining countdownOff guardedOff
  cases st.secondsRemaining with
  | none => rfl
  | some r =>
    dsimp only [Option.bind_some, countdownMoves]
    rw [run_bind_ok (updState_returns _ d), after_updState]
    cases now.addSeconds r with
    | error e => rfl
    | ok newOff =>
      rw [run_bind_ok (run_raising_ok rfl _), anchorOffTime, run_bind_ok (run_get _)]
      dsimp only [bind, Except.bind]
      cases movesOffTime d.state.expectedOffAt newOff with
      | error e => rfl
      | ok moves => cases moves <;> rfl

theorem expectedOffAt_withZone : (withZone st d).state.expectedOffAt = d.state.expectedOffAt := by
  unfold withZone
  split <;> rfl

theorem applyWatering_eq : applyWatering now st d =
    match Conversion.station.failure now st d with
    | some e => .error e (withOpen d)
    | none => match Conversion.offTime.failure now st d with
      | some e => .error e (withRemaining st (withZone st (withOpen d)))
      | none => .ok () (withWatering now st d) := by
  unfold applyWatering withWatering Conversion.failure
  rcases st.isWatering with _ | _ | _
  · rfl
  · rfl
  · dsimp only
    have hopen : (do applyActiveStation st.activeStation
                     applyCountdown now st.secondsRemaining : Observe Unit) (withOpen d) =
        (do updState fun s => { s with isWatering := true }
            markParsed
            applyActiveStation st.activeStation
            applyCountdown now st.secondsRemaining : Observe Unit) d := rfl
    rw [if_pos rfl, if_pos rfl, ← hopen, run_bind, applyActiveStation_eq]
    cases bytesError st.activeStation with
    | some e => rfl
    | none =>
      dsimp only
      rw [applyCountdown_eq, expectedOffAt_withZone]
      rfl

theorem applyRainDelay_eq : applyRainDelay st d =
    match Conversion.rainExpiry.failure now st d with
    | some e => .error e (withMinutes st d)
    | none => .ok () (withRain st d) := by
  unfold applyRainDelay withRain Conversion.failure DeviceStatus.reportsDelay
  rcases st.rainDelayActive with _ | _ | _
  · dsimp only
    split_ifs <;> simp_all <;> rfl
  · rfl
  · dsimp only
    cases (orZero st.rainDelayMinutes).truthy with
    | false => rfl
    | true =>
      cases timestampOf st.rainDelayExpiry <;> rfl

theorem applyFaults_eq : applyFaults st d = .ok () (withFaults st d) := by
  unfold applyFaults withFaults
  cases st.faults <;> cases st.controllerMode <;> rfl

theorem applyNextStart_eq : applyNextStart st d =
    match Conversion.nextStart.failure now st d with
    | some e => .error e (withStartFlags st d)
    | none => .ok () (withStart st (withStartFlags st d)) := by
  unfold applyNextStart withStart withStartFlags Conversion.failure DeviceStatus.reportsStart
  rcases st.nextStartFlags with _ | flags
  · cases st.runState <;> rfl
  · dsimp only [Option.any_some]
    rw [run_bind_ok (updState_returns _ d)]
    by_cases htruthy : flags.truthy = true
    · simp only [htruthy, if_true]
      cases timestampOf st.nextStartEpoch <;> rfl
    · simp only [htruthy]
      rfl

end Steps

/-! ## The whole observer -/

theorem failure_withSensors (now : DateTime) (st : DeviceStatus) (d : ProtobufDevice)
    (c : Conversion) : c.failure now st (withSensors st (withClock st d)) = c.failure now st d := by
  cases c <;> rfl

theorem failure_congr (now : DateTime) (st : DeviceStatus) (d d' : ProtobufDevice)
    {c : Conversion} (h : c ≠ .offTime) : c.failure now st d' = c.failure now st d := by
  cases c <;> first | rfl | exact absurd rfl h

/-- `apply_status_plaintext` past the decode runs up to the first conversion which raises. -/
theorem applyStatus_eq (now : DateTime) (st : DeviceStatus) (d : ProtobufDevice) :
    applyStatus now st d =
      match firstFailure now st d with
      | none => .ok () (writtenAll now st d)
      | some (c, e) => .error e (writtenBefore now st d c) := by
  unfold applyStatus
  rw [run_bind_ok (applyClock_eq d), run_bind, applyBattery_eq]
  simp only [firstFailure, List.findSome?_cons, List.findSome?_nil]
  cases hbattery : Conversion.battery.failure now st d with
  | some e =>
    have hbytes : bytesError st.batteryMv = some e := hbattery
    rw [hbytes]
    rfl
  | none =>
    have hbytes : bytesError st.batteryMv = none := hbattery
    rw [hbytes]
    dsimp only
    rw [run_bind_ok (applyFlow_eq _)]
    change (do applyWatering now st; applyRest st : Observe Unit)
      (withSensors st (withClock st d)) = _
    rw [run_bind, applyWatering_eq, failure_withSensors, failure_withSensors]
    cases Conversion.station.failure now st d with
    | some e => rfl
    | none =>
      cases Conversion.offTime.failure now st d with
      | some e => rfl
      | none =>
        dsimp only [Option.map_none]
        unfold applyRest
        rw [run_bind, applyRainDelay_eq, failure_congr now st d _ (by decide)]
        cases Conversion.rainExpiry.failure now st d with
        | some e => rfl
        | none =>
          dsimp only [Option.map_none]
          rw [run_bind_ok (applyFaults_eq _), applyNextStart_eq,
            failure_congr now st d _ (by decide)]
          cases Conversion.nextStart.failure now st d <;> rfl

def AllOrNothing (now : DateTime) (pt : Bytes) (d : ProtobufDevice) : Prop :=
  ∀ e d', applyStatusPlaintext now pt d = .error e d' → d' = d

/-- A frame which does not decode changes nothing. Any other one is applied up to the first
conversion which raises, or wholly. -/
theorem applyStatusPlaintext_stops (now : DateTime) (pt : Bytes) (d : ProtobufDevice) :
    match decodeInner pt with
    | none => applyStatusPlaintext now pt d = .ok () d
    | some protobuf =>
      match extractStatus protobuf with
      | .error e => applyStatusPlaintext now pt d = .error e d
      | .ok st =>
        match firstFailure now st d with
        | none => applyStatusPlaintext now pt d = .ok () (writtenAll now st d)
        | some (c, e) => applyStatusPlaintext now pt d = .error e (writtenBefore now st d c) := by
  unfold applyStatusPlaintext
  cases decodeInner pt with
  | none => rfl
  | some protobuf =>
    dsimp only
    cases hst : extractStatus protobuf with
    | error e => rfl
    | ok st =>
      dsimp only
      rw [run_bind_ok (run_raising_ok rfl d), applyStatus_eq]
      cases firstFailure now st d <;> rfl

/-- A status "running" whose next start is past the year 9999. -/
def farStartFrame : Bytes :=
  Body.frame ⟨pbFieldBytes 16 (pbFieldVarint 1 4 ++ pbFieldVarint 9 1 ++
    pbFieldVarint 10 300000000000), by decide⟩

/-- The valve is shown open although the observer has raised. -/
theorem farStart_half_applied : ¬∀ now pt d, AllOrNothing now pt d := by
  intro hall
  cases hrun : applyStatusPlaintext .epoch farStartFrame {} with
  | ok u d' =>
    have hraises : (result (applyStatusPlaintext .epoch farStartFrame) {}).isOk = false := by
      decide +kernel
    rw [result, hrun] at hraises
    cases hraises
  | error e d' =>
    have hopen : (observe .epoch farStartFrame {}).state.isWatering = true := by decide +kernel
    rw [observe, after, hrun] at hopen
    rw [hall .epoch farStartFrame {} e d' hrun] at hopen
    cases hopen

end OrbitBhyve.Devices
