import OrbitBhyve.Devices.Status
import OrbitBhyve.Foundation.Effect

/-!
# The protobuf observer

`apply_status_plaintext`, as a sequence of small steps on the device. A step
which raises keeps what was written before it. What the observer does to the
valve's flag and to the off time is stated once, in terms of what the frame
reports; every later argument about a device goes through these statements.
-/

namespace OrbitBhyve.Devices

open Foundation Python Wire

/-- The fields of `BHyveProtobufDevice` which its methods read or write.
`statusParsed` is `_status_parsed`, absent until the first `refresh_status`. -/
structure ProtobufDevice where
  state : DeviceState := {}
  batteryMv : Option ℕ := none
  statusParsed : Option Bool := none
  hasFlow : Bool := false
  flowCountsPerGallon : ℕ := 433
  /-- `self.connection is not None`. -/
  hasConnection : Bool := true
  deriving DecidableEq

/-- Programs on the protobuf device alone. -/
abbrev Observe := Prog PyErr ProtobufDevice

def updState (f : DeviceState → DeviceState) : Observe Unit :=
  modify fun d => { d with state := f d.state }

/-- `if hasattr(device, "_status_parsed"): device._status_parsed = True`. -/
def markParsed : Observe Unit :=
  modify fun d => { d with statusParsed := d.statusParsed.map fun _ => true }

theorem updState_returns (f : DeviceState → DeviceState) : Returns (updState f) := .modify _

theorem markParsed_returns : Returns markParsed := .modify _

@[simp] theorem after_updState (f : DeviceState → DeviceState) (d : ProtobufDevice) :
    after (updState f) d = { d with state := f d.state } := rfl

def applyClock (st : DeviceStatus) : Observe Unit :=
  match st.deviceClock with
  | some clock => updState fun s => { s with deviceClock := some clock }
  | none => pure ()

/-- The range test on the millivolts raises on bytes. -/
def applyBattery (st : DeviceStatus) : Observe Unit :=
  match st.batteryMv with
  | some (.int mv) =>
    if 1500 ≤ mv ∧ mv ≤ 4000 then modify fun d => { d with batteryMv := some mv } else pure ()
  | some (.bytes _) => throw .typeError
  | none => pure ()

def applyFlow (st : DeviceStatus) : Observe Unit := do
  onlyIf st.flowTotal.isSome (updState fun s => { s with flowTotal := st.flowTotal })
  onlyIf st.flowRateGpm.isSome (updState fun s => { s with flowGpmDevice := st.flowRateGpm })

/-- `device.state.active_zone = st.active_station + 1`. -/
def applyActiveStation (station : Option PbVal) : Observe Unit :=
  match station with
  | some (.int n) => updState fun s => { s with activeZone := some (n + 1) }
  | some (.bytes _) => throw .typeError
  | none => pure ()

/-- The off time is only ever moved earlier, and by more than fifteen seconds. -/
def movesOffTime (expected : Option DateTime) (newOff : DateTime) : Except PyErr Bool :=
  match expected with
  | none => .ok true
  | some off => do
    let limit ← off.addSeconds (-15)
    .ok (decide (newOff < limit))

def anchorOffTime (newOff : DateTime) : Observe Unit := do
  let d ← get
  let moves ← raising (movesOffTime d.state.expectedOffAt newOff)
  onlyIf moves (updState fun s => { s with expectedOffAt := some newOff })

def applyCountdown (now : DateTime) (remaining : Option ℕ) : Observe Unit :=
  match remaining with
  | none => pure ()
  | some r => do
    updState fun s => { s with secondsRemaining := some (r : ℤ) }
    let newOff ← raising (now.addSeconds r)
    anchorOffTime newOff

/-- What a "not watering" report clears. -/
def idleState (s : DeviceState) : DeviceState :=
  { s with
    isWatering := false
    activeZone := none
    secondsRemaining := none
    flowTotal := none
    flowGpm := some (.hundredths 0)
    flowGpmDevice := none
    startedAt := none
    expectedOffAt := none }

def applyWatering (now : DateTime) (st : DeviceStatus) : Observe Unit :=
  match st.isWatering with
  | none => pure ()
  | some true => do
    updState fun s => { s with isWatering := true }
    markParsed
    applyActiveStation st.activeStation
    applyCountdown now st.secondsRemaining
  | some false => do
    updState idleState
    markParsed

/-- `fromtimestamp(v) if v else None`. -/
def timestampOf (v : Option PbVal) : Except PyErr (Option DateTime) :=
  match orZero v with
  | .int 0 => .ok none
  | .int n => (DateTime.fromTimestamp n).map some
  | .bytes _ => .error .typeError

/-- The minutes are stored before the expiry is converted. -/
def applyRainDelay (st : DeviceStatus) : Observe Unit :=
  match st.rainDelayActive with
  | some active =>
    if active && (orZero st.rainDelayMinutes).truthy then do
      updState fun s => { s with rainDelayMinutes := st.rainDelayMinutes }
      let ends ← raising (timestampOf st.rainDelayExpiry)
      updState fun s => { s with rainDelayEnds := ends }
    else updState fun s => { s with rainDelayMinutes := some (.int 0), rainDelayEnds := none }
  | none =>
    if notRainDelay st.runState then
      updState fun s => { s with rainDelayMinutes := some (.int 0), rainDelayEnds := none }
    else pure ()

def applyFaults (st : DeviceStatus) : Observe Unit := do
  onlyIf st.faults.isSome (updState fun s => { s with faults := st.faults })
  onlyIf st.controllerMode.isSome
    (updState fun s => { s with controllerMode := st.controllerMode })

def applyNextStart (st : DeviceStatus) : Observe Unit :=
  match st.nextStartFlags with
  | some flags => do
    updState fun s => { s with nextStartFlags := if flags.truthy then some flags else none }
    let nextAt ← raising (if flags.truthy then timestampOf st.nextStartEpoch else .ok none)
    updState fun s => { s with nextStartAt := nextAt }
  | none =>
    if st.runState.isSome then
      updState fun s => { s with nextStartFlags := none, nextStartAt := none }
    else pure ()

/-- Everything after the watering state. -/
def applyRest (st : DeviceStatus) : Observe Unit := do
  applyRainDelay st
  applyFaults st
  applyNextStart st

def applyStatus (now : DateTime) (st : DeviceStatus) : Observe Unit := do
  applyClock st
  applyBattery st
  applyFlow st
  applyWatering now st
  applyRest st

def applyStatusPlaintext (now : DateTime) (pt : Bytes) : Observe Unit :=
  match decodeInner pt with
  | none => pure ()
  | some protobuf => do
    let st ← raising (extractStatus protobuf)
    applyStatus now st

/-- The device after the callback has swallowed what the observer raised. -/
def observe (now : DateTime) (pt : Bytes) (d : ProtobufDevice) : ProtobufDevice :=
  after (applyStatusPlaintext now pt) d

/-! ## What a frame reports -/

/-- The status of a frame which the observer gets as far as the valve with. -/
def frameStatus (pt : Bytes) : Option DeviceStatus :=
  match decodeInner pt with
  | none => none
  | some protobuf =>
    match extractStatus protobuf with
    | .error _ => none
    | .ok st =>
      match st.batteryMv with
      | some (.bytes _) => none
      | _ => some st

/-- Whether a frame reports the valve open, closed, or neither. -/
def wateringReport (pt : Bytes) : Option Bool := (frameStatus pt).bind DeviceStatus.isWatering

/-- What the observer decides the valve by: the flag, the off time, and whether
a status has been decoded. -/
structure ValveView where
  isWatering : Bool
  expectedOffAt : Option DateTime
  statusParsed : Option Bool

def ProtobufDevice.valve (d : ProtobufDevice) : ValveView :=
  ⟨d.state.isWatering, d.state.expectedOffAt, d.statusParsed⟩

def ProtobufDevice.rain (d : ProtobufDevice) : Option PbVal × Option DateTime :=
  (d.state.rainDelayMinutes, d.state.rainDelayEnds)

/-- Nothing a frame touches. -/
def ProtobufDevice.fixed (d : ProtobufDevice) : ProgramTable × Bool × Bool × ℕ :=
  (d.state.programs, d.hasFlow, d.hasConnection, d.flowCountsPerGallon)

/-! ## What each step keeps

A quantity which ignores the fields a step writes is kept by the step. -/

section Keeps

variable {γ : Type} {q : ProtobufDevice → γ} {st : DeviceStatus} {now : DateTime}

theorem keeps_updState {f : DeviceState → DeviceState}
    (h : ∀ d : ProtobufDevice, q { d with state := f d.state } = q d) : Keeps q (updState f) :=
  h

theorem keeps_applyClock
    (h : ∀ d v, q { d with state := { d.state with deviceClock := v } } = q d) :
    Keeps q (applyClock st) := by
  unfold applyClock
  split
  · exact keeps_updState fun d => h d _
  · exact Moves.pure ()

theorem keeps_applyBattery (h : ∀ d v, q { d with batteryMv := v } = q d) :
    Keeps q (applyBattery st) := by
  unfold applyBattery
  split
  · exact Moves.ite (Moves.modify fun d => h d _) (Moves.pure ())
  · exact Moves.throw _
  · exact Moves.pure ()

theorem keeps_applyFlow
    (htotal : ∀ d v, q { d with state := { d.state with flowTotal := v } } = q d)
    (hgpm : ∀ d v, q { d with state := { d.state with flowGpmDevice := v } } = q d) :
    Keeps q (applyFlow st) :=
  Moves.bind (Moves.onlyIf (keeps_updState fun d => htotal d _)) fun _ =>
    Moves.onlyIf (keeps_updState fun d => hgpm d _)

theorem keeps_applyActiveStation {station : Option PbVal}
    (h : ∀ d v, q { d with state := { d.state with activeZone := v } } = q d) :
    Keeps q (applyActiveStation station) := by
  unfold applyActiveStation
  split
  · exact keeps_updState fun d => h d _
  · exact Moves.throw _
  · exact Moves.pure ()

theorem keeps_applyCountdown {remaining : Option ℕ}
    (hsec : ∀ d v, q { d with state := { d.state with secondsRemaining := v } } = q d)
    (hoff : ∀ d v, q { d with state := { d.state with expectedOffAt := v } } = q d) :
    Keeps q (applyCountdown now remaining) := by
  unfold applyCountdown
  split
  · exact Moves.pure ()
  · exact Moves.bind (keeps_updState fun d => hsec d _) fun _ =>
      Moves.bind (Moves.raising _) fun _ => Moves.bind Moves.get fun _ =>
        Moves.bind (Moves.raising _) fun _ => Moves.onlyIf (keeps_updState fun d => hoff d _)

theorem keeps_applyWatering
    (hopen : ∀ d v, q { d with state := { d.state with isWatering := v } } = q d)
    (hparsed : ∀ d v, q { d with statusParsed := v } = q d)
    (hzone : ∀ d v, q { d with state := { d.state with activeZone := v } } = q d)
    (hsec : ∀ d v, q { d with state := { d.state with secondsRemaining := v } } = q d)
    (hoff : ∀ d v, q { d with state := { d.state with expectedOffAt := v } } = q d)
    (hidle : ∀ d : ProtobufDevice, q { d with state := idleState d.state } = q d) :
    Keeps q (applyWatering now st) := by
  unfold applyWatering
  split
  · exact Moves.pure ()
  · exact Moves.bind (keeps_updState fun d => hopen d _) fun _ =>
      Moves.bind (Moves.modify fun d => hparsed d _) fun _ =>
        Moves.bind (keeps_applyActiveStation hzone) fun _ => keeps_applyCountdown hsec hoff
  · exact Moves.bind (keeps_updState hidle) fun _ => Moves.modify fun d => hparsed d _

theorem keeps_applyRainDelay
    (hmin : ∀ d v, q { d with state := { d.state with rainDelayMinutes := v } } = q d)
    (hends : ∀ d v, q { d with state := { d.state with rainDelayEnds := v } } = q d) :
    Keeps q (applyRainDelay st) := by
  have hclear : Keeps q (updState fun s =>
      { s with rainDelayMinutes := some (.int 0), rainDelayEnds := none }) :=
    keeps_updState fun d => (hends { d with state := { d.state with
      rainDelayMinutes := some (.int 0) } } none).trans (hmin d _)
  unfold applyRainDelay
  split
  · refine Moves.ite ?_ hclear
    exact Moves.bind (keeps_updState fun d => hmin d _) fun _ =>
      Moves.bind (Moves.raising _) fun _ => keeps_updState fun d => hends d _
  · exact Moves.ite hclear (Moves.pure ())

theorem keeps_applyFaults
    (hfaults : ∀ d v, q { d with state := { d.state with faults := v } } = q d)
    (hmode : ∀ d v, q { d with state := { d.state with controllerMode := v } } = q d) :
    Keeps q (applyFaults st) :=
  Moves.bind (Moves.onlyIf (keeps_updState fun d => hfaults d _)) fun _ =>
    Moves.onlyIf (keeps_updState fun d => hmode d _)

theorem keeps_applyNextStart
    (hflags : ∀ d v, q { d with state := { d.state with nextStartFlags := v } } = q d)
    (hat : ∀ d v, q { d with state := { d.state with nextStartAt := v } } = q d) :
    Keeps q (applyNextStart st) := by
  unfold applyNextStart
  split
  · exact Moves.bind (keeps_updState fun d => hflags d _) fun _ =>
      Moves.bind (Moves.raising _) fun _ => keeps_updState fun d => hat d _
  · refine Moves.ite (keeps_updState fun d => ?_) (Moves.pure ())
    exact (hat { d with state := { d.state with nextStartFlags := none } } none).trans (hflags d _)

theorem keeps_applyRest
    (hmin : ∀ d v, q { d with state := { d.state with rainDelayMinutes := v } } = q d)
    (hends : ∀ d v, q { d with state := { d.state with rainDelayEnds := v } } = q d)
    (hfaults : ∀ d v, q { d with state := { d.state with faults := v } } = q d)
    (hmode : ∀ d v, q { d with state := { d.state with controllerMode := v } } = q d)
    (hflags : ∀ d v, q { d with state := { d.state with nextStartFlags := v } } = q d)
    (hat : ∀ d v, q { d with state := { d.state with nextStartAt := v } } = q d) :
    Keeps q (applyRest st) :=
  Moves.bind (keeps_applyRainDelay hmin hends) fun _ =>
    Moves.bind (keeps_applyFaults hfaults hmode) fun _ => keeps_applyNextStart hflags hat

end Keeps

theorem keeps_fixed_applyStatusPlaintext (now : DateTime) (pt : Bytes) :
    Keeps ProtobufDevice.fixed (applyStatusPlaintext now pt) := by
  have hrest : ∀ st, Keeps ProtobufDevice.fixed (applyRest st) := fun st =>
    keeps_applyRest (fun _ _ => rfl) (fun _ _ => rfl) (fun _ _ => rfl) (fun _ _ => rfl)
      (fun _ _ => rfl) fun _ _ => rfl
  unfold applyStatusPlaintext
  split
  · exact Moves.pure ()
  · exact Moves.bind (Moves.raising _) fun st =>
      Moves.bind (keeps_applyClock fun _ _ => rfl) fun _ =>
      Moves.bind (keeps_applyBattery fun _ _ => rfl) fun _ =>
      Moves.bind (keeps_applyFlow (fun _ _ => rfl) fun _ _ => rfl) fun _ =>
      Moves.bind (keeps_applyWatering (fun _ _ => rfl) (fun _ _ => rfl) (fun _ _ => rfl)
        (fun _ _ => rfl) (fun _ _ => rfl) fun _ => rfl) fun _ => hrest st

/-- No frame touches the program table or the configuration. -/
theorem fixed_observe (now : DateTime) (pt : Bytes) (d : ProtobufDevice) :
    (observe now pt d).fixed = d.fixed :=
  keeps_fixed_applyStatusPlaintext now pt d

/-! ## What a frame does to the valve -/

theorem applyClock_returns (st : DeviceStatus) : Returns (applyClock st) := by
  unfold applyClock
  split
  · exact .modify _
  · exact .pure

theorem applyBattery_returns {st : DeviceStatus} (h : ∀ b, st.batteryMv ≠ some (.bytes b)) :
    Returns (applyBattery st) := by
  unfold applyBattery
  split
  · exact .ite (.modify _) .pure
  · next b hb => exact absurd hb (h b)
  · exact .pure

theorem applyFlow_returns (st : DeviceStatus) : Returns (applyFlow st) :=
  .bind (.onlyIf (.modify _)) (.onlyIf (.modify _))

/-- The devices differ at most in what a frame says before the valve: clock, battery, flow. -/
def SameButReadings (d d' : ProtobufDevice) : Prop :=
  ∃ clock battery total gpm, d' = { d with
    batteryMv := battery
    state := { d.state with deviceClock := clock, flowTotal := total, flowGpmDevice := gpm } }

instance : IsPreorder ProtobufDevice SameButReadings where
  refl _ := ⟨_, _, _, _, rfl⟩
  trans := by
    rintro d₁ d₂ d₃ ⟨_, _, _, _, rfl⟩ ⟨_, _, _, _, rfl⟩
    exact ⟨_, _, _, _, rfl⟩

theorem SameButReadings.valve {d d' : ProtobufDevice} (h : SameButReadings d d') :
    d'.valve = d.valve := by
  obtain ⟨_, _, _, _, rfl⟩ := h
  rfl

theorem SameButReadings.rain {d d' : ProtobufDevice} (h : SameButReadings d d') :
    d'.rain = d.rain := by
  obtain ⟨_, _, _, _, rfl⟩ := h
  rfl

theorem sameButReadings_applyClock (st : DeviceStatus) :
    Moves SameButReadings (applyClock st) := by
  unfold applyClock
  split
  · exact Moves.modify fun _ => ⟨_, _, _, _, rfl⟩
  · exact Moves.pure ()

theorem sameButReadings_applyBattery (st : DeviceStatus) :
    Moves SameButReadings (applyBattery st) := by
  unfold applyBattery
  split
  · exact Moves.ite (Moves.modify fun _ => ⟨_, _, _, _, rfl⟩) (Moves.pure ())
  · exact Moves.throw _
  · exact Moves.pure ()

theorem sameButReadings_applyFlow (st : DeviceStatus) : Moves SameButReadings (applyFlow st) :=
  Moves.bind (Moves.onlyIf (Moves.modify fun _ => ⟨_, _, _, _, rfl⟩)) fun _ =>
    Moves.onlyIf (Moves.modify fun _ => ⟨_, _, _, _, rfl⟩)

theorem of_frameStatus {pt : Bytes} {st : DeviceStatus} (h : frameStatus pt = some st) :
    ∃ protobuf, decodeInner pt = some protobuf ∧ extractStatus protobuf = .ok st ∧
      ∀ b, st.batteryMv ≠ some (.bytes b) := by
  unfold frameStatus at h
  split at h
  · cases h
  · next protobuf hdec =>
    split at h
    · cases h
    · next st' hext =>
      split at h
      · cases h
      · next hbatt =>
        cases h
        exact ⟨protobuf, hdec, hext, hbatt⟩

/-- A frame which decodes reaches the valve with everything but the readings as it was. -/
theorem observe_of_frameStatus {pt : Bytes} {st : DeviceStatus} (h : frameStatus pt = some st)
    (now : DateTime) (d : ProtobufDevice) :
    ∃ d', SameButReadings d d' ∧
      observe now pt d = after (do applyWatering now st; applyRest st) d' := by
  obtain ⟨protobuf, hdec, hext, hbatt⟩ := of_frameStatus h
  have hclock := sameButReadings_applyClock st d
  have hbattery := sameButReadings_applyBattery st (after (applyClock st) d)
  have hflow := sameButReadings_applyFlow st (after (applyBattery st) (after (applyClock st) d))
  refine ⟨_, trans_of _ hclock (trans_of _ hbattery hflow), ?_⟩
  unfold observe applyStatusPlaintext
  simp only [hdec]
  rw [after_bind_ok (run_raising_ok hext d), applyStatus, (applyClock_returns st).after_bind,
    (applyBattery_returns hbatt).after_bind, (applyFlow_returns st).after_bind]

theorem observe_of_no_frameStatus {pt : Bytes} (h : frameStatus pt = none) (now : DateTime)
    (d : ProtobufDevice) : SameButReadings d (observe now pt d) := by
  unfold observe applyStatusPlaintext
  cases hdec : decodeInner pt with
  | none => exact refl_of SameButReadings d
  | some protobuf =>
    cases hext : extractStatus protobuf with
    | error e =>
      dsimp only
      rw [after_bind_error (run_raising_error hext d)]
      exact refl_of SameButReadings d
    | ok st =>
      simp only [frameStatus, hdec, hext] at h
      dsimp only
      rw [after_bind_ok (run_raising_ok hext d), applyStatus, (applyClock_returns st).after_bind]
      split at h
      · next b hb =>
        have hraise : applyBattery st (after (applyClock st) d) =
            .error .typeError (after (applyClock st) d) := by
          simp only [applyBattery, hb]
          rfl
        rw [after_bind_error hraise]
        exact sameButReadings_applyClock st d
      · cases h

/-- The off time after the guard has let a candidate through, or not. -/
def guardedOff (expected : Option DateTime) (newOff : DateTime) : Option DateTime :=
  match movesOffTime expected newOff with
  | .ok true => some newOff
  | _ => expected

/-- The off time after a countdown: anchored on it if it is usable and the guard lets
the off time move. -/
def countdownOff (now : DateTime) (remaining : Option ℕ) (expected : Option DateTime) :
    Option DateTime :=
  match remaining with
  | none => expected
  | some r =>
    match now.addSeconds r with
    | .error _ => expected
    | .ok newOff => guardedOff expected newOff

/-- A running report whose station is not a number raises before its countdown is read. -/
def offTime (now : DateTime) (st : DeviceStatus) (expected : Option DateTime) : Option DateTime :=
  match st.activeStation with
  | some (.bytes _) => expected
  | _ => countdownOff now st.secondsRemaining expected

def valveAfter (now : DateTime) (st : DeviceStatus) (v : ValveView) : ValveView :=
  match st.isWatering with
  | none => v
  | some false => ⟨false, none, v.statusParsed.map fun _ => true⟩
  | some true => ⟨true, offTime now st v.expectedOffAt, v.statusParsed.map fun _ => true⟩

theorem keeps_valve_applyRest (st : DeviceStatus) : Keeps ProtobufDevice.valve (applyRest st) :=
  keeps_applyRest (fun _ _ => rfl) (fun _ _ => rfl) (fun _ _ => rfl) (fun _ _ => rfl)
    (fun _ _ => rfl) fun _ _ => rfl

theorem valve_anchorOffTime (newOff : DateTime) (d : ProtobufDevice) :
    (after (anchorOffTime newOff) d).valve =
      { d.valve with expectedOffAt := guardedOff d.state.expectedOffAt newOff } := by
  rw [anchorOffTime, after_bind_ok (run_get d)]
  unfold guardedOff
  cases hmoves : movesOffTime d.state.expectedOffAt newOff with
  | error e =>
    rw [after_bind_error (run_raising_error rfl d)]
    rfl
  | ok moves =>
    rw [after_bind_ok (run_raising_ok rfl d)]
    cases moves <;> rfl

theorem valve_applyCountdown (now : DateTime) (remaining : Option ℕ) (d : ProtobufDevice) :
    (after (applyCountdown now remaining) d).valve =
      { d.valve with expectedOffAt := countdownOff now remaining d.valve.expectedOffAt } := by
  unfold applyCountdown countdownOff
  cases remaining with
  | none => rfl
  | some r =>
    dsimp only
    rw [(updState_returns _).after_bind]
    cases now.addSeconds r with
    | error e =>
      rw [after_bind_error (run_raising_error rfl _)]
      rfl
    | ok newOff =>
      rw [after_bind_ok (run_raising_ok rfl _), valve_anchorOffTime]
      rfl

theorem applyActiveStation_returns {station : Option PbVal} (h : ∀ b, station ≠ some (.bytes b)) :
    Returns (applyActiveStation station) := by
  unfold applyActiveStation
  split
  · exact updState_returns _
  · next b => exact absurd rfl (h b)
  · exact .pure

theorem valve_applyWatering (now : DateTime) (st : DeviceStatus) (d : ProtobufDevice) :
    (after (applyWatering now st) d).valve = valveAfter now st d.valve := by
  unfold applyWatering valveAfter
  cases st.isWatering with
  | none => rfl
  | some reported =>
    cases reported with
    | false => rfl
    | true =>
      dsimp only
      rw [(updState_returns _).after_bind, markParsed_returns.after_bind]
      unfold offTime
      split
      · next b hb =>
        have hraise : ∀ d', applyActiveStation st.activeStation d' = .error .typeError d' := by
          intro d'
          rw [hb]
          rfl
        rw [after_bind_error (hraise _)]
        rfl
      · next hnum =>
        have hkeep : Keeps ProtobufDevice.valve (applyActiveStation st.activeStation) :=
          keeps_applyActiveStation fun _ _ => rfl
        rw [(applyActiveStation_returns fun b hb => hnum b hb).after_bind, valve_applyCountdown,
          hkeep.apply]
        rfl

theorem valve_observe (now : DateTime) (pt : Bytes) (d : ProtobufDevice) :
    (observe now pt d).valve =
      match frameStatus pt with
      | none => d.valve
      | some st => valveAfter now st d.valve := by
  cases h : frameStatus pt with
  | none => exact (observe_of_no_frameStatus h now d).valve
  | some st =>
    obtain ⟨d', hsame, hobs⟩ := observe_of_frameStatus h now d
    rw [hobs, Keeps.after_bind fun _ => keeps_valve_applyRest st, valve_applyWatering,
      hsame.valve]

/-- The flag is what the last frame to report it said. -/
theorem isWatering_observe (now : DateTime) (pt : Bytes) (d : ProtobufDevice) :
    (observe now pt d).state.isWatering = (wateringReport pt).getD d.state.isWatering := by
  have h := congrArg ValveView.isWatering (valve_observe now pt d)
  change (observe now pt d).state.isWatering = _ at h
  rw [h, wateringReport]
  cases frameStatus pt with
  | none => rfl
  | some st =>
    simp only [valveAfter, Option.bind_some]
    cases st.isWatering with
    | none => rfl
    | some reported => cases reported <;> rfl

/-! ## What a frame does to the rain delay -/

/-- HA's rain delay after a frame whose status reports nothing about the valve. -/
def rainAfter (st : DeviceStatus) (r : Option PbVal × Option DateTime) :
    Option PbVal × Option DateTime :=
  match st.rainDelayActive with
  | some active =>
    if active && (orZero st.rainDelayMinutes).truthy then
      match timestampOf st.rainDelayExpiry with
      | .ok ends => (st.rainDelayMinutes, ends)
      | .error _ => (st.rainDelayMinutes, r.2)
    else (some (.int 0), none)
  | none => if notRainDelay st.runState then (some (.int 0), none) else r

theorem rain_applyRest (st : DeviceStatus) (d : ProtobufDevice) :
    (after (applyRest st) d).rain = rainAfter st d.rain := by
  have hrest : ∀ _ : Unit, Keeps ProtobufDevice.rain (do applyFaults st; applyNextStart st) :=
    fun _ => Moves.bind (keeps_applyFaults (fun _ _ => rfl) fun _ _ => rfl) fun _ =>
      keeps_applyNextStart (fun _ _ => rfl) fun _ _ => rfl
  rw [applyRest, Keeps.after_bind hrest]
  unfold applyRainDelay rainAfter
  cases st.rainDelayActive with
  | none => dsimp only; split_ifs <;> rfl
  | some active =>
    dsimp only
    split_ifs
    · rw [(updState_returns _).after_bind]
      cases hends : timestampOf st.rainDelayExpiry with
      | error e => exact (congrArg ProtobufDevice.rain (after_bind_error rfl)).trans rfl
      | ok ends => rw [after_bind_ok (run_raising_ok rfl _)]; rfl
    · rfl

/-- A frame silent about the valve moves HA's rain delay as its status says. -/
theorem rain_observe {pt : Bytes} {st : DeviceStatus} (h : frameStatus pt = some st)
    (hsilent : st.isWatering = none) (now : DateTime) (d : ProtobufDevice) :
    (observe now pt d).rain = rainAfter st d.rain := by
  obtain ⟨d', hsame, hobs⟩ := observe_of_frameStatus h now d
  have hskip : applyWatering now st = pure () := by simp only [applyWatering, hsilent]
  rw [hobs, hskip, Returns.pure.after_bind, after_pure, rain_applyRest, hsame.rain]

end OrbitBhyve.Devices
