import OrbitBhyve.Devices.Protobuf

/-!
# What a frame says about the run

Both families decide whether the device is watering, and until when, by the
frames which they hear. A frame reports the run over, on with its countdown, or
started for a number of seconds; what the report does to the flag and to the
off time is stated here once for both.
-/

namespace OrbitBhyve.Devices

open Foundation Python Wire

structure RunView where
  isWatering : Bool
  expectedOffAt : Option DateTime
  deriving DecidableEq

def DeviceState.run (s : DeviceState) : RunView := ⟨s.isWatering, s.expectedOffAt⟩

def RunView.Timed (v : RunView) : Prop := v.isWatering = true → v.expectedOffAt.isSome

instance (v : RunView) : Decidable v.Timed := inferInstanceAs (Decidable (_ → _))

inductive RunReport where
  | idle
  | running (countdown : Option ℕ)
  | started (durationSec : ℤ)
  deriving DecidableEq

namespace RunReport

def offAt (now : DateTime) : RunReport → Option DateTime
  | idle => none
  | running countdown => countdown.bind fun r => (now.addSeconds r).toOption
  | started durationSec => (now.addSeconds durationSec).toOption

/-- A start sets the off time it names, a countdown has to pass the guard. -/
def after (now : DateTime) : RunReport → RunView → RunView
  | idle, _ => ⟨false, none⟩
  | running countdown, v => ⟨true, countdownOff now countdown v.expectedOffAt⟩
  | started durationSec, v =>
    ⟨true, (started durationSec).offAt now <|> v.expectedOffAt⟩

/-- A report needs an off time which is set already, or names one, or closes the valve. -/
def Covered (now : DateTime) (rep : RunReport) (expected : Option DateTime) : Prop :=
  rep = idle ∨ expected.isSome ∨ (rep.offAt now).isSome

instance (now : DateTime) (rep : RunReport) (expected : Option DateTime) :
    Decidable (rep.Covered now expected) :=
  inferInstanceAs (Decidable (_ ∨ _ ∨ _))

theorem isSome_guardedOff (expected : Option DateTime) (newOff : DateTime) :
    (guardedOff expected newOff).isSome := by
  cases expected with
  | none => rfl
  | some off =>
    unfold guardedOff
    split
    · rfl
    · rfl

theorem isSome_countdownOff (now : DateTime) (countdown : Option ℕ)
    (expected : Option DateTime) :
    (countdownOff now countdown expected).isSome ↔
      expected.isSome ∨ ((running countdown).offAt now).isSome := by
  cases countdown with
  | none => simp [countdownOff, offAt]
  | some r =>
    cases hoff : now.addSeconds r with
    | error e => simp [countdownOff, offAt, hoff, Except.toOption]
    | ok off => simp [countdownOff, offAt, hoff, Except.toOption, isSome_guardedOff]

/-- A report leaves a run with an off time exactly when it is covered. -/
theorem timed_after (now : DateTime) (rep : RunReport) (v : RunView) :
    (rep.after now v).Timed ↔ rep.Covered now v.expectedOffAt := by
  cases rep with
  | idle => simp [after, RunView.Timed, Covered]
  | running countdown =>
    simp only [after, RunView.Timed, Covered, forall_const, reduceCtorEq, false_or]
    exact isSome_countdownOff now countdown v.expectedOffAt
  | started durationSec =>
    simp only [after, RunView.Timed, Covered, forall_const, reduceCtorEq, false_or]
    cases hoff : (started durationSec).offAt now with
    | none => simp
    | some off => simp

end RunReport

/-! ## The protobuf family -/

/-- A countdown behind a station which is not a number is not reached. -/
def statusCountdown (st : DeviceStatus) : Option ℕ :=
  match st.activeStation with
  | some (.bytes _) => none
  | _ => st.secondsRemaining

def statusReport (st : DeviceStatus) : Option RunReport :=
  st.isWatering.map fun watering =>
    if watering then .running (statusCountdown st) else .idle

def protobufReport (pt : Bytes) : Option RunReport := (frameStatus pt).bind statusReport

theorem protobufReport_ne_started (pt : Bytes) (durationSec : ℤ) :
    protobufReport pt ≠ some (.started durationSec) := by
  unfold protobufReport statusReport
  cases frameStatus pt with
  | none => simp
  | some st =>
    cases hwat : st.isWatering with
    | none => simp [hwat]
    | some watering => cases watering <;> simp [hwat]

theorem offTime_eq_countdownOff (now : DateTime) (st : DeviceStatus)
    (expected : Option DateTime) :
    offTime now st expected = countdownOff now (statusCountdown st) expected := by
  unfold offTime statusCountdown
  cases st.activeStation with
  | none => rfl
  | some station => cases station <;> rfl

theorem run_observe (now : DateTime) (pt : Bytes) (d : ProtobufDevice) :
    (observe now pt d).state.run =
      match protobufReport pt with
      | none => d.state.run
      | some rep => rep.after now d.state.run := by
  have hvalve := valve_observe now pt d
  have hrun : ∀ d : ProtobufDevice,
      d.state.run = ⟨d.valve.isWatering, d.valve.expectedOffAt⟩ := fun _ => rfl
  rw [hrun, hvalve, protobufReport]
  cases frameStatus pt with
  | none => rfl
  | some st =>
    simp only [Option.bind_some, statusReport, valveAfter]
    cases st.isWatering with
    | none => rfl
    | some watering =>
      cases watering with
      | false => rfl
      | true =>
        simp only [Option.map_some, if_true, offTime_eq_countdownOff]
        rfl

end OrbitBhyve.Devices
