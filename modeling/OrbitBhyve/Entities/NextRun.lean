import OrbitBhyve.Devices.NextStart
import OrbitBhyve.Devices.RainConfirmation
import OrbitBhyve.Foundation.Bits

/-!
# The next-run sensor

It shows the stored time, and as an attribute the letters of the programs. After
any run of operations the letters are of the last report of the device, and the
time is of that report too unless its epoch is none: then the one from before
stays beside the new letters.
-/

namespace OrbitBhyve.Entities

open Foundation Python Wire Devices

/-- `extra_state_attributes` of `BHyveNextRunSensor`: the letters, if the flags are a number. -/
def nextRunPrograms (flags : Option PbVal) : Except PyErr (List String) :=
  match orZero flags with
  | .int n => .ok (((List.range 6).filter fun b => n &&& 1 <<< b != 0).map fun b =>
      slotLetter (b + 1))
  | .bytes _ => .error .typeError

/-- `BHyveNextRunSensor`: its `native_value` and its attribute. -/
structure NextRunSensor where
  nativeValue : Option DateTime
  programs : Except PyErr (List String)

def nextRunSensor (d : ProtobufDevice) : NextRunSensor where
  nativeValue := d.nextRun.2
  programs := nextRunPrograms d.nextRun.1

def slotLetters (slots : ℕ) : List String :=
  ((List.range 6).filter slots.testBit).map fun b => slotLetter (b + 1)

def deviceNextRun (n : NextStart) : NextRunSensor where
  nativeValue := some n.time
  programs := .ok (slotLetters n.slots)

theorem nextRunPrograms_int {slots : ℕ} (h : slots ≠ 0) :
    nextRunPrograms (some (.int slots)) = .ok (slotLetters slots) := by
  have hflags : orZero (some (.int slots)) = .int slots := if_pos (truthy_int h)
  have hbits : (fun b => slots &&& 1 <<< b != 0) = slots.testBit := by
    funext b
    exact and_shift_ne_zero slots b
  rw [nextRunPrograms, hflags]
  dsimp only
  rw [hbits]
  rfl

/-- After any run of operations, with any replies and wherever they raise, the sensor shows what
the last status says which says what starts next, of those the observer got through to. Where it
names no programs, it shows nothing; where it names some, their letters, and their time if the
epoch is one, or none if it has none. With an epoch which cannot be converted the letters stand
beside the last time which could; where the programs are no number, there are no letters. If
there is no such status, the sensor shows what it showed before the run. -/
theorem nextRunSensor_after_run (replies : ℕ → Reply) (utcOffset : UtcOffset)
    (ops : List ProtobufOp) (w : World ProtobufDevice) :
    let sensor := nextRunSensor (after (ProtobufOp.run (protobufRadio replies utcOffset) ops) w).dev
    ∃ new, (after (ProtobufOp.run (protobufRadio replies utcOffset) ops) w).log = w.log ++ new ∧
      (lastSaid startReport new = none → sensor = nextRunSensor w.dev) ∧
      (∀ flags epoch, lastSaid startReport new = some (flags, epoch) →
        flags.any PbVal.truthy = false → sensor = ⟨none, .ok []⟩) ∧
      (∀ n : NextStart, lastSaid startReport new = some (some (.int n.slots), some (.int n.epoch)) →
        sensor = deviceNextRun n) ∧
      (∀ slots epoch, slots ≠ 0 → lastSaid startReport new = some (some (.int slots), epoch) →
        epoch.any PbVal.truthy = false → sensor = ⟨none, .ok (slotLetters slots)⟩) ∧
      (∀ slots epoch, slots ≠ 0 → lastSaid startReport new = some (some (.int slots), epoch) →
        sensor = ⟨(lastSaid (fun entry => (startReport entry).bind startTime) new).getD
          (nextRunSensor w.dev).nativeValue, .ok (slotLetters slots)⟩) ∧
      ∀ text epoch, text ≠ [] → lastSaid startReport new = some (some (.bytes text), epoch) →
        sensor.programs = .error .typeError := by
  obtain ⟨new, hlog, hnext⟩ := nextRun_after_run replies utcOffset ops w
  have hsensor : ∀ {flags epoch}, lastSaid startReport new = some (flags, epoch) →
      nextRunSensor (after (ProtobufOp.run (protobufRadio replies utcOffset) ops) w).dev =
        ⟨(lastSaid (fun entry => (startReport entry).bind startTime) new).getD
          (nextRunSensor w.dev).nativeValue, nextRunPrograms (flags.filter PbVal.truthy)⟩ := by
    intro flags epoch hlast
    rw [nextRunSensor, hnext, hlast]
    rfl
  have hletters : ∀ {slots : ℕ}, slots ≠ 0 →
      nextRunPrograms ((some (PbVal.int slots)).filter PbVal.truthy) = .ok (slotLetters slots) := by
    intro slots h
    rw [Option.filter_some, if_pos (truthy_int h), nextRunPrograms_int h]
  refine ⟨new, hlog, ?_, ?_, ?_, ?_, ?_, ?_⟩
  · intro hnone
    have htime : lastSaid (fun entry => (startReport entry).bind startTime) new = none := by
      rw [lastSaid_eq_none] at hnone ⊢
      intro entry hentry
      rw [hnone entry hentry, Option.bind_none]
    rw [nextRunSensor, hnext, hnone, htime]
    rfl
  · intro flags epoch hlast hfalsy
    have hnone : flags.filter PbVal.truthy = none := by
      cases flags with
      | none => rfl
      | some v => exact if_neg (by simpa using hfalsy)
    rw [hsensor hlast, lastSaid_bind hlast (startTime_of_falsy hfalsy), hnone]
    rfl
  · intro n hlast
    have htime : startTime (some (.int n.slots), some (.int n.epoch)) = some (some n.time) := by
      rw [startTime_of_truthy (truthy_int n.armed), n.timestampOf_epoch]
      rfl
    rw [hsensor hlast, lastSaid_bind hlast htime, hletters n.armed]
    rfl
  · intro slots epoch hslots hlast hfalsy
    have htime : startTime (some (.int slots), epoch) = some none := by
      rw [startTime_of_truthy (truthy_int hslots), timestampOf_of_falsy hfalsy]
      rfl
    rw [hsensor hlast, lastSaid_bind hlast htime, hletters hslots]
    rfl
  · intro slots epoch hslots hlast
    rw [hsensor hlast, hletters hslots]
  · intro text epoch htext hlast
    have htruthy : (PbVal.bytes text).truthy = true := by simpa [PbVal.truthy] using htext
    rw [hsensor hlast, Option.filter_some, if_pos htruthy, nextRunPrograms, orZero, if_pos htruthy]

/-- Programs A and C start on the second day of 1970. -/
def secondDay : NextStart where
  slots := 5
  epoch := 86400
  time := ⟨86400000000, by decide, by decide⟩
  armed := by decide
  later := by decide
  time_eq := rfl

/-- `#16 {#1=1, #9=5, #10=86400}`. -/
def secondDayReport : Body :=
  ⟨pbFieldBytes 16 (pbFieldVarint 1 1 ++ pbFieldVarint 9 5 ++ pbFieldVarint 10 86400), by decide⟩

/-- Every operation hears of the second day, and then that the timer is ready. -/
def secondDayReplies (_ : ℕ) : Reply where
  frames := [⟨secondDayReport.frame, .epoch⟩, ⟨completeAck, .epoch⟩]
  clock := .epoch

/-- An acknowledgement leaves the next start as it is. -/
theorem nextRunSensor_after_run_second_day :
    nextRunSensor (after (ProtobufOp.run (protobufRadio secondDayReplies .utc)
      [.refreshStatus false]) { dev := {}, clock := .epoch }).dev = deviceNextRun secondDay ∧
      (deviceNextRun secondDay).programs = .ok ["A", "C"] := by
  obtain ⟨new, hlog, -, -, htold, -⟩ := nextRunSensor_after_run secondDayReplies .utc
    [.refreshStatus false] { dev := {}, clock := .epoch }
  refine ⟨htold secondDay ?_, by rfl⟩
  rw [List.nil_append] at hlog
  rw [← hlog]
  decide +kernel

end OrbitBhyve.Entities
