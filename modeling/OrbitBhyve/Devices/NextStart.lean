import OrbitBhyve.Devices.Faults

/-!
# The next start

A device with an enabled program reports which programs start next, and when. A
status with a run-state and without programs says that none does. The programs
are stored before the time is converted, so a time which is none leaves the old
one beside the new programs.
-/

namespace OrbitBhyve.Devices

open Foundation Python Wire

def ProtobufDevice.nextRun (d : ProtobufDevice) : Option PbVal × Option DateTime :=
  (d.state.nextStartFlags, d.state.nextStartAt)

def DeviceStatus.tellsStart (st : DeviceStatus) : Bool :=
  st.nextStartFlags.isSome || st.runState.isSome

/-- The time which the programs and the epoch of a status come to; `none` where the conversion
raises. -/
def startTime (reported : Option PbVal × Option PbVal) : Option (Option DateTime) :=
  if reported.1.any PbVal.truthy then (timestampOf reported.2).toOption else some none

/-- What is stored of both, where `old` is the time there was. -/
def storedStart (reported : Option PbVal × Option PbVal) (old : Option DateTime) :
    Option PbVal × Option DateTime :=
  (reported.1.filter PbVal.truthy, (startTime reported).getD old)

/-! ## The observer -/

section Observer

variable {now : DateTime} {st : DeviceStatus} (d : ProtobufDevice)

theorem nextRun_withStartFlags : (withStartFlags st d).nextRun =
    if st.tellsStart then (st.nextStartFlags.filter PbVal.truthy, d.state.nextStartAt)
    else d.nextRun := by
  unfold withStartFlags DeviceStatus.tellsStart
  cases st.nextStartFlags with
  | some flags => rfl
  | none =>
    cases st.runState with
    | some runState => rfl
    | none => rfl

theorem failure_nextStart_of_none (h : firstFailure now st d = none) :
    Conversion.nextStart.failure now st d = none := by
  have hnone := List.findSome?_eq_none_iff.mp h .nextStart (by simp)
  exact Option.map_eq_none_iff.mp hnone

theorem failure_nextStart_of_some {e : PyErr} (h : firstFailure now st d = some (.nextStart, e)) :
    Conversion.nextStart.failure now st d = some e := by
  obtain ⟨c, -, hc⟩ := List.exists_of_findSome?_eq_some h
  obtain ⟨e', hfail, heq⟩ := Option.map_eq_some_iff.mp hc
  cases heq
  exact hfail

theorem storedStart_of_none (h : Conversion.nextStart.failure now st d = none)
    (old : Option DateTime) :
    storedStart (st.nextStartFlags, st.nextStartEpoch) old =
      (st.nextStartFlags.filter PbVal.truthy,
        if st.reportsStart then (timestampOf st.nextStartEpoch).toOption.join else none) := by
  rw [Conversion.failure] at h
  rw [storedStart, startTime]
  unfold DeviceStatus.reportsStart at h ⊢
  split_ifs with hreports
  · rw [if_pos hreports] at h
    cases htime : timestampOf st.nextStartEpoch with
    | ok time => rfl
    | error e =>
      rw [htime] at h
      cases h
  · rfl

theorem nextRun_withStart (h : Conversion.nextStart.failure now st d = none) :
    (withStart st (withStartFlags st d)).nextRun =
      if st.tellsStart then storedStart (st.nextStartFlags, st.nextStartEpoch) d.state.nextStartAt
      else d.nextRun := by
  have hflags : (withStartFlags st d).nextRun =
      if st.tellsStart then (st.nextStartFlags.filter PbVal.truthy, d.state.nextStartAt)
      else d.nextRun := nextRun_withStartFlags d
  rw [storedStart_of_none d h]
  by_cases htells : st.tellsStart = true
  · rw [if_pos htells] at hflags ⊢
    have htime : withStart st (withStartFlags st d) = { withStartFlags st d with
        state := { (withStartFlags st d).state with
          nextStartAt :=
            if st.reportsStart then (timestampOf st.nextStartEpoch).toOption.join else none } } :=
      if_pos htells
    have hprograms : (withStartFlags st d).nextRun.1 = st.nextStartFlags.filter PbVal.truthy := by
      rw [hflags]
    rw [htime]
    exact Prod.ext hprograms rfl
  · rw [if_neg htells] at hflags ⊢
    have hsame : withStart st (withStartFlags st d) = withStartFlags st d := if_neg htells
    rw [hsame]
    exact hflags

theorem nextRun_of_failure {e : PyErr} (h : Conversion.nextStart.failure now st d = some e) :
    (withStartFlags st d).nextRun =
      if st.tellsStart then storedStart (st.nextStartFlags, st.nextStartEpoch) d.state.nextStartAt
      else d.nextRun := by
  rw [nextRun_withStartFlags]
  rw [Conversion.failure] at h
  split_ifs at h with hreports
  cases htime : timestampOf st.nextStartEpoch with
  | ok time =>
    rw [htime] at h
    cases h
  | error e' =>
    rw [DeviceStatus.reportsStart] at hreports
    rw [storedStart, startTime, if_pos hreports, htime]
    rfl

theorem nextRun_observe (now : DateTime) (pt : Bytes) :
    (observe now pt d).nextRun = ((decodedStatus pt).bind fun st =>
      if reaches now st d .nextStart && st.tellsStart then
        some (storedStart (st.nextStartFlags, st.nextStartEpoch) d.state.nextStartAt)
      else none).getD d.nextRun := by
  rw [observe_eq]
  cases decodedStatus pt with
  | none => rfl
  | some st =>
    set d' := withFaults st (withRain st (withWatering now st (withSensors st (withClock st d))))
      with hd'
    have hrun : d'.nextRun = d.nextRun := by
      have hrain : d'.nextRun =
          (withRain st (withWatering now st (withSensors st (withClock st d)))).nextRun := rfl
      rw [hrain]
      exact congrArg (fun r => r.2.2) ((reports_withRain _).trans (reports_withWatering _))
    have htime : d'.state.nextStartAt = d.state.nextStartAt := congrArg Prod.snd hrun
    have hfailure : Conversion.nextStart.failure now st d' =
        Conversion.nextStart.failure now st d := failure_congr now st d d' (by decide)
    rw [Option.bind_some]
    unfold reaches
    dsimp only
    cases hfail : firstFailure now st d with
    | none =>
      have hconv := failure_nextStart_of_none d hfail
      rw [← hfailure] at hconv
      rw [writtenAll, ← hd', nextRun_withStart d' hconv, hrun, htime, Bool.true_and]
      split_ifs <;> rfl
    | some stop =>
      obtain ⟨c, e⟩ := stop
      cases c with
      | battery => rfl
      | station => rfl
      | offTime =>
        exact congrArg (fun r => r.2.2) ((reports_withRemaining _).trans (reports_withZone _))
      | rainExpiry => exact congrArg (fun r => r.2.2) (reports_withWatering _)
      | nextStart =>
        have hconv := failure_nextStart_of_some d hfail
        rw [← hfailure] at hconv
        have hwritten : writtenBefore now st d .nextStart = withStartFlags st d' := rfl
        dsimp only
        rw [hwritten, nextRun_of_failure d' hconv, hrun, htime]
        cases st.tellsStart <;> rfl

end Observer

/-! ## Reports -/

/-- The programs and the epoch which an entry of a log brings, if its status says what starts
next and the observer gets through to it. -/
def startReport : LogEntry ProtobufDevice → Option (Option PbVal × Option PbVal)
  | .heard n met =>
    if (decodedStatus n.pt).any fun st => reaches n.clock st met .nextStart && st.tellsStart then
      some (pbField (frameBlock n.pt) 9, pbField (frameBlock n.pt) 10)
    else none
  | .wrote _ => none

theorem startReport_heard (n : Notice) (met : ProtobufDevice) : startReport (.heard n met) =
    if (decodedStatus n.pt).any fun st => reaches n.clock st met .nextStart && st.tellsStart then
      some (pbField (frameBlock n.pt) 9, pbField (frameBlock n.pt) 10)
    else none := rfl

section Run

variable (replies : ℕ → Reply) (utcOffset : UtcOffset)

theorem nextRun_hears (n : Notice) (w : World ProtobufDevice) :
    (w.hears (protobufRadio replies utcOffset) n).dev.nextRun =
      ((startReport (.heard n w.dev)).map fun reported =>
        storedStart reported w.dev.state.nextStartAt).getD w.dev.nextRun := by
  rw [dev_hears, nextRun_observe, startReport_heard]
  cases hst : decodedStatus n.pt with
  | none => rfl
  | some st =>
    rw [Option.bind_some, Option.any_some, ← (reports_of_decodedStatus hst).2]
    split_ifs <;> rfl

theorem register_nextStartFlags : Register (protobufRadio replies utcOffset)
    (fun e => (startReport e).map fun reported => reported.1.filter PbVal.truthy)
    (fun d => d.nextRun.1) where
  hears n w := by
    rw [nextRun_hears]
    cases startReport (.heard n w.dev) <;> rfl
  writes _ := rfl

theorem register_nextStartAt : Register (protobufRadio replies utcOffset)
    (fun e => (startReport e).bind startTime) (fun d => d.nextRun.2) where
  hears n w := by
    rw [nextRun_hears]
    cases startReport (.heard n w.dev) <;> rfl
  writes _ := rfl

/-- After a run the programs are those of the last report, and the time is the last one to which
a report came. -/
theorem nextRun_after_run (ops : List ProtobufOp) (w : World ProtobufDevice) :
    ∃ new, (after (ProtobufOp.run (protobufRadio replies utcOffset) ops) w).log = w.log ++ new ∧
      (after (ProtobufOp.run (protobufRadio replies utcOffset) ops) w).dev.nextRun =
        (((lastSaid startReport new).map fun reported => reported.1.filter PbVal.truthy).getD
            w.dev.nextRun.1,
          (lastSaid (fun e => (startReport e).bind startTime) new).getD w.dev.nextRun.2) := by
  obtain ⟨new, hlog, hflags⟩ := (register_nextStartFlags replies utcOffset).moves_run
    (fun _ _ h => congrArg ObserverFields.nextStartFlags h) ops w
  obtain ⟨new', hlog', htime⟩ := (register_nextStartAt replies utcOffset).moves_run
    (fun _ _ h => congrArg ObserverFields.nextStartAt h) ops w
  obtain rfl : new' = new := List.append_cancel_left (hlog'.symm.trans hlog)
  rw [lastSaid_map] at hflags
  exact ⟨new', hlog, Prod.ext hflags htime⟩

end Run

/-! ## What a device reports -/

/-- The programs of a device which start next, slot A in the lowest bit, and when. -/
structure NextStart where
  slots : ℕ
  epoch : ℕ
  time : DateTime
  armed : slots ≠ 0
  later : epoch ≠ 0
  time_eq : DateTime.fromTimestamp epoch = .ok time

theorem truthy_int {k : ℕ} (h : k ≠ 0) : (PbVal.int k).truthy = true := by
  simpa [PbVal.truthy] using h

theorem startTime_of_falsy {reported : Option PbVal × Option PbVal}
    (h : reported.1.any PbVal.truthy = false) : startTime reported = some none := by
  rw [startTime, h, if_neg Bool.false_ne_true]

theorem startTime_of_truthy {flags : PbVal} {epoch : Option PbVal} (h : flags.truthy = true) :
    startTime (some flags, epoch) = (timestampOf epoch).toOption :=
  if_pos h

/-- An epoch which is absent, 0 or empty is no time. -/
theorem timestampOf_of_falsy {epoch : Option PbVal} (h : epoch.any PbVal.truthy = false) :
    timestampOf epoch = .ok none := by
  have hzero : orZero epoch = .int 0 := by
    cases epoch with
    | none => rfl
    | some v => exact if_neg (by simpa using h)
  rw [timestampOf, hzero]
  rfl

theorem NextStart.timestampOf_epoch (n : NextStart) :
    timestampOf (some (.int n.epoch)) = .ok (some n.time) := by
  have hzero : orZero (some (.int n.epoch)) = .int n.epoch := if_pos (truthy_int n.later)
  rw [timestampOf, hzero]
  split
  · next h => exact absurd (PbVal.int.inj h) n.later
  · next k hk h =>
    obtain rfl := PbVal.int.inj h
    rw [n.time_eq]
    rfl
  · next b h => cases h

end OrbitBhyve.Devices
