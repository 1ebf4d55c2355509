import OrbitBhyve.Devices.Forgetting
import OrbitBhyve.Devices.Mesh
import OrbitBhyve.Foundation.Runs

/-!
# The off time along a run

Both observers pass a countdown through the same guard, which moves the off time
only when the report is more than fifteen seconds earlier. So along running
reports the off time is never later than it was, nor later than any report by
more than these seconds.
-/

namespace OrbitBhyve.Devices

open Foundation Python Wire

/-! ## The guard -/

section Guard

variable {now newOff off : DateTime} {expected : Option DateTime}

theorem guardedOff_of_ok {limit : DateTime} (h : off.addSeconds (-15) = .ok limit)
    (newOff : DateTime) :
    guardedOff (some off) newOff = if newOff < limit then some newOff else some off := by
  have hmoves : movesOffTime (some off) newOff = .ok (decide (newOff < limit)) := by
    unfold movesOffTime
    dsimp only
    rw [h]
    rfl
  unfold guardedOff
  rw [hmoves]
  by_cases hlt : newOff < limit
  · rw [decide_eq_true hlt, if_pos hlt]
  · rw [decide_eq_false hlt, if_neg hlt]

theorem guardedOff_of_error {e : PyErr} (h : off.addSeconds (-15) = .error e)
    (newOff : DateTime) : guardedOff (some off) newOff = some off := by
  have hmoves : movesOffTime (some off) newOff = .error e := by
    unfold movesOffTime
    dsimp only
    rw [h]
    rfl
  unfold guardedOff
  rw [hmoves]

theorem guardedOff_le (h : expected = some off) (newOff : DateTime) :
    ∃ off', guardedOff expected newOff = some off' ∧ off' ≤ off := by
  subst h
  cases hlimit : off.addSeconds (-15) with
  | error e => exact ⟨off, guardedOff_of_error hlimit newOff, le_refl off.micros⟩
  | ok limit =>
    have hmicros := DateTime.addSeconds_eq_ok.mp hlimit
    rw [guardedOff_of_ok hlimit]
    split_ifs with hlt
    · have hearlier := DateTime.lt_def.mp hlt
      exact ⟨newOff, rfl, DateTime.le_def.mpr (by omega)⟩
    · exact ⟨off, rfl, le_refl off.micros⟩

/-- What the guard leaves is no later than the candidate by more than the fifteen seconds. -/
theorem guardedOff_bound (h : guardedOff expected newOff = some off) :
    off.micros ≤ newOff.micros + 15 * 1000000 := by
  cases expected with
  | none =>
    cases h
    omega
  | some before =>
    cases hlimit : before.addSeconds (-15) with
    | error e =>
      -- the sum is out of the calendar, so the off time lies in its first fifteen seconds
      rw [guardedOff_of_error hlimit] at h
      cases h
      by_contra hfar
      have hlo := newOff.lo
      have hhi := off.hi
      have hsum : off.addSeconds (-15) = .ok ⟨off.micros - 15 * 1000000, by omega, by omega⟩ :=
        DateTime.addSeconds_eq_ok.mpr (by dsimp only; omega)
      rw [hsum] at hlimit
      cases hlimit
    | ok limit =>
      have hmicros := DateTime.addSeconds_eq_ok.mp hlimit
      rw [guardedOff_of_ok hlimit] at h
      split_ifs at h with hlt
      · cases h
        omega
      · cases h
        have hge := mt DateTime.lt_def.mpr hlt
        omega

theorem countdownOff_le (h : expected = some off) (countdown : Option ℕ) :
    ∃ off', countdownOff now countdown expected = some off' ∧ off' ≤ off := by
  unfold countdownOff
  cases countdown with
  | none => exact ⟨off, h, le_refl off.micros⟩
  | some r =>
    dsimp only
    cases now.addSeconds r with
    | error e => exact ⟨off, h, le_refl off.micros⟩
    | ok newOff => exact guardedOff_le h newOff

/-- After a countdown the off time is set and within the slack of it, or the countdown ends
beyond the calendar. -/
theorem countdownOff_bound (now : DateTime) (r : ℕ) (expected : Option DateTime) :
    (∃ e, now.addSeconds r = .error e) ∨
      ∃ off, countdownOff now (some r) expected = some off ∧
        off.micros ≤ now.micros + (r + 15) * 1000000 := by
  cases hsum : now.addSeconds r with
  | error e => exact Or.inl ⟨e, rfl⟩
  | ok newOff =>
    obtain ⟨off, hoff⟩ := Option.isSome_iff_exists.mp (RunReport.isSome_guardedOff expected newOff)
    have hmicros := DateTime.addSeconds_eq_ok.mp hsum
    have hbound := guardedOff_bound hoff
    refine Or.inr ⟨off, ?_, by omega⟩
    unfold countdownOff
    dsimp only
    rw [hsum]
    exact hoff

end Guard

/-! ## Runs of reports -/

/-- A device which decides its run by the reports among the frames. -/
structure RunObserver (δ : Type) where
  observe : DateTime → Bytes → δ → δ
  view : δ → RunView
  report : DateTime → Bytes → δ → Option RunReport
  hears : ∀ now pt d, view (observe now pt d) = (view d).hears now (report now pt d)

/-- `apply_status_plaintext`. -/
def protobufObserver : RunObserver ProtobufDevice where
  observe := observe
  view d := d.state.run
  report _ pt _ := protobufReport pt
  hears := run_observe

def meshObserver : RunObserver Ht25Device where
  observe := meshObserve
  view := Ht25Device.run
  report := meshReport
  hears := run_meshObserve

namespace RunObserver

variable {δ : Type} (O : RunObserver δ)

def step (d : δ) (n : Notice) : δ := O.observe n.clock n.pt d

def offAt (d : δ) : Option DateTime := (O.view d).expectedOffAt

/-- The frame is no idle report and no ack of a start: it says that the device runs, or nothing. -/
def Running (d : δ) (n : Notice) : Prop :=
  ∀ rep ∈ O.report n.clock n.pt d, ∃ countdown, rep = .running countdown

/-- The off time never moves later along running reports, and it is at most fifteen seconds
later than every one of them which counts. -/
structure TracksReports (counts : δ → Notice → ℕ → Prop) : Prop where
  notLater : ∀ (d : δ) (ns : List Notice) (off : DateTime), StepsMeet O.step O.Running d ns →
    O.offAt d = some off → ∃ off', O.offAt (run O.step d ns) = some off' ∧ off' ≤ off
  bound : ∀ (d : δ) (before rest : List Notice) (n : Notice) (r : ℕ),
    StepsMeet O.step O.Running d (before ++ n :: rest) →
    counts (run O.step d before) n r →
    ∀ off, O.offAt (run O.step d (before ++ n :: rest)) = some off →
      off.micros ≤ n.clock.micros + (r + 15) * 1000000
  isSome : ∀ (d : δ) (before rest : List Notice) (n : Notice) (r : ℕ),
    StepsMeet O.step O.Running d (before ++ n :: rest) →
    counts (run O.step d before) n r →
    ∀ sum, n.clock.addSeconds r = .ok sum →
      (O.offAt (run O.step d (before ++ n :: rest))).isSome

variable {O} {d : δ} {n : Notice} {off : DateTime}

theorem offAt_step_le (hrunning : O.Running d n) (h : O.offAt d = some off) :
    ∃ off', O.offAt (O.step d n) = some off' ∧ off' ≤ off := by
  unfold offAt step at *
  rw [O.hears]
  cases hrep : O.report n.clock n.pt d with
  | none => exact ⟨off, h, le_refl off.micros⟩
  | some rep =>
    obtain ⟨countdown, rfl⟩ := hrunning rep hrep
    exact countdownOff_le h countdown

theorem offAt_run_le {ns : List Notice} (hrunning : StepsMeet O.step O.Running d ns)
    (h : O.offAt d = some off) :
    ∃ off', O.offAt (run O.step d ns) = some off' ∧ off' ≤ off := by
  have hstep : ∀ (d : δ) (n : Notice), (∃ off', O.offAt d = some off' ∧ off' ≤ off) →
      O.Running d n → ∃ off', O.offAt (O.step d n) = some off' ∧ off' ≤ off := by
    rintro d n ⟨off', hoff', hle⟩ hrunning
    obtain ⟨off'', hoff'', hle'⟩ := offAt_step_le hrunning hoff'
    exact ⟨off'', hoff'', le_trans (DateTime.le_def.mp hle') (DateTime.le_def.mp hle)⟩
  exact run_invariant hstep ⟨off, h, le_refl off.micros⟩ hrunning

/-- The off time after a report, and after any running reports behind it. -/
theorem offAt_run_bound {ns : List Notice} {r : ℕ}
    (hrunning : StepsMeet O.step O.Running (O.step d n) ns)
    (hrep : O.report n.clock n.pt d = some (.running (some r))) :
    (∃ e, n.clock.addSeconds r = .error e) ∨
      ∃ off, O.offAt (run O.step (O.step d n) ns) = some off ∧
        off.micros ≤ n.clock.micros + (r + 15) * 1000000 := by
  have hstep : O.offAt (O.step d n) = countdownOff n.clock (some r) (O.offAt d) := by
    unfold offAt step
    rw [O.hears, hrep]
    rfl
  rcases countdownOff_bound n.clock r (O.offAt d) with herr | ⟨off, hoff, hbound⟩
  · exact Or.inl herr
  · obtain ⟨off', hoff', hle⟩ := offAt_run_le hrunning (hstep.trans hoff)
    exact Or.inr ⟨off', hoff', le_trans (DateTime.le_def.mp hle) hbound⟩

theorem tracksReports {counts : δ → Notice → ℕ → Prop}
    (hcounts : ∀ d n r, counts d n r → O.report n.clock n.pt d = some (.running (some r))) :
    O.TracksReports counts where
  notLater _ _ _ hrunning hoff := offAt_run_le hrunning hoff
  bound d before rest n r hrunning hcount off hoff := by
    have hrest := hrunning.right_of_append
    rw [run_append, run_cons] at hoff
    rcases offAt_run_bound hrest.2 (hcounts _ _ _ hcount) with ⟨e, herr⟩ | ⟨off', hoff', hbound⟩
    · -- the countdown ends beyond the calendar, and the off time lies within
      by_contra hfar
      have hlo := n.clock.lo
      have hhi := off.hi
      have hsum : n.clock.addSeconds r =
          .ok ⟨n.clock.micros + r * 1000000, by omega, by omega⟩ :=
        DateTime.addSeconds_eq_ok.mpr rfl
      rw [hsum] at herr
      cases herr
    · rw [hoff'] at hoff
      cases hoff
      exact hbound
  isSome d before rest n r hrunning hcount sum hsum := by
    have hrest := hrunning.right_of_append
    rw [run_append, run_cons]
    rcases offAt_run_bound hrest.2 (hcounts _ _ _ hcount) with ⟨e, herr⟩ | ⟨off', hoff', -⟩
    · rw [hsum] at herr
      cases herr
    · rw [hoff']
      rfl

end RunObserver

/-! ## The countdown of a status -/

/-- A CRC-valid frame with the run-state 4 and `r` seconds to go in its `#16`. -/
structure CountsDown (pt : Bytes) (r : ℕ) : Prop where
  runState : pbField (frameBlock pt) 1 = some (.int 4)
  remaining : pbSubfield (frameBlock pt) 6 5 = some (.int r)

/-- It decodes, its battery reading is a number, and so is its station. -/
structure ReadableCountdown (pt : Bytes) (r : ℕ) : Prop extends CountsDown pt r where
  decodes : (frameStatus pt).isSome
  station : IsScalar (activeStationOf (frameBlock pt))

section Status

variable {pt : Bytes} {st : DeviceStatus} {r : ℕ}

theorem statusBlock_eq {s : Option (List Field)} (h : statusBlock s = .ok st) :
    st.runState = pbField s 1 ∧ st.activeStation = activeStationOf s ∧
      st.secondsRemaining = secondsRemainingOf s := by
  unfold statusBlock at h
  cases hfaults : faultsOf s with
  | error e =>
    rw [hfaults] at h
    cases h
  | ok faults =>
    cases hrain : rainDelayOf s with
    | error e =>
      rw [hfaults, hrain] at h
      cases h
    | ok rain =>
      rw [hfaults, hrain] at h
      cases h
      exact ⟨rfl, rfl, rfl⟩

theorem extractStatus_block {protobuf : Bytes} (hdec : decodeInner pt = some protobuf)
    (hst : extractStatus protobuf = .ok st) (hrun : pbField (frameBlock pt) 1 = some (.int 4)) :
    st.isWatering = some true ∧ st.activeStation = activeStationOf (frameBlock pt) ∧
      st.secondsRemaining = secondsRemainingOf (frameBlock pt) := by
  have htop : frameTop pt = pbParse protobuf := by
    rw [frameTop, hdec]
    rfl
  unfold extractStatus at hst
  unfold frameBlock at hrun ⊢
  rw [htop] at hrun ⊢
  cases hparse : pbParse protobuf with
  | none =>
    rw [hparse] at hrun
    cases hrun
  | some top =>
    rw [hparse] at hst hrun
    obtain ⟨block, hblock, rfl⟩ := extractTop_eq_ok.mp hst
    unfold statusOf at hblock
    cases hfield : pbField (some top) 16 with
    | none =>
      rw [hfield] at hrun
      cases hrun
    | some v =>
      cases v with
      | int k =>
        rw [hfield] at hrun
        cases hrun
      | bytes status =>
        rw [hfield] at hblock hrun
        obtain ⟨hstate, hstation, hseconds⟩ := statusBlock_eq hblock
        refine ⟨?_, hstation, hseconds⟩
        dsimp only at hrun ⊢
        rw [hstate, hrun]
        rfl

theorem ReadableCountdown.report (h : ReadableCountdown pt r) :
    protobufReport pt = some (.running (some r)) := by
  obtain ⟨st, hst⟩ := Option.isSome_iff_exists.mp h.decodes
  obtain ⟨protobuf, hdec, hextract, -⟩ := of_frameStatus hst
  obtain ⟨hwatering, hstation, hseconds⟩ := extractStatus_block hdec hextract h.runState
  have hscalar : IsScalar st.activeStation := hstation ▸ h.station
  have hremaining : st.secondsRemaining = some r := by
    rw [hseconds, secondsRemainingOf, h.remaining]
  have hcountdown : statusCountdown st = some r := by
    unfold statusCountdown
    split
    · next b hb =>
      rw [hb] at hscalar
      exact hscalar.elim
    · exact hremaining
  rw [protobufReport, hst, Option.bind_some, statusReport, hwatering, Option.map_some, hcountdown]
  rfl

theorem ReadableCountdown.running {n : Notice} (h : ReadableCountdown n.pt r)
    (d : ProtobufDevice) : protobufObserver.Running d n :=
  fun _ hrep => ⟨some r, Option.some.inj (hrep.symm.trans h.report)⟩

end Status

/-! ## The countdown of a mesh frame -/

/-- A STATUS of a running device whose countdown of `r` seconds passes the cross-check. -/
structure MeshCountsDown (pt : Bytes) (r : ℕ) : Prop where
  reply : isMeshReply pt = true
  status : byteAt pt 3 = SEQ_STATUS
  mode : byteAt pt 5 = 0x04
  long : 12 ≤ pt.length
  crossCheck : meshPlausible pt = true
  remaining : meshRemaining pt = r

/-- Its device knows when the run started, or can work it out. -/
structure MeshReadable (d : Ht25Device) (n : Notice) (r : ℕ) : Prop extends
    MeshCountsDown n.pt r where
  start : ∃ start,
    synthesizedStart n.clock (wordAt n.pt 9 - meshRemaining n.pt) d.state.startedAt = .ok start

theorem MeshReadable.report {d : Ht25Device} {n : Notice} {r : ℕ} (h : MeshReadable d n r) :
    meshReport n.clock n.pt d = some (.running (some r)) := by
  obtain ⟨start, hstart⟩ := h.start
  unfold meshReport modeReport meshCountdown
  rw [if_pos ⟨h.reply, h.status⟩, if_pos h.mode, if_pos ⟨h.long, h.crossCheck⟩, hstart, h.remaining]

theorem MeshReadable.running {d : Ht25Device} {n : Notice} {r : ℕ} (h : MeshReadable d n r) :
    meshObserver.Running d n :=
  fun _ hrep => ⟨some r, Option.some.inj (hrep.symm.trans h.report)⟩

/-- Both families keep the off time, along running reports, from moving later and within
fifteen seconds of every countdown. -/
theorem offTime_tracks_reports :
    protobufObserver.TracksReports (fun _ n r => ReadableCountdown n.pt r) ∧
      meshObserver.TracksReports MeshReadable :=
  ⟨RunObserver.tracksReports fun _ _ _ h => h.report,
    RunObserver.tracksReports fun _ _ _ h => h.report⟩

/-- A STATUS with 10 s of 600 s to go. -/
def tenSecondsFrame : Bytes :=
  [0xD7, 0x47, 0x42, 0x02, 0x40, 0x04, 0x80, 0x02, 0x00, 0x58, 0x02, 0x00]

def toldCountdown : Notice := ⟨countdownReport.frame, .epoch⟩

/-- A countdown of 300 s which is told twice, and one of 10 s. -/
theorem offTime_tracks_reports_once :
    (∃ off, protobufObserver.offAt (run protobufObserver.step {}
        [toldCountdown, toldCountdown]) = some off ∧
      off.micros ≤ 315000000) ∧
    ∃ off, meshObserver.offAt (run meshObserver.step freshHt25 [⟨tenSecondsFrame, .epoch⟩]) =
        some off ∧ off.micros ≤ 25000000 := by
  obtain ⟨hprotobuf, hmesh⟩ := offTime_tracks_reports
  constructor
  · have hreadable : ReadableCountdown toldCountdown.pt 300 :=
      { runState := by decide +kernel
        remaining := by decide +kernel
        decodes := by decide +kernel
        station := by decide +kernel }
    have hrun : StepsMeet protobufObserver.step protobufObserver.Running {}
        ([] ++ toldCountdown :: [toldCountdown]) :=
      ⟨hreadable.running _, hreadable.running _, trivial⟩
    have hsum : toldCountdown.clock.addSeconds (300 : ℕ) =
        .ok ⟨300000000, by decide, by decide⟩ := DateTime.addSeconds_eq_ok.mpr (by decide)
    obtain ⟨off, hoff⟩ := Option.isSome_iff_exists.mp
      (hprotobuf.isSome {} [] [toldCountdown] toldCountdown 300 hrun hreadable _ hsum)
    exact ⟨off, hoff, hprotobuf.bound {} [] [toldCountdown] toldCountdown 300 hrun hreadable off hoff⟩
  · have hreadable : MeshReadable freshHt25 ⟨tenSecondsFrame, .epoch⟩ 10 :=
      { reply := by decide
        status := by decide
        mode := by decide
        long := by decide
        crossCheck := by decide
        remaining := by decide
        start := ⟨⟨-590000000, by decide, by decide⟩, by decide⟩ }
    have hrun : StepsMeet meshObserver.step meshObserver.Running freshHt25
        ([] ++ ⟨tenSecondsFrame, .epoch⟩ :: []) :=
      ⟨hreadable.running, trivial⟩
    have hsum : DateTime.epoch.addSeconds (10 : ℕ) = .ok ⟨10000000, by decide, by decide⟩ :=
      DateTime.addSeconds_eq_ok.mpr (by decide)
    obtain ⟨off, hoff⟩ := Option.isSome_iff_exists.mp
      (hmesh.isSome freshHt25 [] [] _ 10 hrun hreadable _ hsum)
    exact ⟨off, hoff, hmesh.bound freshHt25 [] [] _ 10 hrun hreadable off hoff⟩

/-- `#16` with the run-state 4 and 10 s to go, beside a battery reading, a station or fault flags
which are a string. -/
def oddCountdowns : List Body := [
  ⟨[0x82, 0x01, 0x06, 0x08, 0x04, 0x32, 0x02, 0x28, 0x0A, 0xF2, 0x02, 0x02, 0x1A, 0x00],
    by decide⟩,
  ⟨[0x82, 0x01, 0x0E, 0x08, 0x04, 0x12, 0x06, 0x12, 0x04, 0x1A, 0x02, 0x0A, 0x00, 0x32, 0x02, 0x28,
    0x0A], by decide⟩,
  ⟨[0x82, 0x01, 0x0B, 0x08, 0x04, 0x3A, 0x03, 0x12, 0x01, 0x41, 0x32, 0x02, 0x28, 0x0A],
    by decide⟩]

def countingDevice : ProtobufDevice := observe .epoch countdownReport.frame {}

/-- At the start of time, and to a device which does not know since when it runs. -/
def tenSecondsLeft : Notice where
  pt := tenSecondsFrame
  clock := ⟨minMicros, by decide, by decide⟩

def unstartedDevice : Ht25Device :=
  { freshHt25 with state := { isWatering := true, expectedOffAt := some .epoch } }

/-- Where the decoder raises before it comes by the countdown, the off time stays behind it. -/
theorem offTime_behind_countdown :
    (∀ report ∈ oddCountdowns, CountsDown report.frame 10 ∧
      protobufObserver.Running countingDevice ⟨report.frame, .epoch⟩ ∧
      ∃ off, protobufObserver.offAt
          (protobufObserver.step countingDevice ⟨report.frame, .epoch⟩) = some off ∧
        DateTime.epoch.micros + (10 + 15) * 1000000 < off.micros) ∧
      MeshCountsDown tenSecondsLeft.pt 10 ∧
      meshObserver.Running unstartedDevice tenSecondsLeft ∧
      ∃ off, meshObserver.offAt (meshObserver.step unstartedDevice tenSecondsLeft) = some off ∧
        tenSecondsLeft.clock.micros + (10 + 15) * 1000000 < off.micros := by
  have hreports : ∀ report ∈ oddCountdowns,
      pbField (frameBlock report.frame) 1 = some (.int 4) ∧
      pbSubfield (frameBlock report.frame) 6 5 = some (.int 10) ∧
      protobufReport report.frame ∈ [none, some (.running none)] ∧
      protobufObserver.offAt (protobufObserver.step countingDevice ⟨report.frame, .epoch⟩) =
        some ⟨300000000, by decide, by decide⟩ := by
    decide +kernel
  refine ⟨?_, ⟨by decide, by decide, by decide, by decide, by decide, by decide⟩, ?_, ?_⟩
  · intro report hmem
    obtain ⟨hstate, hseconds, hreport, hoff⟩ := hreports report hmem
    refine ⟨⟨hstate, hseconds⟩, ?_, ⟨_, hoff, by decide⟩⟩
    intro rep hrep
    have hrep' : protobufReport report.frame = some rep := hrep
    rw [hrep'] at hreport
    simp at hreport
    exact ⟨none, hreport⟩
  · intro rep hrep
    have hreport : meshReport tenSecondsLeft.clock tenSecondsLeft.pt unstartedDevice =
        some (.running none) := by
      decide +kernel
    have hrep' := hreport.symm.trans hrep
    exact ⟨none, (Option.some.inj hrep').symm⟩
  · exact ⟨.epoch, by decide +kernel, by decide⟩

end OrbitBhyve.Devices
