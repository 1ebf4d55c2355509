import OrbitBhyve.Devices.Observer

/-!
# A status forgets

A frame whose `#16` block is well-typed and carries a run-state decides the
flag, the next start, the rain delay unless it reports one, and everything about
a run unless it reports one. What the device was before has no part in it,
whatever blocks the frame has or leaves out.
-/

namespace OrbitBhyve.Devices

open Foundation Python Wire

/-! ## Well-typed statuses -/

/-- Absent, or a varint. -/
def IsScalar : Option PbVal → Prop
  | some (.bytes _) => False
  | _ => True

/-- Absent, or a submessage. -/
def IsBlock : Option PbVal → Prop
  | some (.int _) => False
  | _ => True

instance : DecidablePred IsScalar
  | none => .isTrue trivial
  | some (.int _) => .isTrue trivial
  | some (.bytes _) => .isFalse id

instance : DecidablePred IsBlock
  | none => .isTrue trivial
  | some (.bytes _) => .isTrue trivial
  | some (.int _) => .isFalse id

/-- The scalars which the decoder reads in a `#16` block, and the blocks it looks into. -/
def scalarPaths : List (List ℕ) :=
  [[1], [14, 3], [2, 1], [9], [10], [6, 4], [2, 2, 3, 1], [6, 5],
    [7, 1], [7, 2], [7, 3], [7, 4], [7, 5], [7, 6], [7, 7], [7, 8], [7, 9], [7, 10],
    [13, 1], [13, 3], [13, 4]]

def blockPaths : List (List ℕ) := [[14], [2], [2, 2], [2, 2, 3], [6], [7], [13]]

def frameTop (pt : Bytes) : Option (List Field) := (decodeInner pt).bind pbParse

def frameBlock (pt : Bytes) : Option (List Field) :=
  match pbField (frameTop pt) 16 with
  | some (.bytes status) => pbParse status
  | _ => none

/-- The frame carries the run-state `rs` in a well-typed `#16` block, and the times
it names are times. -/
structure WellTypedStatus (now : DateTime) (pt : Bytes) (rs : ℕ) : Prop where
  runState : pbPath (frameBlock pt) [1] = some (.int rs)
  scalars : ∀ path ∈ scalarPaths, IsScalar (pbPath (frameBlock pt) path)
  blocks : ∀ path ∈ blockPaths, IsBlock (pbPath (frameBlock pt) path)
  remaining : ∀ n : ℕ, pbPath (frameBlock pt) [6, 5] = some (.int n) →
    ∃ off, now.addSeconds n = .ok off
  expiry : ∀ n, pbPath (frameBlock pt) [13, 3] = some (.int n) →
    ∃ t, DateTime.fromTimestamp n = .ok t
  epoch : ∀ n, pbPath (frameBlock pt) [10] = some (.int n) →
    ∃ t, DateTime.fromTimestamp n = .ok t

/-- The battery reading of the frame, which a `#46` gives where the `#16` has none. -/
def frameBattery (pt : Bytes) : Option PbVal :=
  batteryOf (pbPath (frameBlock pt) [14, 3]) (frameTop pt)

theorem IsScalar.orZero {v : Option PbVal} (h : IsScalar v) :
    orZero v = .int 0 ∨ ∃ n, v = some (.int n) ∧ orZero v = .int n := by
  match v, h with
  | none, _ => exact .inl rfl
  | some (.int n), _ =>
    unfold Devices.orZero
    dsimp only
    split_ifs
    · exact .inr ⟨n, rfl, rfl⟩
    · exact .inl rfl

theorem IsScalar.timestampOf {v : Option PbVal} (h : IsScalar v)
    (hrange : ∀ n, v = some (.int n) → ∃ t, DateTime.fromTimestamp n = .ok t) :
    ∃ t, timestampOf v = .ok t := by
  unfold Devices.timestampOf
  obtain hzero | ⟨n, hv, hn⟩ := h.orZero
  · exact ⟨none, by rw [hzero]; rfl⟩
  · obtain ⟨t, ht⟩ := hrange n hv
    rw [hn]
    cases n with
    | zero => exact ⟨none, rfl⟩
    | succ n => exact ⟨some t, congrArg (Except.map some) ht⟩

theorem pbPath_cons_of_bytes {s : Option (List Field)} {n m : ℕ} {path : List ℕ} {blob : Bytes}
    (h : pbField s n = some (.bytes blob)) :
    pbPath s (n :: m :: path) = pbPath (pbParse blob) (m :: path) := by
  rw [pbPath, h]

theorem faultsOf_ok {s : Option (List Field)}
    (h : ∀ path ∈ scalarPaths, IsScalar (pbPath s path)) : ∃ faults, faultsOf s = .ok faults := by
  unfold faultsOf
  split
  · next flt hflt =>
    have hlo := h [7, 2] (by decide)
    have hhi := h [7, 3] (by decide)
    rw [pbPath_cons_of_bytes hflt, pbPath] at hlo hhi
    obtain ⟨flags, hflags⟩ : ∃ flags,
        stationFaultFlags (pbField (pbParse flt) 2) (pbField (pbParse flt) 3) = .ok flags := by
      unfold stationFaultFlags
      obtain hlo | ⟨l, -, hlo⟩ := hlo.orZero <;> obtain hhi | ⟨r, -, hhi⟩ := hhi.orZero <;>
        exact ⟨_, by rw [hlo, hhi]⟩
    exact ⟨_, by simp only [faultBlock, hflags, bind, Except.bind]; rfl⟩
  · exact ⟨none, rfl⟩

theorem rainDelayOf_ok {s : Option (List Field)}
    (h : ∀ path ∈ scalarPaths, IsScalar (pbPath s path)) :
    ∃ block, rainDelayOf s = .ok block ∧ block.expiry = pbPath s [13, 3] ∧
      (notRainDelay (pbField s 1) = true → block.active ≠ some true) := by
  unfold rainDelayOf
  split
  · next rd hrd =>
    have hminutes := h [13, 1] (by decide)
    rw [pbPath_cons_of_bytes hrd, pbPath] at hminutes
    obtain ⟨enabled, henabled⟩ : ∃ enabled,
        rainDelayEnabled (pbField (pbParse rd) 1) (pbField (pbParse rd) 4) = .ok enabled := by
      unfold rainDelayEnabled
      split
      · exact ⟨_, rfl⟩
      · exact ⟨_, rfl⟩
      · next b hb =>
        rw [hb] at hminutes
        exact hminutes.elim
      · exact ⟨_, rfl⟩
    refine ⟨_, by simp only [henabled, bind, Except.bind]; rfl, ?_, fun hnot => ?_⟩
    · rw [pbPath_cons_of_bytes hrd, pbPath]
    · simp [hnot]
  · next hrd =>
    refine ⟨_, rfl, ?_, fun _ => by simp⟩
    unfold pbPath
    split
    · next blob hblob => exact absurd hblob (hrd blob)
    · rfl

/-- A status which the observer gets through, with its run-state. -/
structure Readable (now : DateTime) (rs : ℕ) (st : DeviceStatus) : Prop where
  runState : st.runState = some (.int rs)
  isWatering : st.isWatering = some (decide (rs = 4))
  station : IsScalar st.activeStation
  remaining : ∀ r, st.secondsRemaining = some r → ∃ off, now.addSeconds r = .ok off
  expiry : ∃ ends, timestampOf st.rainDelayExpiry = .ok ends
  epoch : ∃ start, timestampOf st.nextStartEpoch = .ok start
  rain : rs ≠ 3 → st.rainDelayActive ≠ some true

theorem WellTypedStatus.isScalar_activeStationOf {now : DateTime} {pt : Bytes} {rs : ℕ}
    (h : WellTypedStatus now pt rs) : IsScalar (activeStationOf (frameBlock pt)) := by
  unfold activeStationOf
  split
  · trivial
  · exact h.scalars [2, 2, 3, 1] (by decide)

theorem WellTypedStatus.status {now : DateTime} {pt : Bytes} {rs : ℕ}
    (h : WellTypedStatus now pt rs) :
    ∃ status, pbField (frameTop pt) 16 = some (.bytes status) ∧
      frameBlock pt = pbParse status := by
  have hstate := h.runState
  unfold frameBlock at hstate ⊢
  split at hstate
  · next status hstatus => exact ⟨status, hstatus, rfl⟩
  · simp [pbPath] at hstate

/-- What the decoder makes of a block without a type error in it. -/
theorem statusBlock_ok {s : Option (List Field)}
    (h : ∀ path ∈ scalarPaths, IsScalar (pbPath s path)) :
    ∃ st, statusBlock s = .ok st ∧ st.runState = pbField s 1 ∧
      st.batteryMv = pbPath s [14, 3] ∧ st.activeStation = activeStationOf s ∧
      st.secondsRemaining = secondsRemainingOf s ∧ st.rainDelayExpiry = pbPath s [13, 3] ∧
      st.nextStartEpoch = pbPath s [10] ∧
      (notRainDelay (pbField s 1) = true → st.rainDelayActive ≠ some true) := by
  obtain ⟨faults, hfaults⟩ := faultsOf_ok h
  obtain ⟨rain, hrain, hexpiry, hactive⟩ := rainDelayOf_ok h
  refine ⟨_, by simp only [statusBlock, hfaults, hrain, bind, Except.bind]; rfl, rfl, rfl, rfl,
    rfl, hexpiry, rfl, hactive⟩

theorem secondsRemainingOf_some {s : Option (List Field)} {n : ℕ}
    (h : secondsRemainingOf s = some n) : pbPath s [6, 5] = some (.int n) := by
  unfold secondsRemainingOf pbSubfield at h
  split at h
  · next m hm =>
    obtain rfl : m = n := by simpa using h
    exact hm
  · cases h

theorem frameStatus_of_ok {pt protobuf : Bytes} {st : DeviceStatus}
    (hdec : decodeInner pt = some protobuf) (hst : extractStatus protobuf = .ok st)
    (hbatt : IsScalar st.batteryMv) : frameStatus pt = some st := by
  unfold frameStatus
  rw [hdec]
  dsimp only
  rw [hst]
  dsimp only
  split
  · next b hb =>
    rw [hb] at hbatt
    exact hbatt.elim
  · rfl

/-- A well-typed frame whose battery reading is a number reaches the observer's last line. -/
theorem WellTypedStatus.frameStatus {now : DateTime} {pt : Bytes} {rs : ℕ}
    (h : WellTypedStatus now pt rs) (hbatt : IsScalar (frameBattery pt)) :
    ∃ st, frameStatus pt = some st ∧ Readable now rs st := by
  obtain ⟨status, hstatus, hblock⟩ := h.status
  obtain ⟨block, hok, hrun, hmv, hstation, hsec, hexpiry, hepoch, hactive⟩ :=
    statusBlock_ok h.scalars
  have hrs : block.runState = some (.int rs) := hrun.trans h.runState
  cases hdec : decodeInner pt with
  | none => simp [frameTop, hdec] at hstatus
  | some protobuf =>
    have htop : frameTop pt = pbParse protobuf := by rw [frameTop, hdec]; rfl
    cases hparse : pbParse protobuf with
    | none => simp [htop, hparse] at hstatus
    | some top =>
      rw [htop, hparse] at hstatus
      rw [hblock] at hok
      obtain ⟨st, hst, hsteq⟩ : ∃ st, extractStatus protobuf = .ok st ∧ st = { block with
          deviceClock := pbField (some top) 7
          batteryMv := batteryOf block.batteryMv (some top)
          isWatering := wateringOf block.runState (some top)
          flowTotal := pbSubfield (some top) 59 3
          flowRateGpm := flowRate (some top) } := by
        refine ⟨_, ?_, rfl⟩
        unfold extractStatus
        rw [hparse]
        exact extractTop_eq_ok.mpr ⟨block, by rw [statusOf, hstatus]; exact hok, rfl⟩
      have hbattery : IsScalar st.batteryMv := by
        rw [frameBattery, htop, hparse, ← hmv] at hbatt
        rwa [hsteq]
      refine ⟨st, frameStatus_of_ok hdec hst hbattery, ?_⟩
      rw [hsteq]
      refine ⟨hrs, ?_, ?_, fun r hr => h.remaining r ?_, ?_, ?_, fun hne => hactive ?_⟩
      · by_cases h4 : rs = 4 <;> simp [wateringOf, hrs, h4]
      · exact hstation ▸ h.isScalar_activeStationOf
      · exact secondsRemainingOf_some (hsec.symm.trans hr)
      · exact hexpiry ▸ (h.scalars [13, 3] (by decide)).timestampOf h.expiry
      · exact hepoch ▸ (h.scalars [10] (by decide)).timestampOf h.epoch
      · rw [← hrun, hrs]
        simpa [notRainDelay] using hne

/-! ## What it leaves behind -/

/-- Nothing is shown of a run. -/
structure RunCleared (s : DeviceState) : Prop where
  activeZone : s.activeZone = none
  secondsRemaining : s.secondsRemaining = none
  startedAt : s.startedAt = none
  expectedOffAt : s.expectedOffAt = none
  flowTotal : s.flowTotal = none
  flowGpm : s.flowGpm = some (.hundredths 0)
  flowGpmDevice : s.flowGpmDevice = none

/-- The flag and the fields above. -/
def runAndFlow (d : ProtobufDevice) : Bool × Option ℤ × Option ℤ × Option DateTime ×
    Option DateTime × Option PbVal × Option Reading × Option Reading :=
  (d.state.isWatering, d.state.activeZone, d.state.secondsRemaining, d.state.startedAt,
    d.state.expectedOffAt, d.state.flowTotal, d.state.flowGpm, d.state.flowGpmDevice)

theorem RunCleared.congr {d d' : ProtobufDevice} (h : RunCleared d.state)
    (heq : runAndFlow d' = runAndFlow d) : RunCleared d'.state := by
  simp only [runAndFlow, Prod.mk.injEq] at heq
  obtain ⟨-, hzone, hsec, hstart, hoff, htotal, hgpm, hdevice⟩ := heq
  exact ⟨hzone.trans h.activeZone, hsec.trans h.secondsRemaining, hstart.trans h.startedAt,
    hoff.trans h.expectedOffAt, htotal.trans h.flowTotal, hgpm.trans h.flowGpm,
    hdevice.trans h.flowGpmDevice⟩

/-- The off time of a device can be compared: fifteen seconds before it are a time too. -/
def OffTimeMovable (d : ProtobufDevice) : Prop :=
  ∀ off, d.state.expectedOffAt = some off → minMicros + 15 * 1000000 ≤ off.micros

theorem movesOffTime_ok {expected : Option DateTime}
    (h : ∀ off, expected = some off → minMicros + 15 * 1000000 ≤ off.micros)
    (newOff : DateTime) : ∃ moves, movesOffTime expected newOff = .ok moves := by
  cases expected with
  | none => exact ⟨true, rfl⟩
  | some off =>
    have hlo := h off rfl
    have hhi := off.hi
    have hlimit : off.addSeconds (-15) = .ok ⟨off.micros - 15000000, by omega, by omega⟩ :=
      DateTime.addSeconds_eq_ok.mpr (by ring)
    exact ⟨_, by rw [movesOffTime, hlimit]; rfl⟩

section Readable

variable {now : DateTime} {rs : ℕ} {st : DeviceStatus}

theorem anchorOffTime_ok {d : ProtobufDevice} (hd : OffTimeMovable d) (newOff : DateTime) :
    ∃ d', anchorOffTime newOff d = .ok () d' ∧ d'.state.isWatering = d.state.isWatering := by
  obtain ⟨moves, hmoves⟩ := movesOffTime_ok hd newOff
  have hrun : anchorOffTime newOff d =
      onlyIf moves (updState fun s => { s with expectedOffAt := some newOff }) d := by
    rw [anchorOffTime, run_bind_ok (run_get d), run_bind_ok (run_raising_ok hmoves d)]
  cases moves with
  | false => exact ⟨d, hrun, rfl⟩
  | true => exact ⟨_, hrun, rfl⟩

theorem applyCountdown_ok {remaining : Option ℕ}
    (h : ∀ r, remaining = some r → ∃ off, now.addSeconds r = .ok off) {d : ProtobufDevice}
    (hd : OffTimeMovable d) :
    ∃ d', applyCountdown now remaining d = .ok () d' ∧
      d'.state.isWatering = d.state.isWatering := by
  cases remaining with
  | none => exact ⟨d, rfl, rfl⟩
  | some r =>
    obtain ⟨off, hoff⟩ := h r rfl
    rw [applyCountdown, run_bind_ok (updState_returns _ d), run_bind_ok (run_raising_ok hoff _)]
    have hd' : OffTimeMovable
        (after (updState fun s => { s with secondsRemaining := some (r : ℤ) }) d) := hd
    exact anchorOffTime_ok hd' off

theorem Readable.applyWatering_ok (h : Readable now rs st) {d : ProtobufDevice}
    (hd : rs = 4 → OffTimeMovable d) :
    ∃ d', applyWatering now st d = .ok () d' ∧ d'.state.isWatering = decide (rs = 4) ∧
      (rs ≠ 4 → RunCleared d'.state) := by
  rw [applyWatering, h.isWatering]
  by_cases h4 : rs = 4
  · have hstation : ∀ b, st.activeStation ≠ some (.bytes b) := by
      intro b hb
      have := h.station
      rw [hb] at this
      exact this
    have hkeep : Keeps (fun d : ProtobufDevice => (d.state.isWatering, d.state.expectedOffAt))
        (applyActiveStation st.activeStation) := keeps_applyActiveStation fun _ _ => rfl
    rw [decide_eq_true h4]
    dsimp only
    rw [run_bind_ok (updState_returns _ d), run_bind_ok (markParsed_returns _),
      run_bind_ok (applyActiveStation_returns hstation _)]
    set d₁ := after markParsed (after (updState fun s => { s with isWatering := true }) d) with hd₁
    have hsame := hkeep.apply d₁
    have hmovable : OffTimeMovable (after (applyActiveStation st.activeStation) d₁) := by
      intro off hoff
      exact hd h4 off ((congrArg Prod.snd hsame).symm.trans hoff)
    obtain ⟨d', hrun, hflag⟩ := applyCountdown_ok h.remaining hmovable
    exact ⟨d', hrun, hflag.trans (congrArg Prod.fst hsame), fun hne => absurd h4 hne⟩
  · rw [decide_eq_false h4]
    exact ⟨_, rfl, rfl, fun _ => ⟨rfl, rfl, rfl, rfl, rfl, rfl, rfl⟩⟩

def nextStartOf (st : DeviceStatus) : Option PbVal × Option DateTime :=
  match st.nextStartFlags with
  | some flags =>
    if flags.truthy then (some flags, (timestampOf st.nextStartEpoch).toOption.join)
    else (none, none)
  | none => (none, none)

theorem Readable.applyRainDelay_returns (h : Readable now rs st) :
    Returns (applyRainDelay st) := by
  unfold applyRainDelay
  split
  · refine .ite ?_ (updState_returns _)
    obtain ⟨ends, hends⟩ := h.expiry
    rw [hends]
    exact .bind (updState_returns _) fun _ => rfl
  · exact .ite (updState_returns _) .pure

theorem Readable.nextStart_applyRest (h : Readable now rs st) (d : ProtobufDevice) :
    ((after (applyRest st) d).state.nextStartFlags, (after (applyRest st) d).state.nextStartAt) =
      nextStartOf st := by
  have hfaults : Returns (applyFaults st) :=
    .bind (.onlyIf (updState_returns _)) (.onlyIf (updState_returns _))
  rw [applyRest, h.applyRainDelay_returns.after_bind, hfaults.after_bind]
  set d' := after (applyFaults st) (after (applyRainDelay st) d)
  unfold applyNextStart nextStartOf
  cases st.nextStartFlags with
  | none =>
    rw [h.runState]
    rfl
  | some flags =>
    obtain ⟨start, hstart⟩ := h.epoch
    dsimp only
    rw [(updState_returns _).after_bind, hstart]
    cases flags.truthy with
    | false => rfl
    | true => rfl

theorem Readable.rain_applyRest (h : Readable now rs st) (hne : rs ≠ 3) (d : ProtobufDevice) :
    (after (applyRest st) d).rain = (some (.int 0), none) := by
  rw [Devices.rain_applyRest, rainAfter]
  have hactive := h.rain hne
  cases hrain : st.rainDelayActive with
  | some active =>
    cases active with
    | true => exact absurd hrain hactive
    | false => rfl
  | none =>
    have hnot : notRainDelay st.runState = true := by
      rw [h.runState]
      simpa [notRainDelay] using hne
    rw [hnot]
    rfl

end Readable

/-- What a frame with the run-state `rs` decides, whatever the device was before. -/
structure Decided (rs : ℕ) (nextStart : Option PbVal × Option DateTime) (s : DeviceState) :
    Prop where
  isWatering : s.isWatering = decide (rs = 4)
  nextStart : (s.nextStartFlags, s.nextStartAt) = nextStart
  rainDelay : rs ≠ 3 → s.rainDelayMinutes = some (.int 0) ∧ s.rainDelayEnds = none
  run : rs ≠ 4 → RunCleared s

theorem Readable.decided {now : DateTime} {rs : ℕ} {st : DeviceStatus} {pt : Bytes}
    (h : Readable now rs st) (hpt : frameStatus pt = some st) {d : ProtobufDevice}
    (hd : rs = 4 → OffTimeMovable d) : Decided rs (nextStartOf st) (observe now pt d).state := by
  obtain ⟨d', hsame, hobs⟩ := observe_of_frameStatus hpt now d
  have hd' : rs = 4 → OffTimeMovable d' := fun h4 off hoff =>
    hd h4 off ((congrArg ValveView.expectedOffAt hsame.valve).symm.trans hoff)
  obtain ⟨d'', hwatering, hflag, hcleared⟩ := h.applyWatering_ok hd'
  rw [hobs, after_bind_ok hwatering]
  have hkeep : Preserves (fun d : ProtobufDevice => d.state.isWatering = decide (rs = 4) ∧
      (rs ≠ 4 → RunCleared d.state)) (applyRest st) :=
    (keeps_applyRest (fun _ _ => rfl) (fun _ _ => rfl) (fun _ _ => rfl) (fun _ _ => rfl)
      (fun _ _ => rfl) fun _ _ => rfl : Keeps runAndFlow (applyRest st)).preserves
        fun _ _ heq hs => ⟨(congrArg Prod.fst heq).trans hs.1, fun hne => (hs.2 hne).congr heq⟩
  obtain ⟨hflag', hcleared'⟩ := hkeep d'' ⟨hflag, hcleared⟩
  refine ⟨hflag', h.nextStart_applyRest d'', fun hne => ?_, hcleared'⟩
  exact Prod.ext_iff.mp (h.rain_applyRest hne d'')

/-- Two states agree on what a frame with the run-state `rs` reports, and on what it clears. -/
structure Agree (rs : ℕ) (s₁ s₂ : DeviceState) : Prop where
  isWatering : s₁.isWatering = s₂.isWatering
  nextStartFlags : s₁.nextStartFlags = s₂.nextStartFlags
  nextStartAt : s₁.nextStartAt = s₂.nextStartAt
  rainDelay : rs ≠ 3 → ∀ s ∈ [s₁, s₂], s.rainDelayMinutes = some (.int 0) ∧ s.rainDelayEnds = none
  run : rs ≠ 4 → ∀ s ∈ [s₁, s₂], RunCleared s

theorem Decided.agree {rs : ℕ} {nextStart : Option PbVal × Option DateTime}
    {s₁ s₂ : DeviceState} (h₁ : Decided rs nextStart s₁) (h₂ : Decided rs nextStart s₂) :
    Agree rs s₁ s₂ := by
  have hnext := h₁.nextStart.trans h₂.nextStart.symm
  refine ⟨h₁.isWatering.trans h₂.isWatering.symm, congrArg Prod.fst hnext,
    congrArg Prod.snd hnext, fun hne => ?_, fun hne => ?_⟩
  · simpa using ⟨h₁.rainDelay hne, h₂.rainDelay hne⟩
  · simpa using ⟨h₁.run hne, h₂.run hne⟩

/-- After a well-typed status whose battery reading is a number, any two devices agree
on all it reports and clears, unless it reports a run and the off time of one of them
lies in the first fifteen seconds of time. -/
theorem status_forgets {now : DateTime} {pt : Bytes} {rs : ℕ} (h : WellTypedStatus now pt rs)
    (hbatt : IsScalar (frameBattery pt)) {d₁ d₂ : ProtobufDevice}
    (h₁ : rs = 4 → OffTimeMovable d₁) (h₂ : rs = 4 → OffTimeMovable d₂) :
    Agree rs (observe now pt d₁).state (observe now pt d₂).state := by
  obtain ⟨st, hpt, hst⟩ := h.frameStatus hbatt
  exact (hst.decided hpt h₁).agree (hst.decided hpt h₂)

/-- `#16` with the run-state 4 and 300 s to go. -/
def countdownReport : Body :=
  ⟨[0x82, 0x01, 0x07, 0x08, 0x04, 0x32, 0x03, 0x28, 0xAC, 0x02], by decide⟩

/-- An idle `#16`, and a `#46` whose reading is a string. -/
def oddBatteryReport : Body :=
  ⟨[0x82, 0x01, 0x02, 0x08, 0x01, 0xF2, 0x02, 0x02, 0x1A, 0x00], by decide⟩

theorem wellTyped_countdownReport :
    WellTypedStatus DateTime.epoch countdownReport.frame 4 := by
  have hsec : pbPath (frameBlock countdownReport.frame) [6, 5] = some (.int 300) := by
    decide +kernel
  have hexpiry : pbPath (frameBlock countdownReport.frame) [13, 3] = none := by decide +kernel
  have hepoch : pbPath (frameBlock countdownReport.frame) [10] = none := by decide +kernel
  refine ⟨by decide +kernel, by decide +kernel, by decide +kernel, fun n hn => ?_,
    fun n hn => ?_, fun n hn => ?_⟩
  · obtain rfl : 300 = n := by simpa using hsec.symm.trans hn
    exact ⟨⟨300000000, by decide, by decide⟩, DateTime.addSeconds_eq_ok.mpr (by decide)⟩
  · cases hexpiry.symm.trans hn
  · cases hepoch.symm.trans hn

theorem status_forgets_countdown :
    Agree 4 (observe DateTime.epoch countdownReport.frame {}).state
      (observe DateTime.epoch countdownReport.frame
        { state :=
          { expectedOffAt := some DateTime.epoch
            nextStartFlags := some (.int 1) } }).state :=
  status_forgets wellTyped_countdownReport (by decide +kernel)
    (fun _ off hoff => by cases hoff)
    (fun _ off hoff => by
      cases hoff
      decide)

/-- A string for a battery reading, or an off time at the beginning of time, and what
the device was before shows through. -/
theorem status_not_forgotten :
    (WellTypedStatus DateTime.epoch oddBatteryReport.frame 1 ∧
      ¬ Agree 1 (observe DateTime.epoch oddBatteryReport.frame {}).state
        (observe DateTime.epoch oddBatteryReport.frame
          { state := { isWatering := true } }).state) ∧
    (WellTypedStatus DateTime.epoch countdownReport.frame 4 ∧
      ¬ Agree 4 (observe DateTime.epoch countdownReport.frame {}).state
        (observe DateTime.epoch countdownReport.frame
          { state :=
            { expectedOffAt := some ⟨minMicros, by decide, by decide⟩
              nextStartFlags := some (.int 1) } }).state) := by
  have hodd : WellTypedStatus DateTime.epoch oddBatteryReport.frame 1 := by
    have hsec : pbPath (frameBlock oddBatteryReport.frame) [6, 5] = none := by decide +kernel
    have hexpiry : pbPath (frameBlock oddBatteryReport.frame) [13, 3] = none := by
      decide +kernel
    have hepoch : pbPath (frameBlock oddBatteryReport.frame) [10] = none := by decide +kernel
    refine ⟨by decide +kernel, by decide +kernel, by decide +kernel, fun n hn => ?_,
      fun n hn => ?_, fun n hn => ?_⟩
    · cases hsec.symm.trans hn
    · cases hexpiry.symm.trans hn
    · cases hepoch.symm.trans hn
  exact ⟨⟨hodd, fun h => absurd h.isWatering (by decide +kernel)⟩,
    wellTyped_countdownReport, fun h => absurd h.nextStartFlags (by decide +kernel)⟩

end OrbitBhyve.Devices
