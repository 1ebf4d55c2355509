import OrbitBhyve.Coordinator.Update
import OrbitBhyve.Devices.Confirmation

/-!
# The auto-close against a fresh report

The guard moves an off time only earlier, so the end of one station can outlast
the start of the next, and the check runs right after the poll. An update whose
own poll has heard a running status keeps the valve open exactly when the last
report of the poll is not an idle one, and neither the off time from before the
poll nor one which a report of the poll put in its place is overdue at the check.
-/

namespace OrbitBhyve.Coordinator

open Foundation Python Wire Devices

/-- The entries take the run from `v` to `v'`, each heard by a device whose run is what
the entries before it have left. -/
def Follows : RunView → ProtobufLog → RunView → Prop
  | v, [], v' => v' = v
  | v, .wrote _ :: es, v' => Follows v es v'
  | v, .heard n met :: es, v' =>
    met.state.run = v ∧ Follows (v.hears n.clock (protobufReport n.pt)) es v'

theorem Follows.append {v v' v'' : RunView} {es es' : ProtobufLog} (h : Follows v es v')
    (h' : Follows v' es' v'') : Follows v (es ++ es') v'' := by
  induction es generalizing v with
  | nil =>
    obtain rfl : v' = v := h
    exact h'
  | cons e es ih =>
    cases e with
    | wrote pt => exact ih h
    | heard n met => exact ⟨h.1, ih h.2⟩

/-- The log grows by entries which account for the run. -/
def HearsInOrder (w w' : World ProtobufDevice) : Prop :=
  ∃ new, w'.log = w.log ++ new ∧ Follows w.dev.state.run new w'.dev.state.run

instance hearsInOrderPreorder : IsPreorder (World ProtobufDevice) HearsInOrder where
  refl w := ⟨[], by simp, rfl⟩
  trans := by
    rintro w₁ w₂ w₃ ⟨new, hlog, hrun⟩ ⟨new', hlog', hrun'⟩
    exact ⟨new ++ new', by rw [hlog', hlog, List.append_assoc], hrun.append hrun'⟩

theorem runTraffic_hearsInOrder (replies : ℕ → Reply) (utcOffset : UtcOffset) :
    RunTraffic (protobufRadio replies utcOffset) ProtobufDevice.state HearsInOrder where
  hears _ n _ w := by
    refine ⟨[.heard n w.dev], rfl, rfl, ?_⟩
    change (w.hears _ n).dev.state.run = _
    rw [dev_hears, run_observe]
    rfl
  writes w pt := ⟨[.wrote pt], rfl, rfl⟩
  quiet {w w'} hlog hrun := by
    refine ⟨[], by simp [hlog], ?_⟩
    exact congrArg (fun r : RunFields => RunView.mk r.isWatering r.expectedOffAt) hrun

/-! ## When the off time is overdue -/

def HasIdle (log : ProtobufLog) : Prop :=
  ∃ n met, LogEntry.heard n met ∈ log ∧ protobufReport n.pt = some .idle

def OffOverdue (now : DateTime) (expected : Option DateTime) : Prop :=
  ∃ off, expected = some off ∧ Overdue now off

/-- The countdown of a report moved the off time to one which is overdue at `now`. -/
def StaleAnchor (now : DateTime) (n : Notice) (met : ProtobufDevice) : Prop :=
  ∃ countdown off, protobufReport n.pt = some (.running countdown) ∧
    (RunReport.running countdown).offAt n.clock = some off ∧
    movesOffTime met.state.expectedOffAt off = .ok true ∧ Overdue now off

/-- A stale anchor which no idle report has cleared. -/
def HasStaleAnchor (now : DateTime) (log : ProtobufLog) : Prop :=
  ∃ before n met rest, log = before ++ .heard n met :: rest ∧ StaleAnchor now n met ∧
    ¬ HasIdle rest

theorem movesOffTime_eq_ok_true {off newOff : DateTime} :
    movesOffTime (some off) newOff = .ok true ↔
      ∃ limit, off.addSeconds (-15) = .ok limit ∧ newOff < limit := by
  unfold movesOffTime
  dsimp only [bind, Except.bind]
  cases off.addSeconds (-15) <;> simp

theorem offOverdue_guardedOff (now : DateTime) (expected : Option DateTime) (newOff : DateTime) :
    OffOverdue now (guardedOff expected newOff) ↔
      OffOverdue now expected ∨
        movesOffTime expected newOff = .ok true ∧ Overdue now newOff := by
  unfold guardedOff
  split
  · next hmoves =>
    cases expected with
    | none => simp [OffOverdue, hmoves]
    | some off =>
      obtain ⟨limit, hlimit, hlt⟩ := movesOffTime_eq_ok_true.mp hmoves
      have hearlier : Overdue now off → Overdue now newOff := by
        intro h
        have := DateTime.addSeconds_eq_ok.mp hlimit
        have := DateTime.lt_def.mp hlt
        unfold Overdue at *
        omega
      simpa [OffOverdue, hmoves] using hearlier
  · next hstay =>
    constructor
    · exact Or.inl
    · rintro (h | ⟨h, -⟩)
      · exact h
      · exact absurd h hstay

theorem offOverdue_hears (now : DateTime) (n : Notice) {met : ProtobufDevice} {v : RunView}
    (hmet : met.state.run = v) :
    OffOverdue now (v.hears n.clock (protobufReport n.pt)).expectedOffAt ↔
      protobufReport n.pt ≠ some .idle ∧ OffOverdue now v.expectedOffAt ∨
        StaleAnchor now n met := by
  have hexpected : met.state.expectedOffAt = v.expectedOffAt := congrArg RunView.expectedOffAt hmet
  unfold StaleAnchor
  rw [hexpected]
  cases hrep : protobufReport n.pt with
  | none => simp [RunView.hears]
  | some rep =>
    cases rep with
    | idle => simp [RunView.hears, RunReport.after, OffOverdue]
    | started durationSec => exact absurd hrep (protobufReport_ne_started n.pt durationSec)
    | running countdown =>
      cases countdown with
      | none => simp [RunView.hears, RunReport.after, countdownOff, RunReport.offAt]
      | some r =>
        cases hoff : n.clock.addSeconds r with
        | error e =>
          simp [RunView.hears, RunReport.after, countdownOff, RunReport.offAt, hoff,
            Except.toOption]
        | ok off =>
          simp [RunView.hears, RunReport.after, countdownOff, RunReport.offAt, hoff,
            Except.toOption, offOverdue_guardedOff]

theorem hasIdle_cons (e : LogEntry ProtobufDevice) (es : ProtobufLog) :
    HasIdle (e :: es) ↔ HasIdle [e] ∨ HasIdle es := by
  simp only [HasIdle, List.mem_cons, List.not_mem_nil, or_false]
  constructor
  · rintro ⟨n, met, h | h, hrep⟩
    · exact .inl ⟨n, met, h, hrep⟩
    · exact .inr ⟨n, met, h, hrep⟩
  · rintro (⟨n, met, h, hrep⟩ | ⟨n, met, h, hrep⟩)
    · exact ⟨n, met, .inl h, hrep⟩
    · exact ⟨n, met, .inr h, hrep⟩

theorem hasIdle_heard (n : Notice) (met : ProtobufDevice) :
    HasIdle [.heard n met] ↔ protobufReport n.pt = some .idle := by
  constructor
  · rintro ⟨n', met', hmem, hrep⟩
    obtain ⟨rfl, rfl⟩ : n' = n ∧ met' = met := by simpa using hmem
    exact hrep
  · exact fun hrep => ⟨n, met, by simp, hrep⟩

theorem hasStaleAnchor_heard (now : DateTime) (n : Notice) (met : ProtobufDevice)
    (es : ProtobufLog) :
    HasStaleAnchor now (.heard n met :: es) ↔
      StaleAnchor now n met ∧ ¬ HasIdle es ∨ HasStaleAnchor now es := by
  constructor
  · rintro ⟨before, n', met', rest, hsplit, hstale, hidle⟩
    cases before with
    | nil =>
      obtain ⟨⟨rfl, rfl⟩, rfl⟩ : (n = n' ∧ met = met') ∧ es = rest := by simpa using hsplit
      exact .inl ⟨hstale, hidle⟩
    | cons e before =>
      obtain ⟨rfl, hes⟩ : .heard n met = e ∧ es = before ++ .heard n' met' :: rest := by
        simpa using hsplit
      exact .inr ⟨before, n', met', rest, hes, hstale, hidle⟩
  · rintro (⟨hstale, hidle⟩ | ⟨before, n', met', rest, rfl, hstale, hidle⟩)
    · exact ⟨[], n, met, es, rfl, hstale, hidle⟩
    · exact ⟨.heard n met :: before, n', met', rest, rfl, hstale, hidle⟩

theorem hasStaleAnchor_wrote (now : DateTime) (pt : Bytes) (es : ProtobufLog) :
    HasStaleAnchor now (.wrote pt :: es) ↔ HasStaleAnchor now es := by
  constructor
  · rintro ⟨before, n, met, rest, hsplit, hstale⟩
    cases before with
    | nil => simp at hsplit
    | cons e before =>
      obtain ⟨-, hes⟩ : .wrote pt = e ∧ es = before ++ .heard n met :: rest := by
        simpa using hsplit
      exact ⟨before, n, met, rest, hes, hstale⟩
  · rintro ⟨before, n, met, rest, rfl, hstale⟩
    exact ⟨.wrote pt :: before, n, met, rest, rfl, hstale⟩

/-- The off time after a poll is overdue when it was before and no idle report cleared it,
or when a report put an overdue one there. -/
theorem offOverdue_follows (now : DateTime) {v v' : RunView} {es : ProtobufLog}
    (h : Follows v es v') :
    OffOverdue now v'.expectedOffAt ↔
      ¬ HasIdle es ∧ OffOverdue now v.expectedOffAt ∨ HasStaleAnchor now es := by
  induction es generalizing v with
  | nil =>
    obtain rfl : v' = v := h
    simp [HasIdle, HasStaleAnchor]
  | cons e es ih =>
    rw [hasIdle_cons]
    cases e with
    | wrote pt =>
      have hwrote : ¬ HasIdle [.wrote pt] := by simp [HasIdle]
      rw [hasStaleAnchor_wrote, ih h]
      tauto
    | heard n met =>
      obtain ⟨hmet, hrest⟩ := h
      rw [hasStaleAnchor_heard, hasIdle_heard, ih hrest, offOverdue_hears now n hmet]
      tauto

/-! ## Whether the flag is up -/

def reportsOf : ProtobufLog → List RunReport
  | [] => []
  | .wrote _ :: es => reportsOf es
  | .heard n _ :: es =>
    match protobufReport n.pt with
    | some rep => rep :: reportsOf es
    | none => reportsOf es

/-- The last report says that the device is watering, or without one the flag was up. -/
def LastSaysOpen (v : RunView) (log : ProtobufLog) : Prop :=
  match (reportsOf log).getLast? with
  | some rep => rep ≠ .idle
  | none => v.isWatering = true

theorem isWatering_follows {v v' : RunView} {es : ProtobufLog} (h : Follows v es v') :
    v'.isWatering = true ↔ LastSaysOpen v es := by
  induction es generalizing v with
  | nil =>
    obtain rfl : v' = v := h
    rfl
  | cons e es ih =>
    cases e with
    | wrote pt => exact ih h
    | heard n met =>
      obtain ⟨-, hrest⟩ := h
      rw [ih hrest]
      unfold LastSaysOpen
      rw [reportsOf]
      cases protobufReport n.pt with
      | none => rfl
      | some rep =>
        rw [List.getLast?_cons]
        cases (reportsOf es).getLast? with
        | some last => rfl
        | none => cases rep <;> simp [RunView.hears, RunReport.after]

/-! ## The check -/

section Check

variable {δ : Type} {c : DeviceClass δ} {w : World δ}

theorem overdue_iff {now off limit : DateTime} (h : off.addSeconds EXPIRY_GRACE_SEC = .ok limit) :
    limit ≤ now ↔ Overdue now off := by
  rw [DateTime.le_def, DateTime.addSeconds_eq_ok.mp h, Overdue]

/-- An off time beyond the calendar by the grace is not overdue. -/
theorem not_overdue_of_error {now off : DateTime} {e : PyErr}
    (h : off.addSeconds EXPIRY_GRACE_SEC = .error e) : ¬ Overdue now off := by
  intro hover
  have hlo := off.lo
  have hhi := now.hi
  unfold Overdue EXPIRY_GRACE_SEC at hover
  have hok : off.addSeconds EXPIRY_GRACE_SEC =
      .ok ⟨off.micros + 10 * 1000000, by omega, by omega⟩ := by
    rw [DateTime.addSeconds_eq_ok]
    rfl
  rw [hok] at h
  cases h

theorem run_autoClose_idle (h : (c.state w.dev).isWatering = false) :
    c.autoClose w = .ok false w := by
  rw [DeviceClass.autoClose, run_bind_ok (run_getDev w), if_neg (by simp [h])]
  rfl

theorem run_autoClose_untimed (h : (c.state w.dev).isWatering = true)
    (hoff : (c.state w.dev).expectedOffAt = none) : c.autoClose w = .ok false w := by
  rw [DeviceClass.autoClose, run_bind_ok (run_getDev w), if_pos h, hoff]
  rfl

theorem run_autoClose_timed {off : DateTime} (h : (c.state w.dev).isWatering = true)
    (hoff : (c.state w.dev).expectedOffAt = some off) :
    c.autoClose w = c.closeIfOverdue off w := by
  rw [DeviceClass.autoClose, run_bind_ok (run_getDev w), if_pos h, hoff]

theorem run_closeIfOverdue_error {off : DateTime} {e : PyErr}
    (h : off.addSeconds EXPIRY_GRACE_SEC = .error e) : c.closeIfOverdue off w = .error e w := by
  rw [DeviceClass.closeIfOverdue, run_bind_ok (run_getClock w),
    run_bind_error (run_raising_error h w)]

theorem run_closeIfOverdue {off limit : DateTime}
    (h : off.addSeconds EXPIRY_GRACE_SEC = .ok limit) :
    c.closeIfOverdue off w =
      if Overdue w.clock off then (do
        c.modState closedState
        c.onWateringFinished
        pure true : Task δ Bool) w
      else .ok false
        { w with dev := c.setState (countedState w.clock off (c.state w.dev)) w.dev } := by
  rw [DeviceClass.closeIfOverdue, run_bind_ok (run_getClock w), run_bind_ok (run_raising_ok h w)]
  by_cases hover : Overdue w.clock off
  · rw [if_pos hover, if_pos ((overdue_iff h).mpr hover)]
  · rw [if_neg hover, if_neg fun hle => hover ((overdue_iff h).mp hle)]
    rfl

/-- The cadence of an open valve needs the check's own sum, nothing else can fail. -/
theorem exists_cadence (k : DeviceCoordinator) (now : DateTime) (s : DeviceState)
    (h : s.isWatering = true → ∀ off, s.expectedOffAt = some off →
      ∃ limit, off.addSeconds EXPIRY_GRACE_SEC = .ok limit) :
    ∃ target, k.cadence now s = .ok target := by
  unfold DeviceCoordinator.cadence
  cases hflag : s.isWatering with
  | false => exact ⟨_, rfl⟩
  | true =>
    rw [if_pos rfl]
    cases hoff : s.expectedOffAt with
    | none => exact ⟨_, rfl⟩
    | some off =>
      obtain ⟨limit, hlimit⟩ := h hflag off hoff
      dsimp only [bind, Except.bind, microsUntilClose]
      rw [hlimit]
      exact ⟨_, rfl⟩

theorem cadence_of_runFields (k : DeviceCoordinator) (now : DateTime) {s s' : DeviceState}
    (h : s'.runFields = s.runFields) : k.cadence now s' = k.cadence now s := by
  have hflag : s'.isWatering = s.isWatering := congrArg RunFields.isWatering h
  have hoff : s'.expectedOffAt = s.expectedOffAt := congrArg RunFields.expectedOffAt h
  unfold DeviceCoordinator.cadence
  rw [hflag, hoff]

theorem run_asyncUpdateData {k : DeviceCoordinator} {finished : Bool} {target : ℕ}
    {w₁ w₂ : World δ} (hpoll : c.refreshState w = .ok () w₁)
    (hclose : c.autoClose w₁ = .ok finished w₂)
    (htarget : k.cadence w₂.clock (c.state w₂.dev) = .ok target) :
    ∃ w', c.asyncUpdateData k w = .ok ⟨{ k with updateInterval := target }, finished⟩ w' ∧
      (c.state w'.dev).runFields = (c.state w₂.dev).runFields := by
  have hrefresh : (tryCatch c.refreshState fun _ => throw .updateFailed) w = .ok () w₁ := by
    rw [run_tryCatch, hpoll]
  set w₃ : World δ := { w₂ with
    dev := c.setState (expireRainDelay w₂.clock (c.state w₂.dev)) w₂.dev } with hw₃
  have hfields : (c.state w₃.dev).runFields = (c.state w₂.dev).runFields := by
    rw [hw₃, c.state_setState, runFields_expireRainDelay]
  have htarget' : k.cadence w₂.clock (c.state w₃.dev) = .ok target :=
    (cadence_of_runFields k w₂.clock hfields).trans htarget
  refine ⟨w₃, ?_, hfields⟩
  rw [DeviceClass.asyncUpdateData, run_bind_ok hrefresh, run_bind_ok hclose,
    run_bind_ok (run_getClock w₂), run_bind_ok (c.run_modState _ w₂), run_bind_ok (run_getDev _),
    run_bind_ok (run_raising_ok htarget' _)]
  rfl

theorem run_updateTail {k : DeviceCoordinator} {finished : Bool} {w₁ : World δ}
    (hpoll : c.refreshState w = .ok () w₁) {w₂ : World δ}
    (hclose : c.autoClose w₁ = .ok finished w₂)
    (hlimit : (c.state w₂.dev).isWatering = true → ∀ off,
      (c.state w₂.dev).expectedOffAt = some off →
        ∃ limit, off.addSeconds EXPIRY_GRACE_SEC = .ok limit) :
    ∃ updated w', c.asyncUpdateData k w = .ok updated w' ∧ updated.finished = finished ∧
      (c.state w'.dev).isWatering = (c.state w₂.dev).isWatering := by
  obtain ⟨target, htarget⟩ := exists_cadence k w₂.clock (c.state w₂.dev) hlimit
  obtain ⟨w', hrun, hfields⟩ := run_asyncUpdateData hpoll hclose htarget
  exact ⟨_, w', hrun, rfl, congrArg RunFields.isWatering hfields⟩

/-- What the auto-close finds decides what the update returns. -/
theorem run_asyncUpdateData_eq_ok {k : DeviceCoordinator} {updated : Updated} {w₁ w' : World δ}
    (hpoll : c.refreshState w = .ok () w₁) (h : c.asyncUpdateData k w = .ok updated w') :
    ∃ w₂, c.autoClose w₁ = .ok updated.finished w₂ ∧
      (c.state w'.dev).isWatering = (c.state w₂.dev).isWatering := by
  have hrefresh : (tryCatch c.refreshState fun _ => throw .updateFailed) w = .ok () w₁ := by
    rw [run_tryCatch, hpoll]
  rw [DeviceClass.asyncUpdateData, run_bind_ok hrefresh] at h
  obtain ⟨finished, w₂, hclose, h⟩ := run_bind_eq_ok.mp h
  rw [run_bind_ok (run_getClock w₂), run_bind_ok (c.run_modState _ w₂),
    run_bind_ok (run_getDev _)] at h
  obtain ⟨target, w₃, htarget, h⟩ := run_bind_eq_ok.mp h
  obtain ⟨-, rfl⟩ := run_raising_eq_ok.mp htarget
  cases h
  refine ⟨w₂, hclose, ?_⟩
  have hfields := runFields_expireRainDelay w₂.clock (c.state w₂.dev)
  dsimp only
  rw [c.state_setState]
  exact congrArg RunFields.isWatering hfields

theorem keeps_open_of_autoClose {k : DeviceCoordinator} {w₁ w₂ : World δ}
    (hpoll : c.refreshState w = .ok () w₁) (hclose : c.autoClose w₁ = .ok false w₂)
    (hflag : (c.state w₂.dev).isWatering = true) (updated : Updated) (w' : World δ)
    (hrun : c.asyncUpdateData k w = .ok updated w') :
    (c.state w'.dev).isWatering = true ∧ updated.finished = false := by
  obtain ⟨w₃, hclose', hsame⟩ := run_asyncUpdateData_eq_ok hpoll hrun
  rw [hclose, EStateM.Result.ok.injEq] at hclose'
  obtain ⟨hfin, rfl⟩ := hclose'
  exact ⟨hsame.trans hflag, hfin.symm⟩

/-- An update returns an open valve and no finished run exactly when the poll leaves the
valve open and the off time not overdue. -/
theorem update_keeps_open_iff (hfinished : Returns c.onWateringFinished) {k : DeviceCoordinator}
    {w₁ : World δ} (hkeep : Keeps (fun w => (c.state w.dev).run) c.onWateringFinished)
    (hpoll : c.refreshState w = .ok () w₁) :
    (∀ updated w', c.asyncUpdateData k w = .ok updated w' →
        (c.state w'.dev).isWatering = true ∧ updated.finished = false) ↔
      (c.state w₁.dev).isWatering = true ∧
        ¬ OffOverdue w₁.clock (c.state w₁.dev).expectedOffAt := by
  cases hflag : (c.state w₁.dev).isWatering with
  | false =>
    obtain ⟨updated, w', hrun, -, hsame⟩ := run_updateTail (k := k) hpoll
      (run_autoClose_idle hflag) (fun h => absurd (hflag.symm.trans h) (by decide))
    refine iff_of_false (fun hall => ?_) (by simp)
    have hopen := (hall updated w' hrun).1
    rw [hsame, hflag] at hopen
    cases hopen
  | true =>
    cases hoff : (c.state w₁.dev).expectedOffAt with
    | none =>
      have hclose := run_autoClose_untimed hflag hoff
      exact iff_of_true (keeps_open_of_autoClose hpoll hclose hflag) ⟨rfl, by simp [OffOverdue]⟩
    | some off =>
      have hoverdue : OffOverdue w₁.clock (some off) ↔ Overdue w₁.clock off := by
        simp [OffOverdue]
      rw [hoverdue]
      have hcheck := run_autoClose_timed hflag hoff
      cases hlimit : off.addSeconds EXPIRY_GRACE_SEC with
      | error e =>
        refine iff_of_true (fun updated w' hrun => ?_) ⟨rfl, not_overdue_of_error hlimit⟩
        obtain ⟨w₂, hclose, -⟩ := run_asyncUpdateData_eq_ok hpoll hrun
        rw [hcheck, run_closeIfOverdue_error hlimit] at hclose
        cases hclose
      | ok limit =>
        rw [run_closeIfOverdue hlimit] at hcheck
        by_cases hover : Overdue w₁.clock off
        · rw [if_pos hover, run_bind_ok (c.run_modState _ w₁), run_bind_ok (hfinished _),
            run_pure] at hcheck
          refine iff_of_false (fun hall => ?_) fun h => h.2 hover
          obtain ⟨updated, w', hrun, hfin, -⟩ := run_updateTail (k := k) hpoll hcheck (by
            have hrun := hkeep { w₁ with dev := c.setState (closedState (c.state w₁.dev)) w₁.dev }
            intro htrue
            have hflag' := congrArg RunView.isWatering hrun
            dsimp only at hflag'
            rw [c.state_setState] at hflag'
            exact (Bool.false_ne_true (hflag'.symm.trans htrue)).elim)
          have hno := (hall updated w' hrun).2
          rw [hfin] at hno
          cases hno
        · rw [if_neg hover] at hcheck
          refine iff_of_true (keeps_open_of_autoClose hpoll hcheck ?_) ⟨rfl, hover⟩
          dsimp only
          rw [c.state_setState]
          exact hflag

end Check

/-! ## Runs of updates -/

theorem refreshState_returns (R : Radio ProtobufDevice) : Returns (refreshState R) := by
  intro w
  rw [refreshState, run_bind_ok (run_getDev w), after_bind_ok (run_getDev w)]
  refine Returns.onlyIf (fun w => ?_) w
  obtain ⟨w₁, hbody⟩ : ∃ w₁, (tryCatch (pollStatus R) fun _ => modState fun s =>
      { s with
        consecutiveTimeouts := s.consecutiveTimeouts + 1
        isConnected := false }) w = .ok () w₁ := by
    rw [run_tryCatch]
    cases pollStatus R w with
    | ok a w₁ => exact ⟨w₁, rfl⟩
    | error e w₁ => exact ⟨_, rfl⟩
  have hclose : R.disconnect w₁ = .ok () (w₁.opened R) := Radio.run_suspend w₁
  have hrun := run_tryFinally_eq_ok.mpr ⟨w₁, hbody, hclose⟩
  rw [hrun, after_of_ok hrun]

/-- A frame with a `#16` of run-state 4 and seconds remaining. -/
def ReportsRunning (pt : Bytes) : Prop :=
  ∃ protobuf st r, decodeInner pt = some protobuf ∧ extractStatus protobuf = .ok st ∧
    st.runState = some (.int 4) ∧ st.secondsRemaining = some r ∧ 0 < r

section Updates

variable (replies : ℕ → Reply) (utcOffset : UtcOffset)

def polledWorld (s : Setup ProtobufDevice) (clock : DateTime) : World ProtobufDevice :=
  after (refreshState (protobufRadio replies utcOffset)) (s.atClock clock)

/-- What the poll of an update writes and hears. -/
def pollLog (s : Setup ProtobufDevice) (clock : DateTime) : ProtobufLog :=
  (polledWorld replies utcOffset s clock).log.drop s.world.log.length

def PollRuns (s : Setup ProtobufDevice) (clock : DateTime) : Prop :=
  ∃ n met, .heard n met ∈ pollLog replies utcOffset s clock ∧ ReportsRunning n.pt

/-- An update whose poll hears the device running returns it watering, and does not call
`on_watering_finished`. -/
def UpdateHonest (s : Setup ProtobufDevice) : Event → Prop
  | .update clock => PollRuns replies utcOffset s clock → ∀ updated w',
      (protobufClass replies utcOffset).asyncUpdateData s.coordinator (s.atClock clock) =
        .ok updated w' → w'.dev.state.isWatering = true ∧ updated.finished = false
  | _ => True

/-- The last word of the poll is not that the device is idle, and no overdue off time is
left of before the poll or was let in by it. -/
def ReportHolds (s : Setup ProtobufDevice) : Event → Prop
  | .update clock => PollRuns replies utcOffset s clock →
      let log := pollLog replies utcOffset s clock
      let now := (polledWorld replies utcOffset s clock).clock
      LastSaysOpen s.world.dev.state.run log ∧
        (HasIdle log ∨ ¬ OffOverdue now s.world.dev.state.expectedOffAt) ∧
        ¬ HasStaleAnchor now log
  | _ => True

theorem follows_pollLog (s : Setup ProtobufDevice) (clock : DateTime) :
    Follows s.world.dev.state.run (pollLog replies utcOffset s clock)
      (polledWorld replies utcOffset s clock).dev.state.run := by
  obtain ⟨new, hlog, hfollows⟩ :=
    (runTraffic_hearsInOrder replies utcOffset).moves_refreshState (s.atClock clock)
  have hnew : pollLog replies utcOffset s clock = new := by
    rw [pollLog, polledWorld, hlog]
    exact List.drop_left
  rw [hnew]
  exact hfollows

theorem updateHonest_iff (s : Setup ProtobufDevice) (e : Event) :
    UpdateHonest replies utcOffset s e ↔ ReportHolds replies utcOffset s e := by
  cases e with
  | notify n => exact Iff.rfl
  | start clock station durationSec => exact Iff.rfl
  | stop clock => exact Iff.rfl
  | update clock =>
    set w₁ := polledWorld replies utcOffset s clock with hw₁
    have hpoll : (protobufClass replies utcOffset).refreshState (s.atClock clock) = .ok () w₁ :=
      refreshState_returns (protobufRadio replies utcOffset) (s.atClock clock)
    have hupdate := update_keeps_open_iff (c := protobufClass replies utcOffset) Returns.pure
      (k := s.coordinator) (Moves.pure ()) hpoll
    have hfollows := follows_pollLog replies utcOffset s clock
    have hopen := isWatering_follows hfollows
    have hoverdue := offOverdue_follows w₁.clock hfollows
    refine imp_congr_right fun _ => ?_
    dsimp only
    rw [← hw₁]
    have hflag : (protobufClass replies utcOffset).state w₁.dev = w₁.dev.state := rfl
    rw [hflag] at hupdate
    refine hupdate.trans ?_
    rw [← hopen]
    have hafter : OffOverdue w₁.clock w₁.dev.state.expectedOffAt ↔
        ¬ HasIdle (pollLog replies utcOffset s clock) ∧
          OffOverdue w₁.clock s.world.dev.state.expectedOffAt ∨
            HasStaleAnchor w₁.clock (pollLog replies utcOffset s clock) := hoverdue
    rw [hafter]
    change w₁.dev.state.isWatering = true ∧ _ ↔ w₁.dev.state.isWatering = true ∧ _
    tauto

/-- In every run the auto-close respects what the polls have heard exactly when every
update finds the last report open and no overdue off time. -/
theorem autoClose_honest_iff (s : Setup ProtobufDevice) (es : List Event) :
    StepsMeet (Setup.step (protobufClass replies utcOffset)) (UpdateHonest replies utcOffset) s es ↔
      StepsMeet (Setup.step (protobufClass replies utcOffset)) (ReportHolds replies utcOffset) s
        es :=
  ⟨StepsMeet.mono fun s e => (updateHonest_iff replies utcOffset s e).mp,
    StepsMeet.mono fun s e => (updateHonest_iff replies utcOffset s e).mpr⟩

end Updates

/-! ### Two stations in a row -/

/-- `#16 {#1=4, #6 {#4=0, #5=100}}`: station 1 has 100 seconds left. -/
def firstStation : Body :=
  ⟨[0x82, 0x01, 0x08, 0x08, 0x04, 0x32, 0x04, 0x20, 0x00, 0x28, 0x64], by decide⟩

/-- `#16 {#1=4, #6 {#4=1, #5=300}}`: station 2 has 300 seconds left. -/
def secondStation : Body :=
  ⟨[0x82, 0x01, 0x09, 0x08, 0x04, 0x32, 0x05, 0x20, 0x01, 0x28, 0xAC, 0x02], by decide⟩

def afterSeconds (n : ℕ) (h : n < 1000 := by decide) : DateTime :=
  ⟨n * 1000000, by simp only [minMicros]; omega, by simp only [maxMicros]; omega⟩

/-- One poll at the start of a program, one when its second station has begun. -/
def programReplies : ℕ → Reply
  | 0 => { frames := [⟨firstStation.frame, afterSeconds 0⟩], clock := afterSeconds 0 }
  | 1 => { clock := afterSeconds 0 }
  | 2 => { frames := [⟨secondStation.frame, afterSeconds 115⟩], clock := afterSeconds 115 }
  | _ => { clock := afterSeconds 115 }

def isHearingOf (pt : Bytes) : LogEntry ProtobufDevice → Bool
  | .heard n _ => n.pt == pt
  | .wrote _ => false

def updateFinishes {δ : Type} (c : DeviceClass δ) (s : Setup δ) (clock : DateTime) : Bool :=
  match c.asyncUpdateData s.coordinator (s.atClock clock) with
  | .ok updated _ => updated.finished
  | .error _ _ => false

/-- The second poll reports five minutes left, and the update closes the valve: the off
time is the first station's. -/
theorem autoClose_closes_second_station :
    ¬ StepsMeet (Setup.step (protobufClass programReplies .utc)) (UpdateHonest programReplies .utc)
      ⟨{}, { dev := {}, clock := afterSeconds 0 }⟩
      [.update (afterSeconds 0), .update (afterSeconds 115)] := by
  rintro ⟨-, hhonest, -⟩
  set c := protobufClass programReplies .utc with hc
  set s₁ := Setup.step c ⟨{}, { dev := {}, clock := afterSeconds 0 }⟩ (.update (afterSeconds 0))
    with hs₁
  have hheard : (pollLog programReplies .utc s₁ (afterSeconds 115)).any
      (isHearingOf secondStation.frame) = true := by
    rw [hs₁, hc]
    decide +kernel
  have hfinishes : updateFinishes c s₁ (afterSeconds 115) = true := by
    rw [hs₁, hc]
    decide +kernel
  have hstatus : ∃ st, extractStatus secondStation.pb = .ok st ∧ st.runState = some (.int 4) ∧
      st.secondsRemaining = some 300 :=
    ⟨_, rfl, rfl, rfl⟩
  obtain ⟨e, hmem, he⟩ := List.any_eq_true.mp hheard
  have hruns : PollRuns programReplies .utc s₁ (afterSeconds 115) := by
    cases e with
    | wrote pt => cases he
    | heard n met =>
      obtain ⟨st, hst, hrun, hleft⟩ := hstatus
      have hpt : n.pt = secondStation.frame := by simpa [isHearingOf] using he
      refine ⟨n, met, hmem, secondStation.pb, st, 300, ?_, hst, hrun, hleft, by decide⟩
      rw [hpt, decodeInner_frame]
  unfold updateFinishes at hfinishes
  cases hupdate : c.asyncUpdateData s₁.coordinator (s₁.atClock (afterSeconds 115)) with
  | error e w' =>
    rw [hupdate] at hfinishes
    cases hfinishes
  | ok updated w' =>
    rw [hupdate] at hfinishes
    have hno := (hhonest hruns updated w' hupdate).2
    exact absurd (hno.symm.trans hfinishes) (by decide)

end OrbitBhyve.Coordinator
