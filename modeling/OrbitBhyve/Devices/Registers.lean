import OrbitBhyve.Devices.Conversions
import OrbitBhyve.Devices.Traffic
import OrbitBhyve.Foundation.LastWriter

/-!
# What a log leaves in a field

Four fields of the state are what the commands confirm by, or anchor on. Between
two assignments of a method such a field holds what the last applied frame said
of it, or else what it held before; how long ago that was does not show. A
frame which decodes is not applied past the conversion it raises at.
-/

namespace OrbitBhyve.Devices

open Foundation Python Wire

/-! ## One frame -/

def decodedStatus (pt : Bytes) : Option DeviceStatus :=
  (decodeInner pt).bind fun protobuf => (extractStatus protobuf).toOption

/-- The place of a conversion among the others. -/
def Conversion.rank : Conversion → ℕ
  | .battery => 0
  | .station => 1
  | .offTime => 2
  | .rainExpiry => 3
  | .nextStart => 4

/-- The observer gets as far as a conversion. -/
def reaches (now : DateTime) (st : DeviceStatus) (d : ProtobufDevice) (c : Conversion) : Bool :=
  match firstFailure now st d with
  | none => true
  | some (stop, _) => decide (c.rank ≤ stop.rank)

theorem observe_eq (now : DateTime) (pt : Bytes) (d : ProtobufDevice) :
    observe now pt d =
      match decodedStatus pt with
      | none => d
      | some st =>
        match firstFailure now st d with
        | none => writtenAll now st d
        | some (c, _) => writtenBefore now st d c := by
  unfold observe applyStatusPlaintext decodedStatus
  cases decodeInner pt with
  | none => rfl
  | some protobuf =>
    dsimp only [Option.bind_some]
    cases hst : extractStatus protobuf with
    | error e => rfl
    | ok st =>
      dsimp only [Except.toOption]
      rw [after_bind_ok (run_raising_ok rfl d)]
      have happly := applyStatus_eq now st d
      cases hfail : firstFailure now st d with
      | none =>
        rw [hfail] at happly
        exact after_of_ok happly
      | some stop =>
        rw [hfail] at happly
        exact after_of_error happly

/-- The fields a command reads back. -/
structure SettingsView where
  deviceClock : Option PbVal
  rainDelayMinutes : Option PbVal
  controllerMode : Option PbVal
  nextStartFlags : Option PbVal

def ProtobufDevice.settings (d : ProtobufDevice) : SettingsView :=
  ⟨d.state.deviceClock, d.state.rainDelayMinutes, d.state.controllerMode, d.state.nextStartFlags⟩

/-- What a status does to the four fields, block by block. -/
def SettingsView.afterClock (st : DeviceStatus) (v : SettingsView) : SettingsView :=
  { v with deviceClock := st.deviceClock.or v.deviceClock }

def SettingsView.afterRain (st : DeviceStatus) (v : SettingsView) : SettingsView :=
  { v with
    rainDelayMinutes :=
      if st.reportsDelay then st.rainDelayMinutes
      else if st.rainDelayActive.isSome || notRainDelay st.runState then some (.int 0)
      else v.rainDelayMinutes }

def SettingsView.afterMode (st : DeviceStatus) (v : SettingsView) : SettingsView :=
  { v with controllerMode := st.controllerMode.or v.controllerMode }

/-- The programs which start next; a status with a run-state and without them clears them. -/
def SettingsView.afterFlags (st : DeviceStatus) (v : SettingsView) : SettingsView :=
  { v with
    nextStartFlags :=
      match st.nextStartFlags with
      | some flags => if flags.truthy then some flags else none
      | none => if st.runState.isSome then none else v.nextStartFlags }

/-- The clock is taken over at once, the rain delay behind three conversions, mode and
programs behind the fourth. -/
def settingsAfter (now : DateTime) (st : DeviceStatus) (d : ProtobufDevice) : SettingsView :=
  let v := d.settings.afterClock st
  let v := if reaches now st d .rainExpiry then v.afterRain st else v
  if reaches now st d .nextStart then (v.afterMode st).afterFlags st else v

section Settings

variable {now : DateTime} {st : DeviceStatus} (d : ProtobufDevice)

theorem settings_withZone : (withZone st d).settings = d.settings := by
  unfold withZone
  split <;> rfl

theorem settings_withRemaining : (withRemaining st d).settings = d.settings := by
  unfold withRemaining
  split <;> rfl

theorem settings_withWatering : (withWatering now st d).settings = d.settings := by
  unfold withWatering
  split
  · rfl
  · exact (settings_withRemaining _).trans (settings_withZone _)
  · rfl

theorem settings_withRain : (withRain st d).settings = d.settings.afterRain st := by
  unfold withRain SettingsView.afterRain
  split_ifs <;> rfl

theorem settings_withStartFlags : (withStartFlags st d).settings = d.settings.afterFlags st := by
  unfold withStartFlags SettingsView.afterFlags
  cases st.nextStartFlags with
  | some flags => rfl
  | none =>
    dsimp only
    split_ifs <;> rfl

theorem settings_withStart : (withStart st d).settings = d.settings := by
  unfold withStart
  split_ifs <;> rfl

theorem reportsDelay_of_firstFailure {d : ProtobufDevice} {e : PyErr}
    (h : firstFailure now st d = some (.rainExpiry, e)) : st.reportsDelay = true := by
  obtain ⟨c, -, hc⟩ := List.exists_of_findSome?_eq_some h
  obtain ⟨e', hfail, heq⟩ := Option.map_eq_some_iff.mp hc
  cases heq
  by_contra hno
  rw [Conversion.failure, if_neg hno] at hfail
  cases hfail

theorem settings_withMinutes (h : st.reportsDelay = true) :
    (withMinutes st d).settings = d.settings.afterRain st := by
  rw [SettingsView.afterRain, if_pos h]
  rfl

end Settings

theorem settings_observe (now : DateTime) (pt : Bytes) (d : ProtobufDevice) :
    (observe now pt d).settings =
      match decodedStatus pt with
      | none => d.settings
      | some st => settingsAfter now st d := by
  rw [observe_eq]
  cases decodedStatus pt with
  | none => rfl
  | some st =>
    dsimp only
    have hwatered : (withWatering now st (withSensors st (withClock st d))).settings =
        d.settings.afterClock st :=
      settings_withWatering _
    have hflags : ∀ d' : ProtobufDevice, (withStartFlags st (withFaults st d')).settings =
        (d'.settings.afterMode st).afterFlags st := fun d' => settings_withStartFlags _
    unfold settingsAfter reaches
    cases hfail : firstFailure now st d with
    | none =>
      rw [writtenAll, settings_withStart, hflags, settings_withRain, hwatered]
      rfl
    | some stop =>
      obtain ⟨c, e⟩ := stop
      cases c with
      | battery => rfl
      | station => rfl
      | offTime => exact (settings_withRemaining _).trans (settings_withZone _)
      | rainExpiry =>
        have hreports := reportsDelay_of_firstFailure hfail
        exact (settings_withMinutes _ hreports).trans (congrArg (SettingsView.afterRain st) hwatered)
      | nextStart =>
        have hrain : (withRain st (withWatering now st (withSensors st (withClock st d)))).settings =
            (d.settings.afterClock st).afterRain st := by
          rw [settings_withRain, hwatered]
        exact (hflags _).trans (congrArg (fun v => (v.afterMode st).afterFlags st) hrain)

/-! ## Entries of a log -/

namespace LogEntry

variable {δ : Type}

def plaintext : LogEntry δ → Option Bytes
  | .wrote pt => some pt
  | .heard _ _ => none

def isWrite (e : LogEntry δ) : Bool := e.plaintext.isSome

end LogEntry

def untilNextWrite {δ : Type} (log : List (LogEntry δ)) : List (LogEntry δ) :=
  log.takeWhile fun e => !e.isWrite

def nextWrite {δ : Type} (log : List (LogEntry δ)) : Option Bytes := log.findSome? LogEntry.plaintext

def sinceNextWrite {δ : Type} (log : List (LogEntry δ)) : List (LogEntry δ) :=
  (log.dropWhile fun e => !e.isWrite).tail

section FirstWrite

variable {δ : Type} {hs rest : List (LogEntry δ)} {msg : Bytes}

theorem untilNextWrite_append (h : ∀ e ∈ hs, ∃ n met, e = .heard n met) :
    untilNextWrite (hs ++ .wrote msg :: rest) = hs := by
  have hall : ∀ e ∈ hs, (!e.isWrite) = true := by
    intro e he
    obtain ⟨n, met, rfl⟩ := h e he
    rfl
  rw [untilNextWrite, List.takeWhile_append_of_pos hall]
  exact List.append_nil hs

theorem sinceNextWrite_append (h : ∀ e ∈ hs, ∃ n met, e = .heard n met) :
    sinceNextWrite (hs ++ .wrote msg :: rest) = rest := by
  have hall : ∀ e ∈ hs, (!e.isWrite) = true := by
    intro e he
    obtain ⟨n, met, rfl⟩ := h e he
    rfl
  rw [sinceNextWrite, List.dropWhile_append_of_pos hall]
  rfl

theorem nextWrite_append (h : ∀ e ∈ hs, ∃ n met, e = .heard n met) :
    nextWrite (hs ++ .wrote msg :: rest) = some msg := by
  have hnone : hs.findSome? LogEntry.plaintext = none := by
    rw [List.findSome?_eq_none_iff]
    intro e he
    obtain ⟨n, met, rfl⟩ := h e he
    rfl
  rw [nextWrite, List.findSome?_append, hnone]
  rfl

theorem nextWrite_eq_some {log : List (LogEntry δ)} {pt : Bytes} (h : nextWrite log = some pt) :
    .wrote pt ∈ log := by
  obtain ⟨e, he, hpt⟩ := List.exists_of_findSome?_eq_some h
  cases e with
  | heard n met => cases hpt
  | wrote pt' =>
    cases hpt
    exact he

end FirstWrite

/-! ## Reports -/

section Reports

variable {β : Type} (report : DeviceStatus → Option β)

def decoded : LogEntry ProtobufDevice → Option β
  | .heard n _ => (decodedStatus n.pt).bind report
  | .wrote _ => none

/-- What a frame reports when the observer gets as far as a conversion with it. -/
def applied (c : Conversion) : LogEntry ProtobufDevice → Option β
  | .heard n met => (decodedStatus n.pt).bind fun st =>
      if reaches n.clock st met c then report st else none
  | .wrote _ => none

variable {report}

theorem decoded_of_applied {c : Conversion} {e : LogEntry ProtobufDevice} {b : β}
    (h : applied report c e = some b) : decoded report e = some b := by
  cases e with
  | wrote pt => cases h
  | heard n met =>
    obtain ⟨st, hst, hreport⟩ := Option.bind_eq_some_iff.mp h
    split_ifs at hreport
    exact Option.bind_eq_some_iff.mpr ⟨st, hst, hreport⟩

end Reports

/-! ## A field which follows the log -/

/-- The log has grown, and the field holds what the last new entry said of it. -/
def Follows {δ β : Type} (said : LogEntry δ → Option β) (field : δ → β) (w w' : World δ) : Prop :=
  ∃ new, w'.log = w.log ++ new ∧ field w'.dev = (lastSaid said new).getD (field w.dev)

section Follows

variable {δ β : Type} {said : LogEntry δ → Option β} {field : δ → β}

instance followsPreorder (said : LogEntry δ → Option β) (field : δ → β) :
    IsPreorder (World δ) (Follows said field) where
  refl w := ⟨[], by simp, rfl⟩
  trans := by
    rintro w₁ w₂ w₃ ⟨new, hlog, hfield⟩ ⟨new', hlog', hfield'⟩
    refine ⟨new ++ new', by rw [hlog', hlog, List.append_assoc], ?_⟩
    rw [hfield', hfield, lastSaid_append]
    cases lastSaid said new' <;> rfl

theorem Follows.of_same {w w' : World δ} (hlog : w'.log = w.log)
    (hfield : field w'.dev = field w.dev) : Follows said field w w' :=
  ⟨[], by simp [hlog], hfield⟩

theorem Follows.value {w w' : World δ} {new : List (LogEntry δ)} (h : Follows said field w w')
    (hlog : w'.log = w.log ++ new) : field w'.dev = (lastSaid said new).getD (field w.dev) := by
  obtain ⟨new', hlog', hfield⟩ := h
  rw [hlog', List.append_cancel_left_eq] at hlog
  rw [hfield, hlog]

theorem Follows.unsaid {w w' : World δ} (h : Follows (fun _ => (none : Option β)) field w w') :
    field w'.dev = field w.dev := by
  obtain ⟨new, -, hfield⟩ := h
  rw [hfield, lastSaid_eq_none.mpr fun _ _ => rfl, Option.getD_none]

structure Register (R : Radio δ) (said : LogEntry δ → Option β) (field : δ → β) : Prop where
  hears : ∀ n (w : World δ), field (w.hears R n).dev = (said (.heard n w.dev)).getD (field w.dev)
  writes : ∀ pt, said (.wrote pt) = none

theorem Register.follows_hears {R : Radio δ} (h : Register R said field) (n : Notice)
    (w : World δ) : Follows said field w (w.hears R n) :=
  ⟨[.heard n w.dev], rfl, by rw [lastSaid_singleton, h.hears]⟩

theorem Register.operates {R : Radio δ} (h : Register R said field) :
    R.Operates (fun _ => True) (Follows said field) :=
  Radio.Operates.of_steps (fun _ n _ w => h.follows_hears n w) (fun _ _ _ _ => .of_same rfl rfl)
    (fun _ => .of_same rfl rfl) fun w pt _ _ =>
      ⟨[.wrote pt], rfl, by rw [lastSaid_singleton, h.writes]; rfl⟩

theorem Register.drains {R : Radio δ} (h : Register R said field) (w : World δ) (pt : Bytes) :
    Follows said field (w.written R pt) (w.exchanged R pt) := by
  have hburst : Moves (Follows said field) (R.hearAll (R.replies w.tick).frames) :=
    Radio.moves_hearAll fun n _ w => h.follows_hears n w
  have hhear := hburst (w.written R pt)
  rw [Radio.after_hearAll] at hhear
  exact trans_of (Follows said field) hhear (.of_same rfl rfl)

end Follows

section Protobuf

variable {β : Type} {said : LogEntry ProtobufDevice → Option β} {field : ProtobufDevice → β}

theorem Register.statusTraffic {R : Radio ProtobufDevice} (h : Register R said field) :
    StatusTraffic R (fun _ => True) (Follows said field) :=
  .of_blocks h.operates fun _ _ _ _ _ => trivial

theorem Register.moves_refreshStatus {R : Radio ProtobufDevice} (h : Register R said field)
    (hmark : ∀ (d : ProtobufDevice) v, field { d with statusParsed := v } = field d)
    (syncClock : Bool) : Moves (Follows said field) (refreshStatus R syncClock) :=
  h.statusTraffic.moves_refreshStatus (fun _ => .of_same rfl (hmark _ _)) syncClock

theorem Register.moves_sendMessage {R : Radio ProtobufDevice} (h : Register R said field)
    (pb : Bytes) : Moves (Follows said field) (sendMessage R pb) :=
  Devices.moves_sendMessage h.operates fun _ _ => trivial

theorem sendMessage_eq_ok {R : Radio ProtobufDevice} {pb : Bytes} {w w' : World ProtobufDevice}
    {notifs : ℕ} (h : sendMessage R pb w = .ok notifs w') :
    ∃ msg, buildMessage pb = .ok msg ∧ msg.length ≤ 255 ∧ w' = w.exchanged R msg := by
  obtain ⟨msg, w₁, hbuild, hsend⟩ := run_bind_eq_ok.mp h
  obtain ⟨hmsg, rfl⟩ := run_raising_eq_ok.mp hbuild
  obtain ⟨r, w₂, hex, hret⟩ := run_bind_eq_ok.mp hsend
  obtain ⟨-, rfl, hfits⟩ := Radio.run_exchange_eq_ok hex
  cases hret
  exact ⟨msg, hmsg, hfits, rfl⟩

variable (replies : ℕ → Reply) (utcOffset : UtcOffset)

theorem register_connection : Register (protobufRadio replies utcOffset)
    (fun _ => (none : Option Bool)) (fun d => d.hasConnection) where
  hears n w := by
    rw [dev_hears]
    exact congrArg (fun fixed => fixed.2.2.1) (fixed_observe n.clock n.pt w.dev)
  writes _ := rfl

/-- A quantity of the four fields, from what one status does to it. -/
theorem register_of_settings (view : SettingsView → β) {report : DeviceStatus → Option β}
    {c : Conversion}
    (h : ∀ now st d, view (settingsAfter now st d) =
      (if reaches now st d c then report st else none).getD (view d.settings)) :
    Register (protobufRadio replies utcOffset) (applied report c) (fun d => view d.settings) where
  hears n w := by
    have hsaid : applied report c (.heard n w.dev) = (decodedStatus n.pt).bind fun st =>
        if reaches n.clock st w.dev c then report st else none := rfl
    rw [dev_hears, settings_observe, hsaid]
    cases decodedStatus n.pt with
    | none => rfl
    | some st => exact h n.clock st w.dev
  writes _ := rfl

/-! ## The mark of a decoded status -/

/-- Whether a frame reports the valve, which is what sets the mark. -/
def valveReport : LogEntry ProtobufDevice → Option Bool
  | .heard n _ => wateringReport n.pt
  | .wrote _ => none

/-- The log has grown, and a mark which is there is set by a report on the valve. -/
def Marks (w w' : World ProtobufDevice) : Prop :=
  ∃ new, w'.log = w.log ++ new ∧ w'.dev.statusParsed =
    w.dev.statusParsed.map fun parsed => parsed || new.any fun e => (valveReport e).isSome

instance : IsPreorder (World ProtobufDevice) Marks where
  refl w := by
    refine ⟨[], by simp, ?_⟩
    cases w.dev.statusParsed with
    | none => rfl
    | some parsed => simp
  trans := by
    rintro w₁ w₂ w₃ ⟨new, hlog, hmark⟩ ⟨new', hlog', hmark'⟩
    refine ⟨new ++ new', by rw [hlog', hlog, List.append_assoc], ?_⟩
    rw [hmark', hmark, Option.map_map]
    simp only [List.any_append, Function.comp_def, Bool.or_assoc]

theorem Marks.of_same {w w' : World ProtobufDevice} (hlog : w'.log = w.log)
    (hmark : w'.dev.statusParsed = w.dev.statusParsed) : Marks w w' := by
  refine ⟨[], by simp [hlog], ?_⟩
  rw [hmark]
  cases w.dev.statusParsed with
  | none => rfl
  | some parsed => simp

theorem statusParsed_observe (now : DateTime) (pt : Bytes) (d : ProtobufDevice) :
    (observe now pt d).statusParsed =
      d.statusParsed.map fun parsed => parsed || (wateringReport pt).isSome := by
  have h := congrArg ValveView.statusParsed (valve_observe now pt d)
  change (observe now pt d).statusParsed = _ at h
  rw [h, wateringReport]
  have hkeep : d.statusParsed = d.statusParsed.map fun parsed => parsed || false := by
    cases d.statusParsed <;> simp
  cases frameStatus pt with
  | none => exact hkeep
  | some st =>
    simp only [valveAfter, Option.bind_some]
    rcases st.isWatering with _ | _ | _
    · exact hkeep
    · simp [ProtobufDevice.valve]
    · simp [ProtobufDevice.valve]

theorem operates_marks : (protobufRadio replies utcOffset).Operates (fun _ => True) Marks :=
  Radio.Operates.of_steps
    (fun _ n _ w => ⟨[.heard n w.dev], rfl, by
      rw [dev_hears, statusParsed_observe, List.any_cons, List.any_nil, Bool.or_false]
      rfl⟩)
    (fun _ _ _ _ => .of_same rfl rfl) (fun _ => .of_same rfl rfl)
    fun w pt _ _ => ⟨[.wrote pt], rfl, by
      cases w.dev.statusParsed with
      | none => rfl
      | some parsed => simp [valveReport]⟩

/-- After `refresh_status` the mark says whether a frame has reported the valve. -/
theorem parsed_of_refreshStatus {w w' : World ProtobufDevice} {syncClock : Bool}
    {new : List (LogEntry ProtobufDevice)} (hconn : w.dev.hasConnection = true)
    (h : refreshStatus (protobufRadio replies utcOffset) syncClock w = .ok () w')
    (hlog : w'.log = w.log ++ new) : w'.dev.parsed = true ↔ Speaks valveReport new := by
  rw [refreshStatus, run_bind_ok (run_getDev w), hconn, run_onlyIf_true, elicitStatus,
    run_bind_ok (run_modDev _ w)] at h
  have htraffic : StatusTraffic (protobufRadio replies utcOffset) (fun _ => True) Marks :=
    .of_blocks (operates_marks replies utcOffset) fun _ _ _ _ _ => trivial
  obtain ⟨new', hlog', hmark⟩ := (htraffic.moves_requestStatus syncClock).of_ok h
  rw [hlog', List.append_cancel_left_eq] at hlog
  rw [ProtobufDevice.parsed, hmark, hlog]
  simp [Speaks, Option.isSome_iff_ne_none]

/-! ## The four fields -/

def DeviceStatus.clockReport (st : DeviceStatus) : Option (Option PbVal) := st.deviceClock.map some

def DeviceStatus.rainReport (st : DeviceStatus) : Option Bool :=
  if st.rainDelayActive.isSome || notRainDelay st.runState then some st.reportsDelay else none

def DeviceStatus.modeReport (mode : ℕ) (st : DeviceStatus) : Option Bool :=
  st.controllerMode.map fun v => v == .int mode

/-- A bitmask of programs which contains a bit. -/
def hasBit (bit : ℕ) (flags : Option PbVal) : Bool :=
  match flags with
  | some (.int n) => n &&& bit != 0
  | _ => false

def DeviceStatus.startReport (bit : ℕ) (st : DeviceStatus) : Option Bool :=
  if st.nextStartFlags.isSome || st.runState.isSome then some (hasBit bit st.nextStartFlags)
  else none

theorem reportsDelay_iff {st : DeviceStatus} : st.reportsDelay = true ↔
    st.rainDelayActive = some true ∧ st.rainDelayMinutes.any PbVal.truthy = true := by
  have hzero : (orZero st.rainDelayMinutes).truthy = st.rainDelayMinutes.any PbVal.truthy := by
    unfold orZero
    cases st.rainDelayMinutes with
    | none => rfl
    | some v =>
      dsimp only [Option.any_some]
      split_ifs with htruthy
      · rw [htruthy]
      · exact (Bool.eq_false_iff.mpr htruthy).symm
  rw [DeviceStatus.reportsDelay, hzero, Bool.and_eq_true, beq_iff_eq]

theorem hasBit_of_not_truthy (bit : ℕ) {flags : PbVal} (h : ¬ flags.truthy = true) :
    hasBit bit (some flags) = false := by
  cases flags with
  | bytes b => rfl
  | int n =>
    have hzero : n = 0 := by simpa [PbVal.truthy] using h
    subst hzero
    simp [hasBit]

/-- `bool(self.state.rain_delay_minutes)`. -/
def DeviceState.delayed (s : DeviceState) : Bool := s.rainDelayMinutes.any PbVal.truthy

theorem reaches_battery (now : DateTime) (st : DeviceStatus) (d : ProtobufDevice) :
    reaches now st d .battery = true := by
  unfold reaches
  split
  · rfl
  · exact decide_eq_true (Nat.zero_le _)

theorem register_clock : Register (protobufRadio replies utcOffset)
    (decoded DeviceStatus.clockReport) (fun d => d.state.deviceClock) := by
  have happlied : applied DeviceStatus.clockReport .battery = decoded DeviceStatus.clockReport := by
    funext e
    cases e with
    | wrote pt => rfl
    | heard n met => simp only [applied, decoded, reaches_battery, if_true]
  rw [← happlied]
  refine register_of_settings replies utcOffset SettingsView.deviceClock fun now st d => ?_
  have hclock : (settingsAfter now st d).deviceClock = st.deviceClock.or d.state.deviceClock := by
    unfold settingsAfter
    dsimp only
    split_ifs <;> rfl
  rw [hclock, reaches_battery, if_pos rfl, DeviceStatus.clockReport]
  cases st.deviceClock <;> rfl

theorem register_rain : Register (protobufRadio replies utcOffset)
    (applied DeviceStatus.rainReport .rainExpiry) (fun d => d.state.delayed) := by
  refine register_of_settings replies utcOffset
    (fun v => v.rainDelayMinutes.any PbVal.truthy) fun now st d => ?_
  have hminutes : (settingsAfter now st d).rainDelayMinutes =
      if reaches now st d .rainExpiry then (d.settings.afterRain st).rainDelayMinutes
      else d.state.rainDelayMinutes := by
    unfold settingsAfter
    dsimp only
    split_ifs <;> rfl
  rw [hminutes]
  split_ifs with hreach
  · unfold SettingsView.afterRain DeviceStatus.rainReport
    by_cases hreports : st.reportsDelay = true
    · obtain ⟨hactive, hminutes⟩ := reportsDelay_iff.mp hreports
      simp only [hreports, hactive, if_true, Option.isSome_some, Bool.true_or, hminutes,
        Option.getD_some]
    · simp only [Bool.not_eq_true] at hreports
      simp only [hreports, Bool.false_eq_true, if_false]
      split_ifs <;> rfl
  · rfl

theorem register_mode (mode : ℕ) : Register (protobufRadio replies utcOffset)
    (applied (DeviceStatus.modeReport mode) .nextStart)
    (fun d => d.state.controllerMode == some (.int mode)) := by
  refine register_of_settings replies utcOffset
    (fun v => v.controllerMode == some (.int mode)) fun now st d => ?_
  have hmode : (settingsAfter now st d).controllerMode =
      if reaches now st d .nextStart then st.controllerMode.or d.state.controllerMode
      else d.state.controllerMode := by
    unfold settingsAfter
    dsimp only
    split_ifs <;> rfl
  rw [hmode]
  split_ifs with hreach
  · rw [DeviceStatus.modeReport]
    cases st.controllerMode <;> rfl
  · rfl

theorem register_start (bit : ℕ) : Register (protobufRadio replies utcOffset)
    (applied (DeviceStatus.startReport bit) .nextStart)
    (fun d => hasBit bit d.state.nextStartFlags) := by
  refine register_of_settings replies utcOffset
    (fun v => hasBit bit v.nextStartFlags) fun now st d => ?_
  have hflags : (settingsAfter now st d).nextStartFlags =
      if reaches now st d .nextStart then (d.settings.afterFlags st).nextStartFlags
      else d.state.nextStartFlags := by
    unfold settingsAfter
    dsimp only
    split_ifs <;> rfl
  rw [hflags]
  split_ifs with hreach
  · unfold SettingsView.afterFlags DeviceStatus.startReport
    cases st.nextStartFlags with
    | none =>
      dsimp only
      cases st.runState <;> rfl
    | some flags =>
      simp only [Option.isSome_some, Bool.true_or, if_true, Option.getD_some]
      split_ifs with htruthy
      · rfl
      · exact (hasBit_of_not_truthy bit htruthy).symm
  · rfl

end Protobuf

end OrbitBhyve.Devices
