import OrbitBhyve.Coordinator.Invariant
import OrbitBhyve.Devices.Confirmation

/-!
# Open zones of a multi-station device

A zone valve is open while the device waters its station, or no station in
particular: without an active zone every zone of the device renders open. The
zone is written by a report which names its station as a number and by a
confirmed start. A `#30` in progress and a `#16` without a progress block open
the valve and leave the zone as it was.
-/

namespace OrbitBhyve.Coordinator

open Foundation Python Wire Devices

def isClosed (station : ℤ) (s : DeviceState) : Bool :=
  !(s.isWatering && (s.activeZone.isNone || s.activeZone == some station))

/-- Of the valves of stations `1` to `n` one is open at most. -/
def AtMostOneOpen (n : ℕ) (s : DeviceState) : Prop :=
  ∀ a b : ℤ, 1 ≤ a → a ≤ n → 1 ≤ b → b ≤ n → isClosed a s = false → isClosed b s = false → a = b

def KnowsZone (s : DeviceState) : Prop := s.isWatering = true → s.activeZone.isSome

theorem isClosed_eq_false {station : ℤ} {s : DeviceState} :
    isClosed station s = false ↔
      s.isWatering = true ∧ (s.activeZone = none ∨ s.activeZone = some station) := by
  rw [isClosed, Bool.not_eq_false', Bool.and_eq_true, Bool.or_eq_true, beq_iff_eq,
    Option.isNone_iff_eq_none]

/-- Two zones are open together exactly when the device does not know which one it waters. -/
theorem atMostOneOpen_iff {n : ℕ} (hn : 2 ≤ n) (s : DeviceState) :
    AtMostOneOpen n s ↔ KnowsZone s := by
  constructor
  · intro hone hopen
    by_contra hzone
    have hnone : s.activeZone = none := by simpa using hzone
    have hboth : (1 : ℤ) = 2 := by
      apply hone 1 2
      · decide
      · omega
      · decide
      · omega
      · exact isClosed_eq_false.mpr ⟨hopen, .inl hnone⟩
      · exact isClosed_eq_false.mpr ⟨hopen, .inl hnone⟩
    exact absurd hboth (by decide)
  · intro hknows a b _ _ _ _ ha hb
    obtain ⟨hopen, hza⟩ := isClosed_eq_false.mp ha
    obtain ⟨-, hzb⟩ := isClosed_eq_false.mp hb
    obtain ⟨zone, hzone⟩ := Option.isSome_iff_exists.mp (hknows hopen)
    rw [hzone] at hza hzb
    have hsame : some a = some b := (hza.resolve_left nofun).symm.trans (hzb.resolve_left nofun)
    exact Option.some.inj hsame

/-! ## What a frame says about the zone -/

structure ZoneView where
  isWatering : Bool
  activeZone : Option ℤ

def zoneView (s : DeviceState) : ZoneView := ⟨s.isWatering, s.activeZone⟩

/-- The zone of a running report: its station if it is a number, else the zone before it. -/
def reportedZone (station : Option PbVal) (zone : Option ℤ) : Option ℤ :=
  match station with
  | some (.int n) => some (n + 1)
  | _ => zone

def zoneAfter (st : DeviceStatus) (v : ZoneView) : ZoneView :=
  match st.isWatering with
  | none => v
  | some false => ⟨false, none⟩
  | some true => ⟨true, reportedZone st.activeStation v.activeZone⟩

section Observer

variable {now : DateTime} {st : DeviceStatus}

theorem keeps_zone_applyRest (st : DeviceStatus) :
    Keeps (fun d : ProtobufDevice => zoneView d.state) (applyRest st) :=
  keeps_applyRest (fun _ _ => rfl) (fun _ _ => rfl) (fun _ _ => rfl) (fun _ _ => rfl)
    (fun _ _ => rfl) fun _ _ => rfl

theorem zone_applyWatering (now : DateTime) (st : DeviceStatus) (d : ProtobufDevice) :
    zoneView (after (applyWatering now st) d).state = zoneAfter st (zoneView d.state) := by
  unfold applyWatering zoneAfter
  cases st.isWatering with
  | none => rfl
  | some reported =>
    cases reported with
    | false => rfl
    | true =>
      dsimp only
      rw [(updState_returns _).after_bind, markParsed_returns.after_bind]
      have hrest : ∀ _ : Unit, Keeps (fun d : ProtobufDevice => zoneView d.state)
          (applyCountdown now st.secondsRemaining) := fun _ =>
        keeps_applyCountdown (fun _ _ => rfl) fun _ _ => rfl
      rw [Keeps.after_bind hrest]
      unfold applyActiveStation reportedZone
      cases st.activeStation with
      | none => rfl
      | some station => cases station <;> rfl

theorem zone_observe (now : DateTime) (pt : Bytes) (d : ProtobufDevice) :
    zoneView (observe now pt d).state =
      match frameStatus pt with
      | none => zoneView d.state
      | some st => zoneAfter st (zoneView d.state) := by
  have hsame : ∀ {d' : ProtobufDevice}, SameButReadings d d' →
      zoneView d'.state = zoneView d.state := by
    rintro _ ⟨_, _, _, _, rfl⟩
    rfl
  cases hst : frameStatus pt with
  | none => exact hsame (observe_of_no_frameStatus hst now d)
  | some st =>
    obtain ⟨d', hd', hobs⟩ := observe_of_frameStatus hst now d
    rw [hobs, Keeps.after_bind fun _ => keeps_zone_applyRest st, zone_applyWatering, hsame hd']

end Observer

/-- A frame which reports the device watering names the station as a number, or meets a device
whose zone is known. -/
def NamesZone (n : Notice) (met : ProtobufDevice) : Prop :=
  ∀ st, frameStatus n.pt = some st → st.isWatering = some true →
    (∃ station, st.activeStation = some (.int station)) ∨ met.state.activeZone.isSome

theorem isSome_reportedZone {station : Option PbVal} {zone : Option ℤ} :
    (reportedZone station zone).isSome ↔ (∃ n, station = some (.int n)) ∨ zone.isSome := by
  unfold reportedZone
  cases station with
  | none => simp
  | some station => cases station <;> simp

/-- A frame leaves the zone known exactly when it names it or finds it known. -/
theorem knowsZone_observe {n : Notice} {d : ProtobufDevice} (hd : KnowsZone d.state) :
    KnowsZone (observe n.clock n.pt d).state ↔ NamesZone n d := by
  have hview : ∀ s : DeviceState, KnowsZone s ↔
      ((zoneView s).isWatering = true → (zoneView s).activeZone.isSome) := fun s => Iff.rfl
  rw [hview, zone_observe]
  unfold NamesZone
  cases frameStatus n.pt with
  | none =>
    rw [hview] at hd
    simpa using hd
  | some st =>
    simp only [Option.some.injEq, forall_eq']
    unfold zoneAfter
    cases st.isWatering with
    | none =>
      rw [hview] at hd
      simpa using hd
    | some reported =>
      cases reported with
      | false => simp
      | true =>
        simp only [forall_const]
        exact isSome_reportedZone

/-! ## Over a run -/

theorem runRules_knowsZone (replies : ℕ → Reply) (utcOffset : UtcOffset) :
    RunRules (protobufClass replies utcOffset)
      (Maintains (protobufClass replies utcOffset) NamesZone KnowsZone) := by
  apply runRules_maintains_protobuf
  · intro s s' hrun hs
    have hopen : s'.isWatering = s.isWatering := congrArg RunFields.isWatering hrun
    have hzone : s'.activeZone = s.activeZone := congrArg RunFields.activeZone hrun
    rw [KnowsZone, hopen, hzone]
    exact hs
  · intro n d hnames hd
    exact (knowsZone_observe hd).mpr hnames
  · -- a booking writes the zone before anything can raise
    intro station durationSec w _ _ _
    rw [confirmStart, after_bind_ok (run_getClock w), after_bind_ok (run_modState _ w)]
    cases w.clock.addSeconds durationSec with
    | error e =>
      rw [after_bind_error (run_raising_error rfl _)]
      rfl
    | ok off =>
      rw [after_bind_ok (run_raising_ok rfl _)]
      rfl
  · intro s hflag _ htrue
    exact absurd (hflag.symm.trans htrue) (by decide)
  · intro s _ _ htrue
    exact absurd htrue Bool.false_ne_true
  · intro s n _ hs
    exact hs

/-- From start-up on, one zone at most is open in every state of a run exactly when every frame
which reports the device watering names its station, or meets a device which knows its zone. -/
theorem atMostOneOpen_always_iff (replies : ℕ → Reply) (utcOffset : UtcOffset)
    (k : DeviceCoordinator) (clock : DateTime) (d : ProtobufDevice) {n : ℕ} (hn : 2 ≤ n)
    (es : List Event) :
    Always (protobufClass replies utcOffset) (AtMostOneOpen n) (freshProtobuf d k clock) es ↔
      AllHeard NamesZone (run (Setup.step (protobufClass replies utcOffset))
        (freshProtobuf d k clock) es).world.log := by
  have hsame : AtMostOneOpen n = KnowsZone := funext fun s => propext (atMostOneOpen_iff hn s)
  rw [hsame]
  constructor
  · rintro ⟨-, hheard⟩ notice met hmem
    obtain ⟨hmet, hafter⟩ := hheard notice met hmem
    rw [heard_protobufClass] at hafter
    exact (knowsZone_observe hmet).mp hafter
  · intro hnames
    have hfresh : KnowsZone (freshProtobuf d k clock).world.dev.state := fun htrue =>
      absurd htrue Bool.false_ne_true
    exact always_of_rules (s := freshProtobuf d k clock) (runRules_knowsZone replies utcOffset) rfl
      hfresh hnames

/-- A start on a device which stays silent. -/
theorem atMostOneOpen_always_iff_start :
    Always (protobufClass (fun _ => { clock := .epoch }) .utc) (AtMostOneOpen 2)
        (freshProtobuf {} {} .epoch) [.start .epoch 1 600] ↔
      AllHeard NamesZone (run (Setup.step (protobufClass (fun _ => { clock := .epoch }) .utc))
        (freshProtobuf {} {} .epoch) [.start .epoch 1 600]).world.log :=
  atMostOneOpen_always_iff _ .utc {} .epoch {} (le_refl 2) _

/-- `#30 {#1=2}`: a run is in progress. -/
def inProgressAck : Body := ⟨[0xF2, 0x01, 0x02, 0x08, 0x02], by decide⟩

/-- An ack in progress, and a status without a progress block, open both zones of a device with
two stations. -/
theorem both_zones_open :
    (∀ station : ℤ, isClosed station (observe .epoch inProgressAck.frame {}).state = false) ∧
      ∀ report ∈ [inProgressAck, runningReport],
        ¬ Always (protobufClass (fun _ => { clock := .epoch }) .utc) (AtMostOneOpen 2)
          (freshProtobuf {} {} .epoch) [.notify ⟨report.frame, .epoch⟩] := by
  have hview : ∀ report ∈ [inProgressAck, runningReport],
      (observe .epoch report.frame {}).state.isWatering = true ∧
        (observe .epoch report.frame {}).state.activeZone = none := by
    decide +kernel
  constructor
  · intro station
    obtain ⟨hopen, hzone⟩ := hview inProgressAck List.mem_cons_self
    exact isClosed_eq_false.mpr ⟨hopen, .inl hzone⟩
  · rintro report hreport ⟨hbetween, -⟩
    obtain ⟨hopen, hzone⟩ := hview report hreport
    have hone := (atMostOneOpen_iff (le_refl 2) _).mp (hbetween 1)
    have hstate : (protobufClass (fun _ => { clock := .epoch }) .utc).state
        (run (Setup.step (protobufClass (fun _ => { clock := .epoch }) .utc))
          (freshProtobuf {} {} .epoch) [.notify ⟨report.frame, .epoch⟩]).world.dev =
        (observe .epoch report.frame {}).state :=
      congrArg ProtobufDevice.state (dev_hears _ .utc { dev := {}, clock := .epoch } ⟨report.frame, .epoch⟩)
    rw [List.take_succ_cons, List.take_zero, hstate] at hone
    have hsome := hone hopen
    rw [hzone] at hsome
    cases hsome

end OrbitBhyve.Coordinator
