import OrbitBhyve.Devices.MeshFailure
import OrbitBhyve.Devices.RunTraffic

/-!
# The watering duration

The entity clamps in minutes, and the valve hands seconds to the device, which
puts them into two bytes. The device keeps a duration and its zone for the ack
of a start before it looks at the duration.
-/

namespace OrbitBhyve.Entities

open Foundation Python Wire Devices

/-! ## The entity and the valve -/

/-- A number which Home Assistant hands over. -/
inductive Number where
  | nan
  | inf (negative : Bool)
  | finite (q : ℚ)
  deriving DecidableEq

/-- `int(value)`, which cuts towards zero. -/
def Number.toInt : Number → Except PyErr ℤ
  | nan => .error .valueError
  | inf _ => .error .overflowError
  | finite q => .ok (q.num.tdiv q.den)

/-- `bool(value)`. -/
def Number.truthy : Number → Bool
  | nan | inf _ => true
  | finite q => q != 0

def MIN_MINUTES : ℤ := 1
def MAX_MINUTES : ℤ := 1440

/-- `BHyveDurationNumber`, with the preferred duration of its coordinator. -/
structure DurationNumber where
  /-- `_attr_native_value`, a whole number of minutes. -/
  nativeValue : ℤ
  preferredDurationSec : Option ℤ
  deriving DecidableEq

/-- What the entity shows, and what the valve will read of it. -/
def DurationNumber.ofMinutes (minutes : ℤ) : DurationNumber := ⟨minutes, some (minutes * 60)⟩

def DurationNumber.init (defaultDurationSec : ℤ) : DurationNumber :=
  .ofMinutes (max MIN_MINUTES (defaultDurationSec / 60))

/-- `max(MIN_MINUTES, min(MAX_MINUTES, int(value)))`. -/
def clampMinutes (value : Number) : Except PyErr ℤ := do
  let n ← value.toInt
  .ok (max MIN_MINUTES (min MAX_MINUTES n))

def asyncSetNativeValue (value : Number) : Except PyErr DurationNumber := do
  let minutes ← clampMinutes value
  .ok (.ofMinutes minutes)

/-- `async_added_to_hass`, with the native value which was stored. -/
def DurationNumber.asyncAddedToHass (last : Option Number) (s : DurationNumber) :
    Except PyErr DurationNumber :=
  match last with
  | none => .ok s
  | some value => do
    let minutes ← clampMinutes value
    .ok (.ofMinutes minutes)

/-- The value is written to the entity, or restored into it. -/
def Receives (value : Number) (s s' : DurationNumber) : Prop :=
  asyncSetNativeValue value = .ok s' ∨ s.asyncAddedToHass (some value) = .ok s'

def openDuration (kwarg : Option Number) (preferred : Option ℤ) (defaultDuration : ℤ) :
    Except PyErr ℤ :=
  match kwarg.filter Number.truthy with
  | some value => value.toInt
  | none => .ok ((preferred.filter fun sec => sec != 0).getD defaultDuration)

/-- `async_open_valve`: whether the coordinator is asked for a refresh. -/
def asyncOpenValve (R : Radio Ht25Device) (station defaultDuration : ℤ) (kwarg : Option Number)
    (preferred : Option ℤ) : MeshTask Bool := do
  let duration ← raising (openDuration kwarg preferred defaultDuration)
  startMeshWatering R station duration

/-! ## What is asked of a start -/

def startSeconds (pt : Bytes) : Option ℕ :=
  if byteAt pt 2 = 0xB6 ∧ byteAt pt 3 = SEQ_WATER_CTRL ∧ byteAt pt 4 = D747_ROUTING ∧
      byteAt pt 5 = 0x04 then some (wordAt pt 6)
  else none

/-- `pt` was written on the way from the one world to the other. -/
def Wrote (w w' : World Ht25Device) (pt : Bytes) : Prop :=
  ∃ es, w'.log = w.log ++ es ∧ .wrote pt ∈ es

/-- Opening the valve returns, and it has written a start of the minutes which the entity shows. -/
def Opens (R : Radio Ht25Device) (station defaultDuration : ℤ) (s : DurationNumber)
    (w : World Ht25Device) : Prop :=
  ∃ refresh w' pt sec,
    asyncOpenValve R station defaultDuration none s.preferredDurationSec w = .ok refresh w' ∧
      Wrote w w' pt ∧ startSeconds pt = some sec ∧ (sec : ℤ) = s.nativeValue * 60

/-- What an ack without a duration makes of a start. -/
def pendingStart (d : Ht25Device) : Option ℤ × Option ℤ :=
  (d.pendingStartDuration, d.pendingStartZone)

/-- A start whose frame cannot be built leaves no trace for a later ack. -/
def KeepsPending (R : Radio Ht25Device) (station durationSec : ℤ) (w : World Ht25Device) : Prop :=
  (∃ e, w.dev.buildStart 0xB6 durationSec = .error e) →
    pendingStart (after (startMeshWatering R station durationSec) w).dev = pendingStart w.dev

/-- The cloud record has a mesh id, and it fits two bytes. -/
def Addressed (d : Ht25Device) : Prop := ∃ n, d.meshDeviceId = some n ∧ 0 ≤ n ∧ n ≤ 0xFFFF

structure Commandable (d : Ht25Device) : Prop where
  hasConnection : d.hasConnection = true
  addressed : Addressed d

/-- The value is one of a whole number of minutes, cut, whose seconds fit two bytes. -/
def FitsFrame (value : Number) : Prop := ∃ n, value.toInt = .ok n ∧ n ≤ 1092

/-! ## The entity -/

theorem receives_iff {value : Number} {s s' : DurationNumber} :
    Receives value s s' ↔
      ∃ n, value.toInt = .ok n ∧ s' = .ofMinutes (max MIN_MINUTES (min MAX_MINUTES n)) := by
  unfold Receives asyncSetNativeValue DurationNumber.asyncAddedToHass clampMinutes
  cases hvalue : value.toInt with
  | error e => simp [hvalue, bind, Except.bind]
  | ok n => simp [hvalue, bind, Except.bind, eq_comm]

/-- The valve takes the minutes of the entity, which are never zero. -/
theorem openDuration_ofMinutes {minutes : ℤ} (h : 1 ≤ minutes) (defaultDuration : ℤ) :
    openDuration none (DurationNumber.ofMinutes minutes).preferredDurationSec defaultDuration =
      .ok (minutes * 60) := by
  have hne : (minutes * 60 != 0) = true := bne_iff_ne.mpr (by omega)
  have hpreferred : Option.filter (fun sec => sec != 0) (some (minutes * 60)) =
      some (minutes * 60) := by
    rw [Option.filter_some, if_pos hne]
  change Except.ok ((Option.filter (fun sec => sec != 0) (some (minutes * 60))).getD
    defaultDuration) = _
  rw [hpreferred, Option.getD_some]

/-! ## The start frame -/

theorem startSeconds_frame {address : Bytes} (h : address.length = 2) (v : BitVec 16) :
    startSeconds (address ++ [UInt8.ofNat 0xB6, UInt8.ofNat SEQ_WATER_CTRL,
      UInt8.ofNat D747_ROUTING] ++ ([0x04] ++ packU16 v ++ [0, 0, 0, 0])) = some v.toNat := by
  obtain ⟨a, b, rfl⟩ := List.length_eq_two.mp h
  rw [← unpackU16_packU16 v]
  rfl

theorem Addressed.build {d : Ht25Device} (h : Addressed d) (typeByte seq : ℕ)
    (payload : Bytes) : ∃ address : Bytes, address.length = 2 ∧ d.build typeByte seq payload =
      .ok (address ++ [UInt8.ofNat typeByte, UInt8.ofNat seq, UInt8.ofNat D747_ROUTING] ++
        payload) := by
  obtain ⟨n, hn, hlow, hhigh⟩ := h
  have haddress : d.meshAddress = .ok (packU16 (BitVec.ofInt 16 n)) := by
    rw [Ht25Device.meshAddress, hn]
    exact if_pos ⟨hlow, hhigh⟩
  refine ⟨packU16 (BitVec.ofInt 16 n), length_packU16 _, ?_⟩
  rw [Ht25Device.build, haddress]
  rfl

theorem Addressed.buildStart {d : Ht25Device} (h : Addressed d) {durationSec : ℤ}
    (hlow : 0 < durationSec) (hhigh : durationSec ≤ 0xFFFF) : ∃ pt,
    d.buildStart 0xB6 durationSec = .ok pt ∧ pt.length ≤ 255 ∧
      startSeconds pt = some durationSec.toNat := by
  obtain ⟨address, hlength, hbuild⟩ := h.build 0xB6 SEQ_WATER_CTRL
    ([0x04] ++ packU16 (BitVec.ofInt 16 durationSec) ++ [0, 0, 0, 0])
  have hvalue : (BitVec.ofInt 16 durationSec).toNat = durationSec.toNat := by
    rw [BitVec.toNat_ofInt]
    omega
  have hbytes : toBytes2 durationSec = .ok (packU16 (BitVec.ofInt 16 durationSec)) :=
    if_pos ⟨hlow.le, hhigh⟩
  refine ⟨_, ?_, ?_, (startSeconds_frame hlength _).trans (congrArg some hvalue)⟩
  · rw [Ht25Device.buildStart, if_pos ⟨hlow, hhigh⟩, hbytes]
    exact hbuild
  · simp [hlength]

theorem Addressed.flowSubscribeFrame {d : Ht25Device} (h : Addressed d) : ∃ pt,
    d.flowSubscribeFrame = .ok pt ∧ pt.length ≤ 255 := by
  obtain ⟨address, hlength, hbuild⟩ := h.build TYPE_FLOW_SUBSCRIBE SEQ_FLOW_SUBSCRIBE
    (packU16 3000 ++ packU16 700)
  exact ⟨_, hbuild, by simp [hlength]⟩

theorem buildStart_raises_iff {d : Ht25Device} {durationSec : ℤ} :
    (∃ e, d.buildStart 0xB6 durationSec = .error e) ↔
      ¬ (0 < durationSec ∧ durationSec ≤ 0xFFFF ∧ Addressed d) := by
  constructor
  · rintro ⟨e, he⟩ ⟨hlow, hhigh, haddressed⟩
    obtain ⟨pt, hpt, -⟩ := haddressed.buildStart hlow hhigh
    rw [hpt] at he
    cases he
  · intro h
    by_cases hrange : 0 < durationSec ∧ durationSec ≤ 0xFFFF
    · have haddress : ¬ Addressed d := fun haddressed => h ⟨hrange.1, hrange.2, haddressed⟩
      have hbytes : toBytes2 durationSec = .ok (packU16 (BitVec.ofInt 16 durationSec)) :=
        if_pos ⟨hrange.1.le, hrange.2⟩
      rw [Ht25Device.buildStart, if_pos hrange, hbytes]
      unfold Ht25Device.build Ht25Device.meshAddress
      cases hmesh : d.meshDeviceId with
      | none => exact ⟨.runtimeError, rfl⟩
      | some n =>
        have hbig : toBytes2 n = .error .overflowError := if_neg fun hn => haddress ⟨n, hmesh, hn⟩
        refine ⟨.overflowError, ?_⟩
        dsimp only
        rw [hbig]
        rfl
    · exact ⟨.valueError, if_neg hrange⟩

/-! ## What a start leaves alone -/

/-- The fields which the methods rely on and no frame writes. -/
def commandFields (d : Ht25Device) : Bool × Option ℤ × Option ℤ × Option ℤ :=
  (d.hasConnection, d.meshDeviceId, pendingStart d)

theorem commandFields_meshObserve (now : DateTime) (pt : Bytes) (d : Ht25Device) :
    commandFields (meshObserve now pt d) = commandFields d := by
  have hrun : RunWrites fun d d' => commandFields d' = commandFields d := {
    state := fun _ _ _ => rfl
    battery := fun _ _ => rfl
    notified := fun _ _ => rfl }
  have hflow : FlowWrites fun d d' => commandFields d' = commandFields d := {
    meter := fun _ _ => rfl
    rate := fun _ _ => rfl
    volume := fun _ _ => rfl
    release := fun _ => rfl
    notified := fun _ _ => rfl }
  exact hrun.moves_meshObserve hflow now pt d

section Keeps

variable {replies : ℕ → Reply}

def worldFields (w : World Ht25Device) : Bool × Option ℤ × Option ℤ × Option ℤ :=
  commandFields w.dev

theorem operates_worldFields :
    (meshRadio replies).Operates (fun _ => True) fun w w' => worldFields w' = worldFields w :=
  Radio.Operates.of_steps (fun _ n _ w => commandFields_meshObserve n.clock n.pt w.dev)
    (fun _ _ _ _ => rfl) (fun _ => rfl) fun _ _ _ _ => rfl

theorem holdTraffic_worldFields :
    HoldTraffic (meshRadio replies) fun w w' => worldFields w' = worldFields w where
  operates := operates_worldFields
  loses _ _ := rfl

/-! ## A start over a reliable link -/

def LogGrows (w w' : World Ht25Device) : Prop := w.log <+: w'.log

instance : IsPreorder (World Ht25Device) LogGrows where
  refl w := List.prefix_refl w.log
  trans _ _ _ := List.IsPrefix.trans

theorem runTraffic_logGrows : RunTraffic (meshRadio replies) Ht25Device.state LogGrows where
  hears _ _ _ _ := List.prefix_append _ _
  writes _ _ := List.prefix_append _ _
  quiet hlog _ := by
    unfold LogGrows
    rw [hlog]

theorem Wrote.trans {w w' w'' : World Ht25Device} {pt : Bytes} (h : Wrote w w' pt)
    (hgrows : LogGrows w' w'') : Wrote w w'' pt := by
  obtain ⟨es, hes, hmem⟩ := h
  obtain ⟨more, hmore⟩ := hgrows
  refine ⟨es ++ more, ?_, List.mem_append_left _ hmem⟩
  rw [← hmore, hes, List.append_assoc]

variable (hrel : (meshRadio replies).Reliable) {w u : World Ht25Device}
include hrel

theorem run_meshSend_of_reliable {pt : Bytes} (hpt : pt.length ≤ 255) (w : World Ht25Device) :
    ∃ n w', meshSend (meshRadio replies) pt w = .ok n w' ∧ Wrote w w' pt := by
  set w₁ : World Ht25Device := after (loseHold (meshRadio replies)) w
  have hlose : loseHold (meshRadio replies) w = .ok () w₁ := rfl
  refine ⟨(replies w₁.tick).drained, w₁.exchanged (meshRadio replies) pt, ?_, ?_⟩
  · rw [meshSend, run_bind_ok hlose, Radio.send, run_bind_ok (hrel.run_exchange hpt w₁)]
    rfl
  · obtain ⟨opening, hopening, -⟩ := @Radio.log_foldl_hears _ (meshRadio replies)
      (replies w₁.tick).opening { w₁ with tick := w₁.tick + 1 }
    obtain ⟨frames, hframes, -⟩ := @Radio.log_foldl_hears _ (meshRadio replies)
      (replies w₁.tick).frames (w₁.written (meshRadio replies) pt)
    have hopened : (w₁.opened (meshRadio replies)).log = w.log ++ opening := hopening
    refine ⟨opening ++ [.wrote pt] ++ frames, hframes.trans ?_, by simp⟩
    change (w₁.opened (meshRadio replies)).log ++ [.wrote pt] ++ frames = _
    simp only [hopened, List.append_assoc]

omit hrel in
theorem Commandable.of_worldFields (h : Commandable w.dev)
    (hfields : worldFields u = worldFields w) : Commandable u.dev := by
  have hconn : u.dev.hasConnection = w.dev.hasConnection := congrArg Prod.fst hfields
  have hmesh : u.dev.meshDeviceId = w.dev.meshDeviceId :=
    congrArg (fun fields => fields.2.1) hfields
  refine ⟨hconn.trans h.hasConnection, ?_⟩
  unfold Addressed
  rw [hmesh]
  exact h.addressed

theorem run_startMeshCommand (h : Commandable w.dev) (station : ℤ) {durationSec : ℤ}
    (hlow : 0 < durationSec) (hhigh : durationSec ≤ 0xFFFF) : ∃ u pt,
    startMeshCommand (meshRadio replies) station durationSec w = .ok () u ∧ Wrote w u pt ∧
      startSeconds pt = some durationSec.toNat ∧ Commandable u.dev := by
  set w₁ : World Ht25Device := { w with dev := { w.dev with
    pendingStartDuration := some durationSec, pendingStartZone := some station } }
  have h₁ : Commandable w₁.dev := ⟨h.hasConnection, h.addressed⟩
  obtain ⟨pt, hbuild, hlength, hseconds⟩ := h₁.addressed.buildStart hlow hhigh
  obtain ⟨n, w₂, hsend, hwrote⟩ := run_meshSend_of_reliable hrel hlength w₁
  have hcommand : sendCommand (meshRadio replies) pt w₁ = .ok n w₂ := by
    rw [sendCommand, run_tryCatch, hsend]
  have hfields : worldFields w₂ = worldFields w₁ := (holdTraffic_worldFields.moves_meshSend pt).of_ok hsend
  have h₂ : Commandable w₂.dev := h₁.of_worldFields hfields
  have hrest : startMeshCommand (meshRadio replies) station durationSec w =
      (do
        stampMeshCommand s!"start s={station} d={durationSec}" n
        markReached : MeshTask Unit) w₂ := by
    rw [startMeshCommand, run_bind_ok (run_modDev _ w), run_bind_ok (run_getDev w₁),
      run_bind_ok (run_raising_ok hbuild w₁), run_bind_ok hcommand]
  rw [hrest]
  exact ⟨_, pt, rfl, hwrote, hseconds, h₂.hasConnection, h₂.addressed⟩

theorem run_beginGen1Flow (h : Commandable u.dev) (durationSec : ℤ) : ∃ v,
    beginGen1Flow (meshRadio replies) durationSec u = .ok () v := by
  set u₁ : World Ht25Device := heldForRun u
  have h₁ : Commandable u₁.dev := ⟨h.hasConnection, h.addressed⟩
  obtain ⟨pt, hframe, hlength⟩ := h₁.addressed.flowSubscribeFrame
  obtain ⟨n, v, hsend, -⟩ := run_meshSend_of_reliable hrel hlength u₁
  have hsubscription : sendSubscription (meshRadio replies) u₁ = .ok () v := by
    rw [sendSubscription, run_bind_ok (run_getDev u₁), run_bind_ok (run_raising_ok hframe u₁),
      run_bind_ok hsend, run_pure]
  have hsubscribed : subscribeGen1Flow (meshRadio replies) u₁ = .ok true v := by
    rw [subscribeGen1Flow_eq, run_tryCatch, run_bind_ok hsubscription, run_pure]
  refine ⟨{ v with dev := { v.dev with flowSubTask := some durationSec } }, ?_⟩
  have hhold : (modDev fun d => { resetGen1Flow d with isHeld := true } : MeshTask Unit) u =
      .ok () u₁ := rfl
  rw [beginGen1Flow, run_bind_ok hhold, run_bind_ok hsubscribed]
  rfl

omit hrel in
theorem run_disconnectUnlessHeld (w : World Ht25Device) : ∃ w',
    disconnectUnlessHeld (meshRadio replies) w = .ok () w' := by
  rw [disconnectUnlessHeld, run_bind_ok (run_getDev w)]
  cases w.dev.isHeld with
  | true => exact ⟨w, rfl⟩
  | false =>
    obtain ⟨w', hdisconnect, -⟩ := run_meshDisconnect replies w
    exact ⟨w', hdisconnect⟩

/-- A start which fits two bytes returns, with its frame written. -/
theorem run_startMeshWatering (h : Commandable w.dev) (station : ℤ) {durationSec : ℤ}
    (hlow : 0 < durationSec) (hhigh : durationSec ≤ 0xFFFF) : ∃ refresh w' pt,
    startMeshWatering (meshRadio replies) station durationSec w = .ok refresh w' ∧
      Wrote w w' pt ∧ startSeconds pt = some durationSec.toNat := by
  obtain ⟨u, pt, hcommand, hwrote, hseconds, hu⟩ :=
    run_startMeshCommand hrel h station hlow hhigh
  obtain ⟨v, hflow⟩ : ∃ v, onlyIf u.dev.flowGen1Enabled
      (beginGen1Flow (meshRadio replies) durationSec) u = .ok () v := by
    cases u.dev.flowGen1Enabled with
    | true => exact run_beginGen1Flow hrel hu durationSec
    | false => exact ⟨u, rfl⟩
  obtain ⟨w', hfinally⟩ := @run_disconnectUnlessHeld replies v
  have hbody : startMeshBody (meshRadio replies) station durationSec w =
      .ok v.dev.state.isWatering v := by
    rw [startMeshBody_eq, run_bind_ok hcommand, run_bind_ok (run_getDev u), run_bind_ok hflow,
      run_bind_ok (run_getDev v), run_pure]
  have hflowed : LogGrows u v :=
    (runTraffic_logGrows.moves_beginGen1Flow durationSec).onlyIf.of_ok hflow
  have hended : LogGrows v w' :=
    runTraffic_logGrows.holdTraffic.moves_disconnectUnlessHeld.of_ok hfinally
  refine ⟨v.dev.state.isWatering, w', pt, ?_, (hwrote.trans hflowed).trans hended, hseconds⟩
  rw [startMeshWatering, run_bind_ok (run_getDev w), if_pos h.hasConnection,
    run_tryFinally_eq_ok]
  exact ⟨v, hbody, hfinally⟩

end Keeps

/-! ## What the entity may offer -/

section Offers

variable (replies : ℕ → Reply) (station : ℤ) {defaultDuration : ℤ} {w : World Ht25Device}

/-- A duration which does not fit two bytes is refused in the device. -/
theorem startMeshWatering_raises (hconn : w.dev.hasConnection = true) {durationSec : ℤ} {e : PyErr}
    (h : w.dev.buildStart 0xB6 durationSec = .error e) : ∃ w',
    startMeshWatering (meshRadio replies) station durationSec w = .error e w' ∧
      pendingStart w'.dev = (some durationSec, some station) := by
  set w₁ : World Ht25Device := { w with dev := { w.dev with
    pendingStartDuration := some durationSec, pendingStartZone := some station } }
  have hbuild : w₁.dev.buildStart 0xB6 durationSec = .error e := h
  have hbody : startMeshBody (meshRadio replies) station durationSec w = .error e w₁ := by
    rw [startMeshBody, run_bind_ok (run_modDev _ w), run_bind_ok (run_getDev w₁)]
    exact run_bind_error (run_raising_error hbuild w₁)
  obtain ⟨w', hfinally⟩ := @run_disconnectUnlessHeld replies w₁
  have hfields : worldFields w' = worldFields w₁ :=
    holdTraffic_worldFields.moves_disconnectUnlessHeld.of_ok hfinally
  refine ⟨w', ?_, congrArg (fun fields => fields.2.2) hfields⟩
  rw [startMeshWatering, run_bind_ok (run_getDev w), if_pos hconn, run_tryFinally, hbody]
  dsimp only
  rw [hfinally]

theorem opens_iff (hrel : (meshRadio replies).Reliable) (h : Commandable w.dev) {minutes : ℤ}
    (hlow : 1 ≤ minutes) :
    Opens (meshRadio replies) station defaultDuration (.ofMinutes minutes) w ↔ minutes ≤ 1092 := by
  have hopen : asyncOpenValve (meshRadio replies) station defaultDuration none
      (DurationNumber.ofMinutes minutes).preferredDurationSec w =
        startMeshWatering (meshRadio replies) station (minutes * 60) w := by
    rw [asyncOpenValve, openDuration_ofMinutes hlow]
    rfl
  unfold Opens
  rw [hopen]
  constructor
  · rintro ⟨refresh, w', pt, sec, hstart, -⟩
    by_contra hlong
    obtain ⟨e, hbuild⟩ : ∃ e, w.dev.buildStart 0xB6 (minutes * 60) = .error e :=
      buildStart_raises_iff.mpr fun hfits => by omega
    obtain ⟨v, hraises, -⟩ := startMeshWatering_raises replies station h.hasConnection hbuild
    rw [hraises] at hstart
    cases hstart
  · intro hshort
    obtain ⟨refresh, w', pt, hstart, hwrote, hseconds⟩ :=
      run_startMeshWatering hrel h station (show 0 < minutes * 60 by omega) (by omega)
    refine ⟨refresh, w', pt, _, hstart, hwrote, hseconds, ?_⟩
    exact Int.toNat_of_nonneg (by omega)

theorem keepsPending_iff {durationSec : ℤ} :
    KeepsPending (meshRadio replies) station durationSec w ↔
      0 < durationSec ∧ durationSec ≤ 0xFFFF ∧ Addressed w.dev ∨ w.dev.hasConnection = false ∨
        pendingStart w.dev = (some durationSec, some station) := by
  rw [or_iff_not_imp_left, ← buildStart_raises_iff]
  unfold KeepsPending
  refine forall_congr' fun ⟨e, hbuild⟩ => ?_
  cases hconn : w.dev.hasConnection with
  | false =>
    have hidle : startMeshWatering (meshRadio replies) station durationSec w = .ok false w := by
      rw [startMeshWatering, run_bind_ok (run_getDev w), hconn]
      rfl
    rw [after_of_ok hidle]
    simp
  | true =>
    obtain ⟨w', hraises, hpending⟩ := startMeshWatering_raises replies station hconn hbuild
    rw [after_of_error hraises, hpending]
    simp [eq_comm]

/-- A value of the entity can be started exactly up to 1092 minutes, and a start which is refused
keeps the pending one exactly if that is the same, or the device has no connection. -/
theorem duration_starts_iff (defaultDuration : ℤ) (w : World Ht25Device) :
    ((meshRadio replies).Reliable → Commandable w.dev → ∀ value s s', Receives value s s' →
      (Opens (meshRadio replies) station defaultDuration s' w ↔ FitsFrame value)) ∧
    ∀ durationSec, KeepsPending (meshRadio replies) station durationSec w ↔
      0 < durationSec ∧ durationSec ≤ 0xFFFF ∧ Addressed w.dev ∨ w.dev.hasConnection = false ∨
        pendingStart w.dev = (some durationSec, some station) := by
  refine ⟨fun hrel hcommand value s s' hreceives => ?_, fun _ => keepsPending_iff replies station⟩
  obtain ⟨n, hn, rfl⟩ := receives_iff.mp hreceives
  have hlow : 1 ≤ max MIN_MINUTES (min MAX_MINUTES n) := le_max_left _ _
  rw [opens_iff replies station hrel hcommand hlow]
  unfold FitsFrame MIN_MINUTES MAX_MINUTES
  constructor
  · intro hshort
    exact ⟨n, hn, by omega⟩
  · rintro ⟨n', hn', hshort⟩
    rw [hn] at hn'
    cases hn'
    omega

end Offers

/-! ### A day -/

/-- A link which never fails and on which nothing is heard. -/
def calm : ℕ → Reply := fun _ => { clock := .epoch }

theorem duration_starts_iff_halfHour :
    (Opens (meshRadio calm) 1 600 (.ofMinutes 30) meteredWorld ↔ FitsFrame (.finite 30)) ∧
      (KeepsPending (meshRadio calm) 1 86400 meteredWorld ↔
        (0 : ℤ) < 86400 ∧ (86400 : ℤ) ≤ 0xFFFF ∧ Addressed meteredWorld.dev ∨
          meteredWorld.dev.hasConnection = false ∨
            pendingStart meteredWorld.dev = (some 86400, some 1)) := by
  have hboth := duration_starts_iff calm 1 600 meteredWorld
  have hcommand : Commandable meteredWorld.dev := ⟨rfl, 0x1234, rfl, by decide, by decide⟩
  have hreceives : Receives (.finite 30) (.init 600) (.ofMinutes 30) := .inl (by decide +kernel)
  exact ⟨hboth.1 (fun _ => ⟨rfl, rfl⟩) hcommand _ _ _ hreceives, hboth.2 86400⟩

/-- The entity takes a day, which the device refuses; an ack without a duration then arms the
off-timer with the day. -/
theorem dayLong_refused :
    Receives (.finite 1440) (.init 600) (.ofMinutes 1440) ∧
      ¬ Opens (meshRadio calm) 1 600 (.ofMinutes 1440) meteredWorld ∧
      ¬ KeepsPending (meshRadio calm) 1 86400 meteredWorld ∧
      (meshObserve .epoch [0x34, 0x12, 0xF6, 0x0D, 0x40, 0x00] (after
        (startMeshWatering (meshRadio calm) 1 86400) meteredWorld).dev).state.secondsRemaining =
          some 86400 := by
  have hcommand : Commandable meteredWorld.dev := ⟨rfl, 0x1234, rfl, by decide, by decide⟩
  refine ⟨.inl (by decide +kernel), ?_, ?_, by decide +kernel⟩
  · rw [opens_iff calm 1 (fun _ => ⟨rfl, rfl⟩) hcommand (by decide)]
    decide
  · rw [keepsPending_iff]
    rintro (⟨-, hfits, -⟩ | hconn | hpending)
    · exact absurd hfits (by decide)
    · cases hconn
    · cases hpending

end OrbitBhyve.Entities
