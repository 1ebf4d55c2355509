import OrbitBhyve.Devices.RunTraffic
import OrbitBhyve.Foundation.Runs

/-!
# The coordinator

`_async_update_data` polls the device, closes a run whose off time is past by
more than a grace, expires the rain delay and sets the next interval. It works
on either family through the few methods it calls. A run of the integration is
any sequence of notifications, start and stop commands and updates, at any
times; the API lock keeps the methods of one device apart.
-/

namespace OrbitBhyve.Coordinator

open Foundation Python Wire Devices

def EXPIRY_GRACE_SEC : ℤ := 10

/-- A device class as the coordinator and the valve entity use it. -/
structure DeviceClass (δ : Type) where
  radio : Radio δ
  state : δ → DeviceState
  setState : DeviceState → δ → δ
  state_setState : ∀ s d, state (setState s d) = s
  refreshState : Task δ Unit
  startWatering : ℤ → ℤ → Task δ Bool
  stopWatering : Task δ Bool
  onWateringFinished : Task δ Unit

def protobufClass (replies : ℕ → Reply) (utcOffset : UtcOffset) : DeviceClass ProtobufDevice where
  radio := protobufRadio replies utcOffset
  state := ProtobufDevice.state
  setState s d := { d with state := s }
  state_setState _ _ := rfl
  refreshState := Devices.refreshState (protobufRadio replies utcOffset)
  startWatering := Devices.startWatering (protobufRadio replies utcOffset)
  stopWatering := Devices.stopWatering (protobufRadio replies utcOffset)
  onWateringFinished := pure ()

def meshClass (replies : ℕ → Reply) : DeviceClass Ht25Device where
  radio := meshRadio replies
  state := Ht25Device.state
  setState s d := { d with state := s }
  state_setState _ _ := rfl
  refreshState := meshRefreshState (meshRadio replies)
  startWatering := startMeshWatering (meshRadio replies)
  stopWatering := stopMeshWatering (meshRadio replies)
  onWateringFinished := meshWateringFinished

theorem run_refreshState_mesh (replies : ℕ → Reply) {w : World Ht25Device}
    (h : w.dev.state.isWatering = true) : (meshClass replies).refreshState w = .ok () w := by
  change meshRefreshState (meshRadio replies) w = _
  rw [meshRefreshState, run_bind_ok (run_getDev w), run_bind_ok (run_getClock w), h,
    Bool.not_true, Bool.and_false, Bool.false_and]
  rfl

/-- `BHyveDeviceCoordinator`: its intervals, in seconds. -/
structure DeviceCoordinator where
  pollIdle : ℕ := 900
  pollWatering : ℕ := 30
  updateInterval : ℕ := pollIdle

/-- What an update returns, besides the state of the device: the coordinator with its
next interval, and whether `on_watering_finished` was called. -/
structure Updated where
  coordinator : DeviceCoordinator
  finished : Bool

def Overdue (now off : DateTime) : Prop := off.micros + EXPIRY_GRACE_SEC * 1000000 ≤ now.micros

instance (now off : DateTime) : Decidable (Overdue now off) :=
  inferInstanceAs (Decidable (_ ≤ _))

/-- What the auto-close writes. -/
def closedState (s : DeviceState) : DeviceState :=
  { s with
    isWatering := false
    activeZone := none
    secondsRemaining := none
    startedAt := none
    expectedOffAt := none }

/-- `max(0, int((expected_off_at - now).total_seconds()))`. -/
def secondsUntil (now off : DateTime) : ℤ := max 0 ((off.micros - now.micros).tdiv 1000000)

/-- What the check writes of a run which goes on. -/
def countedState (now off : DateTime) (s : DeviceState) : DeviceState :=
  { s with secondsRemaining := some (secondsUntil now off) }

/-- `expected_off_at + grace - now`, in microseconds. -/
def microsUntilClose (now off : DateTime) : Except PyErr ℤ := do
  let limit ← off.addSeconds EXPIRY_GRACE_SEC
  .ok (limit.micros - now.micros)

/-- The interval in seconds, cut short in the last stretch of a run. -/
def DeviceCoordinator.cadence (k : DeviceCoordinator) (now : DateTime) (s : DeviceState) :
    Except PyErr ℕ :=
  if s.isWatering then
    match s.expectedOffAt with
    | none => .ok k.pollWatering
    | some off => do
      let left ← microsUntilClose now off
      .ok (if 0 < left ∧ left < k.pollWatering * 1000000 then max 1 (left / 1000000).toNat
        else k.pollWatering)
  else .ok k.pollIdle

def expireRainDelay (now : DateTime) (s : DeviceState) : DeviceState :=
  match s.rainDelayEnds with
  | some ends =>
    if ends ≤ now then { s with rainDelayMinutes := some (.int 0), rainDelayEnds := none } else s
  | none => s

namespace DeviceClass

variable {δ : Type} (c : DeviceClass δ)

def modState (f : DeviceState → DeviceState) : Task δ Unit :=
  modDev fun d => c.setState (f (c.state d)) d

theorem run_modState (f : DeviceState → DeviceState) (w : World δ) :
    c.modState f w = .ok () { w with dev := c.setState (f (c.state w.dev)) w.dev } := rfl

def closeIfOverdue (off : DateTime) : Task δ Bool := do
  let now ← getClock
  let limit ← raising (off.addSeconds EXPIRY_GRACE_SEC)
  if limit ≤ now then do
    c.modState closedState
    c.onWateringFinished
    pure true
  else do
    c.modState (countedState now off)
    pure false

def autoClose : Task δ Bool := do
  let d ← getDev
  if (c.state d).isWatering then
    match (c.state d).expectedOffAt with
    | some off => c.closeIfOverdue off
    | none => pure false
  else pure false

/-- `_async_update_data`. Its clock readings are one reading. -/
def asyncUpdateData (k : DeviceCoordinator) : Task δ Updated := do
  tryCatch c.refreshState fun _ => throw .updateFailed
  let finished ← c.autoClose
  let now ← getClock
  c.modState (expireRainDelay now)
  let d ← getDev
  let target ← raising (k.cadence now (c.state d))
  pure ⟨{ k with updateInterval := target }, finished⟩

end DeviceClass

/-! ## Runs -/

/-- What happens to a device, each but a notification at a time of its own. -/
inductive Event where
  | notify (n : Notice)
  | start (clock : DateTime) (station durationSec : ℤ)
  | stop (clock : DateTime)
  | update (clock : DateTime)

structure Setup (δ : Type) where
  coordinator : DeviceCoordinator
  world : World δ

namespace Setup

variable {δ : Type} (c : DeviceClass δ)

def atClock (s : Setup δ) (clock : DateTime) : World δ := { s.world with clock := clock }

/-- An update which raises leaves the coordinator as it was. -/
def update (s : Setup δ) (clock : DateTime) : Setup δ :=
  match c.asyncUpdateData s.coordinator (s.atClock clock) with
  | .ok updated w => ⟨updated.coordinator, w⟩
  | .error _ w => ⟨s.coordinator, w⟩

def step (s : Setup δ) : Event → Setup δ
  | .notify n => { s with world := after (c.radio.hear n) s.world }
  | .start clock station durationSec =>
    { s with world := after (c.startWatering station durationSec) (s.atClock clock) }
  | .stop clock => { s with world := after c.stopWatering (s.atClock clock) }
  | .update clock => s.update c clock

theorem world_update (s : Setup δ) (clock : DateTime) :
    (s.update c clock).world = after (c.asyncUpdateData s.coordinator) (s.atClock clock) := by
  unfold update after
  cases c.asyncUpdateData s.coordinator (s.atClock clock) <;> rfl

end Setup

/-! ## Rules for runs -/

/-- What a run of the device class asks of a relation it is to move along. -/
structure RunRules {δ : Type} (c : DeviceClass δ) (M : World δ → World δ → Prop) : Prop where
  traffic : RunTraffic c.radio c.state M
  notify : ∀ n w, M w (w.hears c.radio n)
  start : ∀ station durationSec, Moves M (c.startWatering station durationSec)
  stop : Moves M c.stopWatering
  refresh : Moves M c.refreshState
  finished : Moves M c.onWateringFinished
  close : ∀ w : World δ, (c.state w.dev).isWatering = true →
    M w (after (c.modState closedState) w)
  countdown : ∀ (w : World δ) n, (c.state w.dev).isWatering = true →
    M w (after (c.modState fun s => { s with secondsRemaining := n }) w)

section RunRules

variable {δ : Type} {c : DeviceClass δ} {M : World δ → World δ → Prop} [IsPreorder _ M]

theorem moves_closeIfOverdue (hfinished : Moves M c.onWateringFinished) {off : DateTime}
    {w : World δ} (hclose : M w (after (c.modState closedState) w))
    (hcount : ∀ n, M w (after (c.modState fun s => { s with secondsRemaining := n }) w)) :
    M w (after (c.closeIfOverdue off) w) := by
  rw [DeviceClass.closeIfOverdue, after_bind_ok (run_getClock w)]
  cases hlimit : off.addSeconds EXPIRY_GRACE_SEC with
  | error e =>
    rw [after_bind_error (run_raising_error rfl w)]
    exact refl_of M w
  | ok limit =>
    rw [after_bind_ok (run_raising_ok rfl w)]
    split_ifs with hpast
    · rw [after_bind_ok (c.run_modState _ w)]
      refine trans_of M hclose ?_
      exact Moves.bind hfinished (fun _ => Moves.pure true) _
    · exact hcount _

theorem RunRules.moves_autoClose (h : RunRules c M) : Moves M c.autoClose := by
  refine moves_getDev_bind fun w => ?_
  by_cases hflag : (c.state w.dev).isWatering = true
  · rw [if_pos hflag]
    cases (c.state w.dev).expectedOffAt with
    | none => exact refl_of M w
    | some off => exact moves_closeIfOverdue h.finished (h.close w hflag) fun n => h.countdown w n hflag
  · rw [if_neg hflag]
    exact refl_of M w

theorem runFields_expireRainDelay (now : DateTime) (s : DeviceState) :
    (expireRainDelay now s).runFields = s.runFields := by
  unfold expireRainDelay
  split
  · split_ifs
    · rfl
    · rfl
  · rfl

omit [IsPreorder _ M] in
theorem moves_expireRainDelay (h : RunTraffic c.radio c.state M) (now : DateTime) :
    Moves M (c.modState (expireRainDelay now)) :=
  Moves.modify fun w => h.quiet rfl (by
    dsimp only
    rw [c.state_setState, runFields_expireRainDelay])

theorem RunRules.moves_asyncUpdateData (h : RunRules c M) (k : DeviceCoordinator) :
    Moves M (c.asyncUpdateData k) :=
  Moves.bind (Moves.tryCatch h.refresh fun _ => .throw _) fun _ =>
    Moves.bind h.moves_autoClose fun _ => Moves.bind moves_getClock fun _ =>
      Moves.bind (moves_expireRainDelay h.traffic _) fun _ => Moves.bind moves_getDev fun _ =>
        Moves.bind (.raising _) fun _ => .pure _

omit [IsPreorder _ M] in
theorem RunRules.atClock (h : RunRules c M) (s : Setup δ) (clock : DateTime) :
    M s.world (s.atClock clock) :=
  h.traffic.quiet rfl rfl

theorem RunRules.step (h : RunRules c M) (s : Setup δ) (e : Event) :
    M s.world (s.step c e).world := by
  cases e with
  | notify n => exact h.notify n s.world
  | start clock station durationSec =>
    exact trans_of M (h.atClock s clock) (h.start station durationSec _)
  | stop clock => exact trans_of M (h.atClock s clock) (h.stop _)
  | update clock =>
    rw [Setup.step, Setup.world_update]
    exact trans_of M (h.atClock s clock) (h.moves_asyncUpdateData _ _)

theorem RunRules.run (h : RunRules c M) (s : Setup δ) (es : List Event) :
    M s.world (Foundation.run (Setup.step c) s es).world := by
  induction es generalizing s with
  | nil => exact refl_of M s.world
  | cons e es ih => exact trans_of M (h.step s e) (ih (s.step c e))

end RunRules

/-- The rules of the protobuf family, from what a booking and its end do. -/
theorem runRules_protobufClass {replies : ℕ → Reply} {utcOffset : UtcOffset}
    {M : World ProtobufDevice → World ProtobufDevice → Prop} [IsPreorder _ M]
    (hhears : ∀ n w, M w (w.hears (protobufRadio replies utcOffset) n))
    (hwrites : ∀ (w : World ProtobufDevice) pt, M w { w with log := w.log ++ [.wrote pt] })
    (hquiet : ∀ {w w' : World ProtobufDevice}, w'.log = w.log →
      w'.dev.state.runFields = w.dev.state.runFields → M w w')
    (hbook : ∀ station durationSec w, w.dev.state.isWatering = true →
      M w (after (confirmStart station durationSec) w))
    (hclear : ∀ w, w.dev.state.isWatering = false → M w (after confirmStop w))
    (hclose : ∀ w, w.dev.state.isWatering = true → M w (after (modState closedState) w))
    (hcount : ∀ w n, w.dev.state.isWatering = true →
      M w (after (modState fun s => { s with secondsRemaining := n }) w)) :
    RunRules (protobufClass replies utcOffset) M :=
  have htraffic : RunTraffic (protobufRadio replies utcOffset) ProtobufDevice.state M :=
    ⟨fun _ n _ w => hhears n w, hwrites, hquiet⟩
  { traffic := htraffic
    notify := hhears
    start := fun station durationSec => htraffic.moves_startWatering (hbook station durationSec)
    stop := htraffic.moves_stopWatering hclear
    refresh := htraffic.moves_refreshState
    finished := Moves.pure ()
    close := hclose
    countdown := hcount }

/-- The rules of the mesh family, whose methods leave the run to the notifications. -/
theorem runRules_meshClass {replies : ℕ → Reply}
    {M : World Ht25Device → World Ht25Device → Prop} [IsPreorder _ M]
    (hhears : ∀ n w, M w (w.hears (meshRadio replies) n))
    (hwrites : ∀ (w : World Ht25Device) pt, M w { w with log := w.log ++ [.wrote pt] })
    (hquiet : ∀ {w w' : World Ht25Device}, w'.log = w.log →
      w'.dev.state.runFields = w.dev.state.runFields → M w w')
    (hclose : ∀ w, w.dev.state.isWatering = true → M w (after (modMeshState closedState) w))
    (hcount : ∀ w n, w.dev.state.isWatering = true →
      M w (after (modMeshState fun s => { s with secondsRemaining := n }) w)) :
    RunRules (meshClass replies) M :=
  have htraffic : RunTraffic (meshRadio replies) Ht25Device.state M :=
    ⟨fun _ n _ w => hhears n w, hwrites, hquiet⟩
  { traffic := htraffic
    notify := hhears
    start := htraffic.moves_startMeshWatering
    stop := htraffic.moves_stopMeshWatering
    refresh := htraffic.moves_meshRefreshState
    finished := htraffic.moves_endGen1Flow
    close := hclose
    countdown := hcount }

end OrbitBhyve.Coordinator
