import OrbitBhyve.Devices.Ht25
import OrbitBhyve.Devices.Traffic

/-!
# What the methods do to a run

Between two notifications the methods of either family write five fields of a
run in two places only: a confirmed start books the run, a confirmed stop
clears it. A relation which allows for these two, for notifications and for
everything which leaves the five fields alone is moved along by every method.
-/

namespace OrbitBhyve.Devices

open Foundation Python Wire

structure RunFields where
  isWatering : Bool
  activeZone : Option ℤ
  secondsRemaining : Option ℤ
  startedAt : Option DateTime
  expectedOffAt : Option DateTime

def DeviceState.runFields (s : DeviceState) : RunFields :=
  ⟨s.isWatering, s.activeZone, s.secondsRemaining, s.startedAt, s.expectedOffAt⟩

/-- The relation allows for notifications, for writes, and for whatever leaves the
run and the log alone. -/
structure RunTraffic {δ : Type} (R : Radio δ) (state : δ → DeviceState)
    (M : World δ → World δ → Prop) : Prop where
  hears : ∀ k, ∀ n ∈ (R.replies k).notices, ∀ w, M w (w.hears R n)
  writes : ∀ (w : World δ) pt, M w { w with log := w.log ++ [.wrote pt] }
  quiet : ∀ {w w' : World δ}, w'.log = w.log →
    (state w'.dev).runFields = (state w.dev).runFields → M w w'

theorem RunTraffic.operates {δ : Type} {R : Radio δ} {state : δ → DeviceState}
    {M : World δ → World δ → Prop} [IsPreorder _ M] (h : RunTraffic R state M) :
    R.Operates (fun _ => True) M :=
  Radio.Operates.of_steps h.hears (fun _ _ _ _ => h.quiet rfl rfl) (fun _ => h.quiet rfl rfl)
    fun w pt _ _ => h.writes w pt

theorem moves_getDev_bind {δ α : Type} {M : World δ → World δ → Prop} {f : δ → Task δ α}
    (h : ∀ w, M w (after (f w.dev) w)) : Moves M (getDev >>= f) := by
  intro w
  rw [after_bind_ok (run_getDev w)]
  exact h w

/-! ## The protobuf family -/

namespace RunTraffic

section Protobuf

variable {R : Radio ProtobufDevice} {M : World ProtobufDevice → World ProtobufDevice → Prop}
  [IsPreorder _ M] (h : RunTraffic R ProtobufDevice.state M)
include h

omit [IsPreorder _ M] in
theorem moves_modState {f : DeviceState → DeviceState}
    (hf : ∀ s, (f s).runFields = s.runFields) : Moves M (modState f) :=
  Devices.moves_modState fun w => h.quiet rfl (hf w.dev.state)

theorem moves_stampCommand (label : String) (notifs : ℕ) : Moves M (stampCommand label notifs) :=
  Moves.bind moves_getClock fun _ => h.moves_modState fun _ => rfl

theorem statusTraffic : StatusTraffic R (fun _ => True) M :=
  .of_blocks h.operates fun _ _ _ _ _ => trivial

theorem moves_refreshStatus (syncClock : Bool) : Moves M (refreshStatus R syncClock) :=
  h.statusTraffic.moves_refreshStatus (fun _ => h.quiet rfl rfl) syncClock

/-! ### Watering -/

theorem moves_startOutcome {station durationSec : ℤ}
    (hstart : ∀ w, w.dev.state.isWatering = true →
      M w (after (confirmStart station durationSec) w)) (notifs : ℕ) :
    Moves M (startOutcome R station durationSec notifs) := by
  refine Moves.bind (h.moves_stampCommand _ _) fun _ => Moves.bind moves_getDev fun _ => ?_
  refine Moves.bind (.onlyIf (Moves.bind h.operates.suspend fun _ =>
    h.moves_refreshStatus false)) fun _ => moves_getDev_bind fun w => ?_
  -- what is booked is booked on a watering device
  by_cases hflag : w.dev.state.isWatering = true
  · rw [if_pos hflag]
    have hconfirm := hstart w hflag
    cases hrun : confirmStart station durationSec w with
    | ok a w' =>
      rw [after_bind_ok hrun]
      rwa [after_of_ok hrun] at hconfirm
    | error e w' =>
      rw [after_bind_error hrun]
      rwa [after_of_error hrun] at hconfirm
  · rw [if_neg hflag]
    exact refl_of M w

theorem moves_startAttempts {station durationSec : ℤ}
    (hstart : ∀ w, w.dev.state.isWatering = true →
      M w (after (confirmStart station durationSec) w)) (msg : Bytes) (left : ℕ) :
    Moves M (startAttempts R station durationSec msg left) := by
  induction left with
  | zero => exact .pure _
  | succ left ih =>
    exact Moves.bind (h.operates.send trivial) fun _ =>
      Moves.bind (h.moves_startOutcome hstart _) fun _ =>
        .ite (.pure _) (Moves.bind (.onlyIf h.operates.suspend) fun _ => ih)

theorem moves_startWatering {station durationSec : ℤ}
    (hstart : ∀ w, w.dev.state.isWatering = true →
      M w (after (confirmStart station durationSec) w)) :
    Moves M (startWatering R station durationSec) :=
  Moves.bind moves_getDev fun _ => .ite
    (Moves.tryFinally (Moves.bind_raising fun msg _ => h.moves_startAttempts hstart msg 2)
      h.operates.suspend) (.pure _)

theorem moves_stopOutcome
    (hstop : ∀ w, w.dev.state.isWatering = false → M w (after confirmStop w)) (notifs : ℕ) :
    Moves M (stopOutcome R notifs) := by
  refine Moves.bind (h.moves_stampCommand _ _) fun _ => Moves.bind h.operates.suspend fun _ => ?_
  refine Moves.bind (h.moves_refreshStatus false) fun _ => moves_getDev_bind fun w => ?_
  by_cases hflag : w.dev.state.isWatering = true
  · rw [if_pos hflag]
    exact refl_of M w
  · rw [if_neg hflag]
    exact hstop w (by simpa using hflag)

theorem moves_stopAttempts
    (hstop : ∀ w, w.dev.state.isWatering = false → M w (after confirmStop w)) (msg : Bytes)
    (left : ℕ) : Moves M (stopAttempts R msg left) := by
  induction left with
  | zero => exact .pure _
  | succ left ih =>
    exact Moves.bind (h.operates.send trivial) fun _ =>
      Moves.bind (h.moves_stopOutcome hstop _) fun _ =>
        .ite (.pure _) (Moves.bind (.onlyIf h.operates.suspend) fun _ => ih)

theorem moves_stopWatering
    (hstop : ∀ w, w.dev.state.isWatering = false → M w (after confirmStop w)) :
    Moves M (stopWatering R) :=
  Moves.bind moves_getDev fun _ => .ite
    (Moves.tryFinally (Moves.bind_raising fun msg _ => h.moves_stopAttempts hstop msg 2)
      h.operates.suspend) (.pure _)

/-! ### The poll -/

theorem moves_readFlowLocked : Moves M (readFlowLocked R) :=
  Devices.moves_readFlowLocked h.operates (fun _ _ => trivial) (fun _ _ => trivial)
    (fun _ _ => h.quiet rfl rfl) fun _ _ => h.quiet rfl rfl

theorem moves_pollStatus : Moves M (pollStatus R) := by
  refine Moves.bind (h.moves_refreshStatus true) fun _ =>
    Moves.bind (h.moves_modState fun _ => rfl) fun _ => Moves.bind moves_getDev fun _ => ?_
  refine .ite ?_ (h.moves_modState fun _ => rfl)
  refine Moves.bind moves_getClock fun _ => Moves.bind (h.moves_modState fun _ => rfl) fun _ => ?_
  refine Moves.bind moves_getDev fun _ => Moves.bind (.onlyIf h.moves_readFlowLocked) fun _ => ?_
  refine Moves.bind moves_getDev fun _ => .onlyIf (Moves.swallow (Moves.bind ?_ fun _ => .pure _))
  exact moves_readPrograms h.operates (fun _ _ => trivial) fun _ _ => h.quiet rfl rfl

/-- The poll itself leaves the run to the notifications. -/
theorem moves_refreshState : Moves M (refreshState R) :=
  Moves.bind moves_getDev fun _ => .onlyIf (Moves.tryFinally
    (Moves.tryCatch h.moves_pollStatus fun _ => h.moves_modState fun _ => rfl) h.operates.suspend)

end Protobuf

/-! ## The mesh family -/

section Mesh

variable {R : Radio Ht25Device} {M : World Ht25Device → World Ht25Device → Prop}
  [IsPreorder _ M] (h : RunTraffic R Ht25Device.state M)
include h

omit [IsPreorder _ M] in
theorem moves_modMeshState {f : DeviceState → DeviceState}
    (hf : ∀ s, (f s).runFields = s.runFields) : Moves M (modMeshState f) :=
  Moves.modify fun w => h.quiet rfl (hf w.dev.state)

omit [IsPreorder _ M] in
theorem moves_modDev {f : Ht25Device → Ht25Device}
    (hf : ∀ d, (f d).state.runFields = d.state.runFields) : Moves M (modDev f) :=
  Moves.modify fun w => h.quiet rfl (hf w.dev)

omit [IsPreorder _ M] in
theorem moves_endGen1Flow : Moves M (onDevice endGen1Flow) := h.moves_modDev fun _ => rfl

theorem moves_markReached : Moves M markReached :=
  Moves.bind moves_getClock fun _ => h.moves_modMeshState fun _ => rfl

theorem holdTraffic : HoldTraffic R M where
  operates := h.operates
  loses _ _ := h.quiet rfl rfl

theorem moves_meshDisconnect : Moves M (meshDisconnect R) := h.holdTraffic.moves_meshDisconnect

theorem moves_meshSend (pt : Bytes) : Moves M (meshSend R pt) := h.holdTraffic.moves_meshSend pt

theorem moves_sendCommand (pt : Bytes) : Moves M (sendCommand R pt) :=
  Moves.tryCatch (h.moves_meshSend pt) fun _ => .ite (.pure _) (.throw _)

theorem moves_beginGen1Flow (durationSec : ℤ) : Moves M (beginGen1Flow R durationSec) := by
  refine Moves.bind (h.moves_modDev fun _ => rfl) fun _ => Moves.bind ?_ fun subscribed => ?_
  · refine Moves.tryCatch (Moves.bind moves_getDev fun _ => Moves.bind (.raising _) fun _ =>
      Moves.bind (h.moves_meshSend _) fun _ => .pure _) fun _ => ?_
    exact .ite (.pure _) (.throw _)
  · exact .ite (h.moves_modDev fun _ => rfl) h.moves_endGen1Flow

theorem moves_startMeshBody (station durationSec : ℤ) :
    Moves M (startMeshBody R station durationSec) :=
  Moves.bind (h.moves_modDev fun _ => rfl) fun _ => Moves.bind moves_getDev fun _ =>
    Moves.bind (.raising _) fun _ => Moves.bind (h.moves_sendCommand _) fun _ =>
      Moves.bind (Moves.bind moves_getClock fun _ => h.moves_modMeshState fun _ => rfl) fun _ =>
        Moves.bind h.moves_markReached fun _ => Moves.bind moves_getDev fun _ =>
          Moves.bind (.onlyIf (h.moves_beginGen1Flow _)) fun _ => Moves.bind moves_getDev
            fun _ => .pure _

theorem moves_startMeshWatering (station durationSec : ℤ) :
    Moves M (startMeshWatering R station durationSec) :=
  Moves.bind moves_getDev fun _ => .ite (Moves.tryFinally (h.moves_startMeshBody _ _)
    h.holdTraffic.moves_disconnectUnlessHeld) (.pure _)

theorem moves_stopMeshBody : Moves M (stopMeshBody R) :=
  Moves.bind moves_getDev fun _ => Moves.bind (.raising _) fun _ =>
    Moves.bind (h.moves_sendCommand _) fun _ =>
      Moves.bind (Moves.bind moves_getClock fun _ => h.moves_modMeshState fun _ => rfl) fun _ =>
        Moves.bind h.moves_markReached fun _ => Moves.bind h.moves_endGen1Flow fun _ =>
          Moves.bind (h.moves_modMeshState fun _ => rfl) fun _ => Moves.bind moves_getDev
            fun _ => .pure _

theorem moves_stopMeshWatering : Moves M (stopMeshWatering R) :=
  Moves.bind moves_getDev fun _ => .ite
    (Moves.tryFinally h.moves_stopMeshBody h.moves_meshDisconnect) (.pure _)

theorem moves_reconnect : Moves M (reconnect R) := by
  refine Moves.tryCatch (Moves.bind h.moves_meshDisconnect fun _ =>
    Moves.bind h.operates.ensureConnected fun _ => .pure _) fun _ => ?_
  exact .ite (Moves.bind (h.moves_modMeshState fun _ => rfl) fun _ => .pure _) (.throw _)

theorem moves_meshRefreshState : Moves M (meshRefreshState R) :=
  Moves.bind moves_getDev fun _ => Moves.bind moves_getClock fun _ => .onlyIf
    (Moves.bind moves_getDev fun _ => .onlyIf (Moves.tryFinally
      (Moves.bind h.moves_reconnect fun _ => .onlyIf h.moves_markReached) h.moves_meshDisconnect))

end Mesh
end RunTraffic
end OrbitBhyve.Devices
