import OrbitBhyve.Coordinator.Invariant

/-!
# An idle device keeps no books

The flag of a device and the four fields which describe its run are written in
several places: by the reports of either family, by a confirmed start and stop,
and by the auto-close. A place which opens the valve writes the flag first, and
one which closes it clears all four fields along with the flag, so a device
which is not watering never shows a run.
-/

namespace OrbitBhyve.Coordinator

open Foundation Python Wire Devices

/-- A state which is not watering describes no run. -/
def Cleared (s : DeviceState) : Prop :=
  s.isWatering = false →
    s.activeZone = none ∧ s.secondsRemaining = none ∧ s.startedAt = none ∧ s.expectedOffAt = none

instance (s : DeviceState) : Decidable (Cleared s) := inferInstanceAs (Decidable (_ → _))

theorem cleared_of_isWatering {s : DeviceState} (h : s.isWatering = true) : Cleared s :=
  fun hfalse => absurd (h.symm.trans hfalse) (by decide)

theorem cleared_of_runFields {s s' : DeviceState} (h : s'.runFields = s.runFields)
    (hs : Cleared s) : Cleared s' := by
  obtain ⟨hflag, hzone, hsec, hstart, hoff⟩ :
      s'.isWatering = s.isWatering ∧ s'.activeZone = s.activeZone ∧
        s'.secondsRemaining = s.secondsRemaining ∧ s'.startedAt = s.startedAt ∧
          s'.expectedOffAt = s.expectedOffAt := by
    simpa [DeviceState.runFields] using h
  rw [Cleared, hflag, hzone, hsec, hstart, hoff]
  exact hs

/-! ## The protobuf observer -/

section Protobuf

variable {now : DateTime} {st : DeviceStatus}

def protobufRun (d : ProtobufDevice) : RunFields := d.state.runFields

theorem cleared_of_keeps {α : Type} {x : Observe α} (h : Keeps protobufRun x) :
    Preserves (fun d : ProtobufDevice => Cleared d.state) x :=
  h.preserves fun _ _ => cleared_of_runFields

theorem isWatering_applyWatering (hst : st.isWatering = some true) (d : ProtobufDevice) :
    (after (applyWatering now st) d).state.isWatering = true := by
  have hrest : ∀ _ : Unit, Keeps (fun d : ProtobufDevice => d.state.isWatering) (do
      markParsed
      applyActiveStation st.activeStation
      applyCountdown now st.secondsRemaining) := fun _ =>
    Moves.bind (Moves.modify fun _ => rfl) fun _ =>
      Moves.bind (keeps_applyActiveStation fun _ _ => rfl) fun _ =>
        keeps_applyCountdown (fun _ _ => rfl) fun _ _ => rfl
  rw [applyWatering, hst]
  exact Preserves.after_bind (fun u => (hrest u).preserves_eq true) rfl

theorem cleared_applyWatering :
    Preserves (fun d : ProtobufDevice => Cleared d.state) (applyWatering now st) := by
  intro d hd
  cases hst : st.isWatering with
  | none =>
    rw [applyWatering, hst]
    exact hd
  | some watering =>
    cases watering with
    | true => exact cleared_of_isWatering (isWatering_applyWatering hst d)
    | false =>
      rw [applyWatering, hst]
      exact fun _ => ⟨rfl, rfl, rfl, rfl⟩

theorem cleared_observe (pt : Bytes) (d : ProtobufDevice) (hd : Cleared d.state) :
    Cleared (observe now pt d).state := by
  have hplain : Preserves (fun d : ProtobufDevice => Cleared d.state)
      (applyStatusPlaintext now pt) := by
    unfold applyStatusPlaintext
    split
    · exact Moves.pure ()
    · refine Moves.bind (Moves.raising _) fun st => ?_
      refine Moves.bind (cleared_of_keeps (keeps_applyClock fun _ _ => rfl)) fun _ => ?_
      refine Moves.bind (cleared_of_keeps (keeps_applyBattery fun _ _ => rfl)) fun _ => ?_
      refine Moves.bind
        (cleared_of_keeps (keeps_applyFlow (fun _ _ => rfl) fun _ _ => rfl)) fun _ => ?_
      refine Moves.bind cleared_applyWatering fun _ => ?_
      exact cleared_of_keeps (keeps_applyRest (fun _ _ => rfl) (fun _ _ => rfl) (fun _ _ => rfl)
        (fun _ _ => rfl) (fun _ _ => rfl) fun _ _ => rfl)
  exact hplain d hd

theorem cleared_confirmStart (station durationSec : ℤ) {w : World ProtobufDevice}
    (hflag : w.dev.state.isWatering = true) :
    Cleared (after (confirmStart station durationSec) w).dev.state := by
  have hkeep : Keeps (fun w : World ProtobufDevice => w.dev.state.isWatering)
      (confirmStart station durationSec) :=
    Moves.bind moves_getClock fun _ => Moves.bind (Moves.modify fun _ => rfl) fun _ =>
      Moves.bind (.raising _) fun _ => Moves.modify fun _ => rfl
  exact cleared_of_isWatering ((hkeep w).trans hflag)

end Protobuf

/-! ## The mesh observer -/

section Mesh

variable {now : DateTime}

def meshRun (d : Ht25Device) : RunFields := d.state.runFields

theorem ignoresFlow_meshRun : IgnoresFlow meshRun where
  meter _ _ := rfl
  rate _ _ := rfl
  volume _ _ := rfl
  release _ _ _ := rfl
  notified _ _ := rfl

theorem meshCleared_of_keeps {α : Type} {x : MeshObserve α} (h : Keeps meshRun x) :
    Preserves (fun d : Ht25Device => Cleared d.state) x :=
  h.preserves fun _ _ => cleared_of_runFields

theorem keeps_isWatering_applyMeshRunPayload (pt : Bytes) :
    Keeps (fun d : Ht25Device => d.state.isWatering) (applyMeshRunPayload now pt) := by
  have hanchor : ∀ newOff,
      Keeps (fun d : Ht25Device => d.state.isWatering) (anchorMeshOffTime newOff) := fun newOff =>
    Moves.bind .get fun _ => Moves.bind (.raising _) fun _ => .onlyIf (Moves.modify fun _ => rfl)
  refine Moves.ite (Moves.pure ()) (Moves.bind (Moves.modify fun _ => rfl) fun _ => ?_)
  refine Moves.onlyIf (Moves.bind (Moves.modify fun _ => rfl) fun _ => ?_)
  refine Moves.bind .get fun _ => Moves.bind (.raising _) fun _ => ?_
  refine Moves.bind (Moves.modify fun _ => rfl) fun _ => ?_
  exact Moves.bind (.raising _) fun _ => hanchor _

theorem isWatering_applyMode {pt : Bytes} (hopen : byteAt pt 5 = 0x04) (d : Ht25Device) :
    (after (applyMode now pt) d).state.isWatering = true := by
  have hrest : ∀ _ : Unit, Keeps (fun d : Ht25Device => d.state.isWatering) (do
      applyMeshRunPayload now pt
      onlyIf (!d.state.isWatering) notifyStateChanged) := fun _ =>
    Moves.bind (keeps_isWatering_applyMeshRunPayload pt) fun _ =>
      Moves.onlyIf (Moves.modify fun _ => rfl)
  rw [applyMode, after_bind_ok (run_get d)]
  dsimp only
  rw [if_pos hopen]
  exact Preserves.after_bind (fun u => (hrest u).preserves_eq true) rfl

theorem cleared_meshIdle (wasWatering : Bool) (d : Ht25Device) :
    Cleared (after (do
      setState meshIdleState
      onlyIf wasWatering notifyStateChanged) d).state := by
  cases wasWatering <;> exact fun _ => ⟨rfl, rfl, rfl, rfl⟩

theorem cleared_applyMode (pt : Bytes) :
    Preserves (fun d : Ht25Device => Cleared d.state) (applyMode now pt) := by
  intro d hd
  by_cases hopen : byteAt pt 5 = 0x04
  · exact cleared_of_isWatering (isWatering_applyMode hopen d)
  · rw [applyMode, after_bind_ok (run_get d)]
    dsimp only
    rw [if_neg hopen]
    cases decide (byteAt pt 5 = 0x01) with
    | false => exact hd
    | true => exact cleared_meshIdle d.state.isWatering d

theorem cleared_baseObservePlaintext (pt : Bytes) :
    Preserves (fun d : Ht25Device => Cleared d.state) (baseObservePlaintext now pt) := by
  have hinfo : Preserves (fun d : Ht25Device => Cleared d.state) (applyInfo pt) :=
    meshCleared_of_keeps (Moves.onlyIf (Moves.modify fun _ => rfl))
  exact Moves.onlyIf (Moves.ite hinfo (Moves.onlyIf (cleared_applyMode pt)))

/-- A start ack sets the flag along with the zone and the start. -/
theorem cleared_applyStartAck (pt : Bytes) :
    Preserves (fun d : Ht25Device => Cleared d.state) (applyStartAck now pt) := by
  intro d hd
  rw [applyStartAck, after_bind_ok (run_get d)]
  cases ackedDuration pt d.pendingStartDuration with
  | none => exact hd
  | some dur =>
    have hrest : ∀ _ : Unit, Keeps (fun d : Ht25Device => d.state.isWatering) (do
        let off ← raising (now.addSeconds dur)
        setState fun s => { s with expectedOffAt := some off, secondsRemaining := some dur }
        notifyStateChanged) := fun _ =>
      Moves.bind (.raising _) fun _ =>
        Moves.bind (Moves.modify fun _ => rfl) fun _ => Moves.modify fun _ => rfl
    exact cleared_of_isWatering (Preserves.after_bind (fun u => (hrest u).preserves_eq true) rfl)

theorem cleared_applyAck (pt : Bytes) :
    Preserves (fun d : Ht25Device => Cleared d.state) (applyAck now pt) := by
  have hstop : Preserves (fun d : Ht25Device => Cleared d.state) applyStopAck :=
    fun _ _ _ => ⟨rfl, rfl, rfl, rfl⟩
  exact Moves.onlyIf (Moves.ite (cleared_applyStartAck pt) (Moves.onlyIf hstop))

theorem cleared_meshObserve (pt : Bytes) (d : Ht25Device) (hd : Cleared d.state) :
    Cleared (meshObserve now pt d).state := by
  have hplain : Preserves (fun d : Ht25Device => Cleared d.state) (meshObservePlaintext now pt) :=
    Moves.bind (cleared_baseObservePlaintext pt) fun _ =>
      Moves.bind (meshCleared_of_keeps (ignoresFlow_meshRun.keeps_applyGen1FlowFrame pt)) fun _ =>
        Moves.bind (meshCleared_of_keeps (ignoresFlow_meshRun.keeps_applyFlowEnd pt)) fun _ =>
          cleared_applyAck pt
  exact hplain d hd

end Mesh

/-! ## Over a run -/

theorem cleared_stoppedState (s : DeviceState) : Cleared (stoppedState s) :=
  fun _ => ⟨rfl, rfl, rfl, rfl⟩

theorem cleared_closedState (s : DeviceState) : Cleared (closedState s) :=
  fun _ => ⟨rfl, rfl, rfl, rfl⟩

theorem runRules_cleared_protobuf (replies : ℕ → Reply) (utcOffset : UtcOffset) :
    RunRules (protobufClass replies utcOffset)
      (Maintains (protobufClass replies utcOffset) (fun _ _ => True) Cleared) :=
  runRules_maintains_protobuf cleared_of_runFields (fun n d _ hd => cleared_observe n.pt d hd)
    (fun station durationSec _ hflag _ => cleared_confirmStart station durationSec hflag)
    (fun s _ _ => cleared_stoppedState s) (fun s _ _ => cleared_closedState s)
    fun _ _ hflag _ => cleared_of_isWatering hflag

theorem runRules_cleared_mesh (replies : ℕ → Reply) :
    RunRules (meshClass replies) (Maintains (meshClass replies) (fun _ _ => True) Cleared) :=
  runRules_maintains_mesh cleared_of_runFields (fun n d _ hd => cleared_meshObserve n.pt d hd)
    (fun s _ _ => cleared_closedState s) fun _ _ hflag _ => cleared_of_isWatering hflag

/-- From start-up on, and whatever is heard, commanded and polled, a device of either
family which is not watering shows no run. -/
theorem cleared_always (replies : ℕ → Reply) (utcOffset : UtcOffset) (k : DeviceCoordinator)
    (clock : DateTime) (es : List Event) :
    (∀ d : ProtobufDevice,
      Always (protobufClass replies utcOffset) Cleared (freshProtobuf d k clock) es) ∧
    (∀ d : Ht25Device, Always (meshClass replies) Cleared (freshMesh d k clock) es) :=
  ⟨fun d => always_of_rules (s := freshProtobuf d k clock)
      (runRules_cleared_protobuf replies utcOffset) rfl (fun _ => ⟨rfl, rfl, rfl, rfl⟩)
      fun _ _ _ => trivial,
    fun d => always_of_rules (s := freshMesh d k clock)
      (runRules_cleared_mesh replies) rfl (fun _ => ⟨rfl, rfl, rfl, rfl⟩)
      fun _ _ _ => trivial⟩

end OrbitBhyve.Coordinator
