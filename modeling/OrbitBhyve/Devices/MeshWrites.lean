import OrbitBhyve.Devices.Mesh

/-!
# What a mesh frame writes

Outside of the flow a frame writes the run, the raw status, the battery and the
counter of the callback. A relation which allows for these, and for what
measuring the flow writes, is moved along by every frame.
-/

namespace OrbitBhyve.Devices

open Foundation Python Wire

def SameButRun (s s' : DeviceState) : Prop :=
  ∃ isWatering zone left start off raw, s' = { s with
    isWatering := isWatering
    activeZone := zone
    secondsRemaining := left
    startedAt := start
    expectedOffAt := off
    meshStatusRaw := raw }

/-- The relation allows for what a frame writes outside of the flow. -/
structure RunWrites (M : Ht25Device → Ht25Device → Prop) : Prop where
  state : ∀ d s, SameButRun d.state s → M d { d with state := s }
  battery : ∀ d v, M d { d with batteryMv := v }
  notified : ∀ d v, M d { d with notified := v }

namespace RunWrites

variable {M : Ht25Device → Ht25Device → Prop} (h : RunWrites M)
include h

theorem moves_setState {f : DeviceState → DeviceState} (hf : ∀ s, SameButRun s (f s)) :
    Moves M (setState f) :=
  Moves.modify fun d => h.state d _ (hf d.state)

theorem moves_notify : Moves M notifyStateChanged := Moves.modify fun d => h.notified d _

variable [IsPreorder _ M]

theorem moves_anchorMeshOffTime (newOff : DateTime) : Moves M (anchorMeshOffTime newOff) := by
  refine Moves.bind Moves.get fun d => ?_
  refine Moves.bind (Moves.raising _) fun moves => ?_
  exact Moves.onlyIf (h.moves_setState fun _ => ⟨_, _, _, _, _, _, rfl⟩)

theorem moves_applyMeshCountdown (now : DateTime) (duration remaining : ℕ) :
    Moves M (applyMeshCountdown now duration remaining) := by
  refine Moves.bind (h.moves_setState fun _ => ⟨_, _, _, _, _, _, rfl⟩) fun _ => ?_
  refine Moves.bind Moves.get fun d => ?_
  refine Moves.bind (Moves.raising _) fun start => ?_
  refine Moves.bind (h.moves_setState fun _ => ⟨_, _, _, _, _, _, rfl⟩) fun _ => ?_
  refine Moves.bind (Moves.raising _) fun newOff => ?_
  exact h.moves_anchorMeshOffTime newOff

theorem moves_applyMode (now : DateTime) (pt : Bytes) : Moves M (applyMode now pt) := by
  have hpayload : Moves M (applyMeshRunPayload now pt) := by
    refine Moves.ite (Moves.pure ()) ?_
    refine Moves.bind (h.moves_setState fun _ => ⟨_, _, _, _, _, _, rfl⟩) fun _ => ?_
    exact Moves.onlyIf (h.moves_applyMeshCountdown now _ _)
  refine Moves.bind Moves.get fun d => ?_
  apply Moves.ite
  · refine Moves.bind (h.moves_setState fun _ => ⟨_, _, _, _, _, _, rfl⟩) fun _ => ?_
    exact Moves.bind hpayload fun _ => Moves.onlyIf h.moves_notify
  · apply Moves.onlyIf
    refine Moves.bind (h.moves_setState fun _ => ⟨_, _, _, _, _, _, rfl⟩) fun _ => ?_
    exact Moves.onlyIf h.moves_notify

theorem moves_baseObservePlaintext (now : DateTime) (pt : Bytes) :
    Moves M (baseObservePlaintext now pt) := by
  have hinfo : Moves M (applyInfo pt) := Moves.onlyIf (Moves.modify fun d => h.battery d _)
  exact Moves.onlyIf (Moves.ite hinfo (Moves.onlyIf (h.moves_applyMode now pt)))

theorem moves_applyAck (now : DateTime) (pt : Bytes) : Moves M (applyAck now pt) := by
  have hstart : Moves M (applyStartAck now pt) := by
    refine Moves.bind Moves.get fun d => ?_
    cases ackedDuration pt d.pendingStartDuration with
    | none => exact Moves.pure ()
    | some dur =>
      refine Moves.bind (h.moves_setState fun _ => ⟨_, _, _, _, _, _, rfl⟩) fun _ => ?_
      refine Moves.bind (Moves.raising _) fun off => ?_
      refine Moves.bind (h.moves_setState fun _ => ⟨_, _, _, _, _, _, rfl⟩) fun _ => ?_
      exact h.moves_notify
  have hstop : Moves M applyStopAck := by
    refine Moves.bind (h.moves_setState fun _ => ⟨_, _, _, _, _, _, rfl⟩) fun _ => ?_
    exact h.moves_notify
  exact Moves.onlyIf (Moves.ite hstart (Moves.onlyIf hstop))

theorem moves_meshObserve (hflow : FlowWrites M) (now : DateTime) (pt : Bytes) (d : Ht25Device) :
    M d (meshObserve now pt d) := by
  have hplain : Moves M (meshObservePlaintext now pt) := by
    refine Moves.bind (h.moves_baseObservePlaintext now pt) fun _ => ?_
    refine Moves.bind (hflow.moves_applyGen1FlowFrame pt) fun _ => ?_
    refine Moves.bind (hflow.moves_applyFlowEnd pt) fun _ => ?_
    exact h.moves_applyAck now pt
  exact hplain d

end RunWrites
end OrbitBhyve.Devices
