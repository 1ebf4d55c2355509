import OrbitBhyve.Devices.RunReport
import OrbitBhyve.Python.Floats
import Mathlib.Data.Rat.Defs
import Mathlib.Data.PNat.Defs

/-!
# The mesh observer

`_observe_plaintext` of `BHyveHT25Device` and of its base class. A frame is
`[mesh:2][type:1][seq:1][routing:1][payload]`; a reply has the bit `0x40` of
its type set. Battery, watering state, flow samples, the end of a measured run
and the acks of a command arrive under sequence numbers of their own, so a frame
says one thing at most about the run.
-/

namespace OrbitBhyve.Devices

open Foundation Python Wire

def D747_ROUTING : ℕ := 0x40
def SEQ_STATUS : ℕ := 0x02
def SEQ_INFO : ℕ := 0x03
def SEQ_WATER_CTRL : ℕ := 0x0D
def SEQ_FLOW : ℕ := 0x0B
def SEQ_FLOW_END : ℕ := 0x0C
def SEQ_FLOW_SUBSCRIBE : ℕ := 0x0E
def TYPE_FLOW_SUBSCRIBE : ℕ := 0x89
def GEN1_MAX_TICKS_PER_SEC : ℕ := 200
def MESH_COUNTDOWN_HZ : ℕ := 64

/-- The `_gen1_*` attributes: the last flow sample, and the wraps of its counter. -/
structure Gen1Meter where
  lastElapsed : Option ℕ := none
  lastCum : ℕ := 0
  lastTotal : Option ℕ := none
  wraps : ℕ := 0
  deriving DecidableEq

/-- The fields of `BHyveHT25Device` which its methods read or write;
`has_flow_gen1` is true of the class. -/
structure Ht25Device where
  state : DeviceState := {}
  batteryMv : Option ℕ := none
  meshDeviceId : Option ℤ := none
  flowCountsPerLitre : ℕ+ := 112
  flowGen1Enabled : Bool := false
  activeStatusPoll : Bool := false
  pendingStartDuration : Option ℤ := none
  pendingStartZone : Option ℤ := none
  gen1 : Gen1Meter := {}
  /-- The duration which the live renewal task was created for. -/
  flowSubTask : Option ℤ := none
  /-- `self.connection is not None`. -/
  hasConnection : Bool := true
  /-- `self.connection.is_held`. -/
  isHeld : Bool := false
  /-- Calls of the state-changed callback. -/
  notified : ℕ := 0

def freshHt25 : Ht25Device := {}

abbrev MeshObserve := Prog PyErr Ht25Device

def setState (f : DeviceState → DeviceState) : MeshObserve Unit :=
  modify fun d => { d with state := f d.state }

def notifyStateChanged : MeshObserve Unit :=
  modify fun d => { d with notified := d.notified + 1 }

/-! ## Frames -/

/-- `pt[i]`, on a frame which is long enough. -/
def byteAt (pt : Bytes) (i : ℕ) : ℕ := (pt.getD i 0).toNat

/-- `int.from_bytes(pt[i:i + 2], "little")`, on a frame which is long enough. -/
def wordAt (pt : Bytes) (i : ℕ) : ℕ := unpackU16 (pt.drop i)

/-- `pt[2] & 0x40`. -/
def isReply (pt : Bytes) : Bool := byteAt pt 2 &&& 0x40 != 0

/-- `n.to_bytes(2, "little")`. -/
def toBytes2 (n : ℤ) : Except PyErr Bytes :=
  if 0 ≤ n ∧ n ≤ 0xFFFF then .ok (packU16 (BitVec.ofInt 16 n)) else .error .overflowError

def Ht25Device.meshAddress (d : Ht25Device) : Except PyErr Bytes :=
  match d.meshDeviceId with
  | none => .error .runtimeError
  | some n => toBytes2 n

def Ht25Device.build (d : Ht25Device) (typeByte seq : ℕ) (payload : Bytes) :
    Except PyErr Bytes := do
  let address ← d.meshAddress
  .ok (address ++ [UInt8.ofNat typeByte, UInt8.ofNat seq, UInt8.ofNat D747_ROUTING] ++ payload)

def Ht25Device.buildStart (d : Ht25Device) (typeByte : ℕ) (durationSec : ℤ) :
    Except PyErr Bytes := do
  if 0 < durationSec ∧ durationSec ≤ 0xFFFF then
    let duration ← toBytes2 durationSec
    d.build typeByte SEQ_WATER_CTRL ([0x04] ++ duration ++ [0, 0, 0, 0])
  else .error .valueError

def Ht25Device.buildStop (d : Ht25Device) (typeByte : ℕ) : Except PyErr Bytes :=
  d.build typeByte SEQ_WATER_CTRL [2, 0, 0, 0]

/-- `_flow_subscribe_frame`: `struct.pack("<HH", 3000, 700)`. -/
def Ht25Device.flowSubscribeFrame (d : Ht25Device) : Except PyErr Bytes :=
  d.build TYPE_FLOW_SUBSCRIBE SEQ_FLOW_SUBSCRIBE (packU16 3000 ++ packU16 700)

/-! ## Battery and watering state -/

def applyInfo (pt : Bytes) : MeshObserve Unit :=
  let mv := wordAt pt 9
  onlyIf (decide (1500 ≤ mv ∧ mv ≤ 4000)) (modify fun d => { d with batteryMv := some mv })

/-- What an idle report and a stop ack clear. -/
def meshIdleState (s : DeviceState) : DeviceState :=
  { s with
    isWatering := false
    activeZone := none
    secondsRemaining := none
    startedAt := none
    expectedOffAt := none }

/-- `now - timedelta(seconds=duration - remaining)` for a run found on the way. -/
def synthesizedStart (now : DateTime) (elapsed : ℕ) (startedAt : Option DateTime) :
    Except PyErr DateTime :=
  match startedAt with
  | some start => .ok start
  | none => now.addSeconds (-(elapsed : ℤ))

def anchorMeshOffTime (newOff : DateTime) : MeshObserve Unit := do
  let d ← get
  let moves ← raising (movesOffTime d.state.expectedOffAt newOff)
  onlyIf moves (setState fun s => { s with expectedOffAt := some newOff })

/-- `_apply_mesh_run_payload` past its checks. -/
def applyMeshCountdown (now : DateTime) (duration remaining : ℕ) : MeshObserve Unit := do
  setState fun s =>
    { s with
      secondsRemaining := some (remaining : ℤ)
      activeZone := s.activeZone <|> some 1 }
  let d ← get
  let start ← raising (synthesizedStart now (duration - remaining) d.state.startedAt)
  setState fun s => { s with startedAt := some start }
  let newOff ← raising (now.addSeconds remaining)
  anchorMeshOffTime newOff

/-- The remaining seconds of an active status. -/
def meshRemaining (pt : Bytes) : ℕ :=
  (wordAt pt 6 ||| ((byteAt pt 8 &&& 0x3F) <<< 16)) / MESH_COUNTDOWN_HZ

/-- The cross-check of the countdown against the echoed duration. -/
def meshPlausible (pt : Bytes) : Bool :=
  decide (0 < wordAt pt 9 ∧ wordAt pt 9 ≤ 0xFFFF ∧ meshRemaining pt ≤ wordAt pt 9)

def applyMeshRunPayload (now : DateTime) (pt : Bytes) : MeshObserve Unit :=
  if pt.length < 12 then pure ()
  else do
    setState fun s => { s with meshStatusRaw := some ((pt.drop 5).take 7) }
    onlyIf (meshPlausible pt) (applyMeshCountdown now (wordAt pt 9) (meshRemaining pt))

def applyMode (now : DateTime) (pt : Bytes) : MeshObserve Unit := do
  let d ← get
  let wasWatering := d.state.isWatering
  if byteAt pt 5 = 0x04 then do
    setState fun s => { s with isWatering := true }
    applyMeshRunPayload now pt
    onlyIf (!wasWatering) notifyStateChanged
  else onlyIf (decide (byteAt pt 5 = 0x01)) (do
    setState meshIdleState
    onlyIf wasWatering notifyStateChanged)

/-- A reply which the base class looks at. -/
def isMeshReply (pt : Bytes) : Bool :=
  decide (6 ≤ pt.length ∧ byteAt pt 4 = D747_ROUTING) && isReply pt

/-- `_observe_plaintext` of the base class. -/
def baseObservePlaintext (now : DateTime) (pt : Bytes) : MeshObserve Unit :=
  onlyIf (isMeshReply pt)
    (if byteAt pt 3 = SEQ_INFO ∧ 12 ≤ pt.length then applyInfo pt
    else onlyIf (decide (byteAt pt 3 = SEQ_STATUS)) (applyMode now pt))

/-! ## Flow -/

/-- The seconds since the last sample and the wraps of the counter after this one. A
jump backwards which no flow explains counts as a first sample. -/
def Gen1Meter.advance (m : Gen1Meter) (elapsed cum : ℕ) : Option ℤ × ℕ :=
  match m.lastElapsed with
  | none => (none, 0)
  | some prev =>
    let dt : ℤ := (elapsed : ℤ) - prev
    if dt ≤ 0 then (some dt, 0)
    else if cum < m.lastCum then
      if dt * GEN1_MAX_TICKS_PER_SEC < ((65536 - m.lastCum + cum : ℕ) : ℤ) then (none, 0)
      else (some dt, m.wraps + 1)
    else (some dt, m.wraps)

/-- `inc / dt * 60.0 / self.flow_counts_per_litre`. -/
def litreRate (inc dt : ℚ) (countsPerLitre : ℕ+) : ℚ :=
  floatOf (floatOf (floatOf (inc / dt) * 60) / countsPerLitre)

def gen1Rate (dt : Option ℤ) (prevTotal : Option ℕ) (total : ℕ) (countsPerLitre : ℕ+) :
    Except PyErr (Option ℚ) :=
  match dt, prevTotal with
  | some dt, some prev =>
    if total < prev then .ok none
    else if dt = 0 then .error .other -- `ZeroDivisionError`
    else .ok (some (roundTo 10 (litreRate (total - prev : ℕ) dt countsPerLitre)))
  | _, _ => .ok none

/-- The part of `apply_gen1_flow_frame` which books a sample of a run. -/
def bookGen1Sample (elapsed cum : ℕ) : MeshObserve Unit := do
  let d ← get
  let dt := (d.gen1.advance elapsed cum).1
  let wraps := (d.gen1.advance elapsed cum).2
  modify fun d => { d with gen1 := { d.gen1 with wraps := wraps } }
  let total := wraps * 65536 + cum
  let rate ← raising (gen1Rate dt d.gen1.lastTotal total d.flowCountsPerLitre)
  onlyIf rate.isSome (setState fun s => { s with flowLpmGen1 := rate })
  setState fun s =>
    { s with waterUsedGen1L := some (roundTo 100 (floatOf (total / d.flowCountsPerLitre))) }
  modify fun d =>
    { d with
      gen1 :=
        { d.gen1 with lastElapsed := some elapsed, lastCum := cum, lastTotal := some total } }
  notifyStateChanged

/-- The zeroed samples after a run stop the rate and keep the volume. -/
def stopGen1Rate : MeshObserve Unit := do
  let d ← get
  onlyIf (decide (d.state.flowLpmGen1 ≠ none ∧ d.state.flowLpmGen1 ≠ some 0)) (do
    setState fun s => { s with flowLpmGen1 := some 0 }
    notifyStateChanged)

/-- A frame of this device, at least `len` bytes long, under the sequence number `seq`. -/
def isOwnFrame (len seq : ℕ) (pt : Bytes) (d : Ht25Device) : Except PyErr Bool :=
  if d.meshDeviceId.isNone ∨ pt.length < len then .ok false
  else do
    let address ← d.meshAddress
    .ok (decide (pt.take 2 = address ∧ byteAt pt 3 = seq ∧ byteAt pt 4 = D747_ROUTING))

/-- A flow sample of this device: the device samples on, all zero, after a run. -/
def applyGen1Sample (elapsed cum : ℕ) : MeshObserve Unit :=
  if elapsed = 0 then stopGen1Rate else bookGen1Sample elapsed cum

def applyGen1FlowFrame (pt : Bytes) : MeshObserve Bool := do
  let d ← get
  let own ← raising (isOwnFrame 11 SEQ_FLOW pt d)
  onlyIf own (applyGen1Sample (wordAt pt 7) (wordAt pt 9))
  pure own

def endGen1Flow : MeshObserve Unit :=
  modify fun d => { d with flowSubTask := none, isHeld := d.isHeld && !d.hasConnection }

/-- The end of a measured run, reported by the device. -/
def applyFlowEnd (pt : Bytes) : MeshObserve Unit := do
  let d ← get
  -- the sequence number is looked at before the address
  if byteAt pt 3 = SEQ_FLOW_END ∧ byteAt pt 4 = D747_ROUTING then do
    let own ← raising (isOwnFrame 8 SEQ_FLOW_END pt d)
    onlyIf own endGen1Flow
  else pure ()

/-! ## Acks -/

/-- The duration a start ack echoes, if it has one which is not zero, else the pending one. -/
def ackedDuration (pt : Bytes) (pending : Option ℤ) : Option ℤ :=
  if 8 ≤ pt.length ∧ byteAt pt 5 = 0x04 ∧ wordAt pt 6 ≠ 0 then some (wordAt pt 6)
  else if pending = some 0 then none
  else pending

def applyStartAck (now : DateTime) (pt : Bytes) : MeshObserve Unit := do
  let d ← get
  match ackedDuration pt d.pendingStartDuration with
  | none => pure ()
  | some dur => do
    setState fun s =>
      { s with
        isWatering := true
        activeZone := d.pendingStartZone
        startedAt := some now }
    let off ← raising (now.addSeconds dur)
    setState fun s => { s with expectedOffAt := some off, secondsRemaining := some dur }
    notifyStateChanged

def applyStopAck : MeshObserve Unit := do
  setState meshIdleState
  notifyStateChanged

/-- `pt[2] & ~0x40`. -/
def ackedCommand (pt : Bytes) : ℕ := Nat.ldiff (byteAt pt 2) 0x40

def applyAck (now : DateTime) (pt : Bytes) : MeshObserve Unit :=
  onlyIf (isMeshReply pt && decide (byteAt pt 3 = SEQ_WATER_CTRL))
    (if ackedCommand pt = 0xB6 then applyStartAck now pt
    else onlyIf (decide (ackedCommand pt = 0xB7)) applyStopAck)

def meshObservePlaintext (now : DateTime) (pt : Bytes) : MeshObserve Unit := do
  baseObservePlaintext now pt
  let _ ← applyGen1FlowFrame pt
  applyFlowEnd pt
  applyAck now pt

/-- The device after the callback has swallowed what the observer raised. -/
def meshObserve (now : DateTime) (pt : Bytes) (d : Ht25Device) : Ht25Device :=
  after (meshObservePlaintext now pt) d

/-! ## What a frame says about the run -/

/-- The countdown which an active status is believed. -/
def meshCountdown (now : DateTime) (pt : Bytes) (d : Ht25Device) : Option ℕ :=
  if 12 ≤ pt.length ∧ meshPlausible pt = true then
    match synthesizedStart now (wordAt pt 9 - meshRemaining pt) d.state.startedAt with
    | .ok _ => some (meshRemaining pt)
    | .error _ => none
  else none

def modeReport (now : DateTime) (pt : Bytes) (d : Ht25Device) : Option RunReport :=
  if byteAt pt 5 = 0x04 then some (.running (meshCountdown now pt d))
  else if byteAt pt 5 = 0x01 then some .idle
  else none

def ackReport (pt : Bytes) (d : Ht25Device) : Option RunReport :=
  if ackedCommand pt = 0xB6 then (ackedDuration pt d.pendingStartDuration).map .started
  else if ackedCommand pt = 0xB7 then some .idle
  else none

def meshReport (now : DateTime) (pt : Bytes) (d : Ht25Device) : Option RunReport :=
  if isMeshReply pt = true ∧ byteAt pt 3 = SEQ_STATUS then modeReport now pt d
  else if isMeshReply pt = true ∧ byteAt pt 3 = SEQ_WATER_CTRL then
    -- the test of a flow sample comes first, and raises on a mesh id beyond two bytes
    match isOwnFrame 11 SEQ_FLOW pt d with
    | .ok _ => ackReport pt d
    | .error _ => none
  else none

def RunView.hears (now : DateTime) (rep : Option RunReport) (v : RunView) : RunView :=
  match rep with
  | none => v
  | some rep => rep.after now v

/-! ### What does not touch the run -/

/-- The relation allows for what measuring the flow writes. -/
structure FlowWrites (M : Ht25Device → Ht25Device → Prop) : Prop where
  meter : ∀ d v, M d { d with gen1 := v }
  rate : ∀ d v, M d { d with state := { d.state with flowLpmGen1 := v } }
  volume : ∀ d v, M d { d with state := { d.state with waterUsedGen1L := v } }
  release : ∀ d, M d { d with flowSubTask := none, isHeld := d.isHeld && !d.hasConnection }
  notified : ∀ d v, M d { d with notified := v }

namespace FlowWrites

variable {M : Ht25Device → Ht25Device → Prop} (h : FlowWrites M)
include h

theorem moves_notify : Moves M notifyStateChanged := Moves.modify fun d => h.notified d _

theorem moves_endGen1Flow : Moves M endGen1Flow := Moves.modify fun d => h.release d

variable [IsPreorder _ M]

theorem moves_bookGen1Sample (elapsed cum : ℕ) : Moves M (bookGen1Sample elapsed cum) := by
  unfold bookGen1Sample
  refine Moves.bind .get fun d => Moves.bind (Moves.modify fun d => h.meter d _) fun _ => ?_
  refine Moves.bind (.raising _) fun rate => ?_
  refine Moves.bind (.onlyIf (Moves.modify fun d => h.rate d _)) fun _ => ?_
  refine Moves.bind (Moves.modify fun d => h.volume d _) fun _ => ?_
  exact Moves.bind (Moves.modify fun d => h.meter d _) fun _ => h.moves_notify

theorem moves_stopGen1Rate : Moves M stopGen1Rate :=
  Moves.bind .get fun _ => .onlyIf
    (Moves.bind (Moves.modify fun d => h.rate d _) fun _ => h.moves_notify)

theorem moves_applyGen1FlowFrame (pt : Bytes) : Moves M (applyGen1FlowFrame pt) := by
  have hsample : Moves M (applyGen1Sample (wordAt pt 7) (wordAt pt 9)) :=
    Moves.ite h.moves_stopGen1Rate (h.moves_bookGen1Sample _ _)
  exact Moves.bind .get fun _ => Moves.bind (.raising _) fun _ =>
    Moves.bind hsample.onlyIf fun _ => .pure _

theorem moves_applyFlowEnd (pt : Bytes) : Moves M (applyFlowEnd pt) := by
  unfold applyFlowEnd
  refine Moves.bind .get fun d => ?_
  refine Moves.ite ?_ (.pure _)
  exact Moves.bind (.raising _) fun _ => .onlyIf h.moves_endGen1Flow

end FlowWrites

/-- A quantity of the device which measuring the flow leaves alone. -/
structure IgnoresFlow {γ : Type} (q : Ht25Device → γ) : Prop where
  meter : ∀ d v, q { d with gen1 := v } = q d
  rate : ∀ d v, q { d with state := { d.state with flowLpmGen1 := v } } = q d
  volume : ∀ d v, q { d with state := { d.state with waterUsedGen1L := v } } = q d
  release : ∀ d task held, q { d with flowSubTask := task, isHeld := held } = q d
  notified : ∀ d v, q { d with notified := v } = q d

section IgnoresFlow

variable {γ : Type} {q : Ht25Device → γ}

theorem IgnoresFlow.writes (h : IgnoresFlow q) : FlowWrites fun d d' => q d' = q d where
  meter := h.meter
  rate := h.rate
  volume := h.volume
  release d := h.release d _ _
  notified := h.notified

theorem IgnoresFlow.keeps_notify (h : IgnoresFlow q) : Keeps q notifyStateChanged :=
  h.writes.moves_notify

theorem IgnoresFlow.keeps_applyGen1FlowFrame (h : IgnoresFlow q) (pt : Bytes) :
    Keeps q (applyGen1FlowFrame pt) :=
  h.writes.moves_applyGen1FlowFrame pt

theorem IgnoresFlow.keeps_applyFlowEnd (h : IgnoresFlow q) (pt : Bytes) :
    Keeps q (applyFlowEnd pt) :=
  h.writes.moves_applyFlowEnd pt

end IgnoresFlow

def Ht25Device.run (d : Ht25Device) : RunView := d.state.run

theorem ignoresFlow_run : IgnoresFlow Ht25Device.run where
  meter _ _ := rfl
  rate _ _ := rfl
  volume _ _ := rfl
  release _ _ _ := rfl
  notified _ _ := rfl

theorem keeps_run_applyInfo (pt : Bytes) : Keeps Ht25Device.run (applyInfo pt) :=
  Moves.onlyIf (Moves.modify fun _ => rfl)

/-! ### What does -/

theorem setState_returns (f : DeviceState → DeviceState) : Returns (setState f) := .modify _

theorem after_setState (f : DeviceState → DeviceState) (d : Ht25Device) :
    after (setState f) d = { d with state := f d.state } := rfl

theorem run_anchorMeshOffTime (newOff : DateTime) (d : Ht25Device) :
    (after (anchorMeshOffTime newOff) d).run =
      ⟨d.run.isWatering, guardedOff d.run.expectedOffAt newOff⟩ := by
  rw [anchorMeshOffTime, after_bind_ok (run_get d)]
  change _ = RunView.mk d.state.isWatering (guardedOff d.state.expectedOffAt newOff)
  unfold guardedOff
  cases movesOffTime d.state.expectedOffAt newOff with
  | error e =>
    rw [after_bind_error (run_raising_error rfl d)]
    rfl
  | ok moves =>
    rw [after_bind_ok (run_raising_ok rfl d)]
    cases moves <;> rfl

theorem run_applyMeshCountdown (now : DateTime) (duration remaining : ℕ) (d : Ht25Device) :
    (after (applyMeshCountdown now duration remaining) d).run =
      match synthesizedStart now (duration - remaining) d.state.startedAt with
      | .error _ => d.run
      | .ok _ => ⟨d.run.isWatering, countdownOff now (some remaining) d.run.expectedOffAt⟩ := by
  unfold applyMeshCountdown countdownOff
  rw [(setState_returns _).after_bind, after_bind_ok (run_get _), after_setState]
  dsimp only
  cases synthesizedStart now (duration - remaining) d.state.startedAt with
  | error e =>
    rw [after_bind_error (run_raising_error rfl _)]
    rfl
  | ok start =>
    rw [after_bind_ok (run_raising_ok rfl _), (setState_returns _).after_bind]
    cases now.addSeconds remaining with
    | error e =>
      rw [after_bind_error (run_raising_error rfl _)]
      rfl
    | ok newOff =>
      rw [after_bind_ok (run_raising_ok rfl _), run_anchorMeshOffTime]
      rfl

theorem run_applyMeshRunPayload (now : DateTime) (pt : Bytes) (d : Ht25Device) :
    (after (applyMeshRunPayload now pt) d).run =
      ⟨d.run.isWatering, countdownOff now (meshCountdown now pt d) d.run.expectedOffAt⟩ := by
  unfold applyMeshRunPayload meshCountdown
  by_cases hshort : pt.length < 12
  · rw [if_pos hshort, if_neg (by omega)]
    rfl
  · rw [if_neg hshort, (setState_returns _).after_bind]
    cases hplaus : meshPlausible pt with
    | false =>
      rw [if_neg (by simp)]
      rfl
    | true =>
      rw [if_pos ⟨by omega, rfl⟩, onlyIf, if_pos rfl, run_applyMeshCountdown]
      cases hstart : synthesizedStart now (wordAt pt 9 - meshRemaining pt) d.state.startedAt with
      | error e => simp only [after_setState, hstart]; rfl
      | ok start => simp only [after_setState, hstart]; rfl

theorem run_applyMode (now : DateTime) (pt : Bytes) (d : Ht25Device) :
    (after (applyMode now pt) d).run = d.run.hears now (modeReport now pt d) := by
  have hnotify : ∀ (c : Bool) (d' : Ht25Device),
      (after (onlyIf c notifyStateChanged) d').run = d'.run := fun c d' =>
    (Moves.onlyIf ignoresFlow_run.keeps_notify : Keeps Ht25Device.run _) d'
  rw [applyMode, after_bind_ok (run_get d)]
  unfold modeReport
  dsimp only
  by_cases hopen : byteAt pt 5 = 0x04
  · rw [if_pos hopen, if_pos hopen, (setState_returns _).after_bind,
      Keeps.after_bind (fun _ => fun d' => hnotify _ d'), run_applyMeshRunPayload]
    rfl
  · rw [if_neg hopen, if_neg hopen]
    by_cases hidle : byteAt pt 5 = 0x01
    · rw [decide_eq_true hidle, onlyIf, if_pos rfl, if_pos hidle, (setState_returns _).after_bind,
        hnotify]
      rfl
    · rw [decide_eq_false hidle, if_neg hidle]
      rfl

theorem run_applyStartAck (now : DateTime) (pt : Bytes) (d : Ht25Device) :
    (after (applyStartAck now pt) d).run =
      d.run.hears now ((ackedDuration pt d.pendingStartDuration).map .started) := by
  rw [applyStartAck, after_bind_ok (run_get d)]
  cases ackedDuration pt d.pendingStartDuration with
  | none => rfl
  | some dur =>
    dsimp only
    rw [(setState_returns _).after_bind]
    simp only [Option.map_some, RunView.hears, RunReport.after, RunReport.offAt]
    cases now.addSeconds dur with
    | error e =>
      rw [after_bind_error (run_raising_error rfl _)]
      rfl
    | ok off =>
      rw [after_bind_ok (run_raising_ok rfl _), (setState_returns _).after_bind]
      rfl

theorem run_applyAck (now : DateTime) {pt : Bytes} (hreply : isMeshReply pt = true)
    (hseq : byteAt pt 3 = SEQ_WATER_CTRL) (d : Ht25Device) :
    (after (applyAck now pt) d).run = d.run.hears now (ackReport pt d) := by
  rw [applyAck, hreply, decide_eq_true hseq, Bool.and_self, onlyIf, if_pos rfl]
  unfold ackReport
  by_cases hstart : ackedCommand pt = 0xB6
  · rw [if_pos hstart, if_pos hstart, run_applyStartAck]
  · rw [if_neg hstart, if_neg hstart]
    by_cases hstop : ackedCommand pt = 0xB7
    · rw [decide_eq_true hstop, if_pos hstop]
      rfl
    · rw [decide_eq_false hstop, if_neg hstop]
      rfl

theorem keeps_run_applyAck (now : DateTime) {pt : Bytes}
    (h : ¬ (isMeshReply pt = true ∧ byteAt pt 3 = SEQ_WATER_CTRL)) :
    Keeps Ht25Device.run (applyAck now pt) := by
  have hskip : (isMeshReply pt && decide (byteAt pt 3 = SEQ_WATER_CTRL)) = false := by
    simpa using h
  rw [applyAck, hskip]
  exact Moves.pure ()

theorem keeps_run_baseObservePlaintext (now : DateTime) {pt : Bytes}
    (h : ¬ (isMeshReply pt = true ∧ byteAt pt 3 = SEQ_STATUS)) :
    Keeps Ht25Device.run (baseObservePlaintext now pt) := by
  unfold baseObservePlaintext
  cases hreply : isMeshReply pt with
  | false => exact Moves.pure ()
  | true =>
    have hseq : byteAt pt 3 ≠ SEQ_STATUS := fun hseq => h ⟨hreply, hseq⟩
    rw [decide_eq_false hseq]
    exact Moves.onlyIf (Moves.ite (keeps_run_applyInfo pt) (Moves.pure ()))

/-- The base class looks at two sequence numbers only. -/
theorem baseObservePlaintext_of_seq (now : DateTime) {pt : Bytes} (hinfo : byteAt pt 3 ≠ SEQ_INFO)
    (hstatus : byteAt pt 3 ≠ SEQ_STATUS) : baseObservePlaintext now pt = pure () := by
  rw [baseObservePlaintext, if_neg fun h => hinfo h.1, decide_eq_false hstatus]
  cases isMeshReply pt <;> rfl

theorem isOwnFrame_of_ne {len seq : ℕ} {pt : Bytes} {d : Ht25Device} {own : Bool}
    (h : isOwnFrame len seq pt d = .ok own) (hseq : byteAt pt 3 ≠ seq) : own = false := by
  unfold isOwnFrame at h
  split_ifs at h
  · cases h
    rfl
  · cases haddr : d.meshAddress with
    | error e =>
      rw [haddr] at h
      cases h
    | ok address =>
      rw [haddr] at h
      cases h
      simp [hseq]

theorem run_meshObserve (now : DateTime) (pt : Bytes) (d : Ht25Device) :
    (meshObserve now pt d).run = d.run.hears now (meshReport now pt d) := by
  have hflow := ignoresFlow_run.keeps_applyGen1FlowFrame pt
  have hend := ignoresFlow_run.keeps_applyFlowEnd pt
  unfold meshObserve meshObservePlaintext meshReport
  by_cases hstatus : isMeshReply pt = true ∧ byteAt pt 3 = SEQ_STATUS
  · have hack : Keeps Ht25Device.run (applyAck now pt) := keeps_run_applyAck now fun h =>
      absurd (hstatus.2.symm.trans h.2) (by decide)
    have hbase : baseObservePlaintext now pt = applyMode now pt := by
      have hinfo : ¬ (SEQ_STATUS = SEQ_INFO ∧ 12 ≤ pt.length) := fun h => absurd h.1 (by decide)
      rw [baseObservePlaintext, hstatus.1, hstatus.2, if_neg hinfo]
      rfl
    rw [if_pos hstatus, Keeps.after_bind fun _ => Moves.bind hflow fun _ =>
      Moves.bind hend fun _ => hack, hbase, run_applyMode]
  · rw [if_neg hstatus]
    by_cases hctrl : isMeshReply pt = true ∧ byteAt pt 3 = SEQ_WATER_CTRL
    · have hbase : baseObservePlaintext now pt = pure () :=
        baseObservePlaintext_of_seq now (by rw [hctrl.2]; decide) (by rw [hctrl.2]; decide)
      rw [if_pos hctrl, hbase, Returns.pure.after_bind,
        after_pure, applyGen1FlowFrame, bind_assoc, after_bind_ok (run_get d)]
      cases hown : isOwnFrame 11 SEQ_FLOW pt d with
      | error e =>
        rw [bind_assoc, after_bind_error (run_raising_error rfl d)]
        rfl
      | ok own =>
        have hnot : own = false :=
          isOwnFrame_of_ne hown (by rw [hctrl.2]; decide)
        subst hnot
        have hskip : applyFlowEnd pt d = .ok () d := by
          have hseq : ¬ (SEQ_WATER_CTRL = SEQ_FLOW_END ∧ byteAt pt 4 = D747_ROUTING) := fun h =>
            absurd h.1 (by decide)
          rw [applyFlowEnd, run_bind_ok (run_get d), hctrl.2, if_neg hseq, run_pure]
        rw [bind_assoc, after_bind_ok (run_raising_ok rfl d), bind_assoc,
          after_bind_ok (run_onlyIf_false _ d), after_bind_ok (run_pure _ d), after_bind_ok hskip,
          run_applyAck now hctrl.1 hctrl.2]
    · rw [if_neg hctrl]
      exact (Moves.bind (keeps_run_baseObservePlaintext now hstatus) fun _ =>
        Moves.bind hflow fun _ => Moves.bind hend fun _ => keeps_run_applyAck now hctrl :
          Keeps Ht25Device.run _) d

end OrbitBhyve.Devices
