import OrbitBhyve.Devices.Mesh

/-!
# The mesh device

The methods of `BHyveHT25Device`. The init which the post-handshake hook writes
is part of opening a session. The renewal of a flow subscription, which runs
beside the methods and only writes frames, is kept as the handle of its task.
-/

namespace OrbitBhyve.Devices

open Foundation Python Wire

abbrev MeshTask := Task Ht25Device

/-- The mesh family behind a radio; its replies have no common header. -/
def meshRadio (replies : ℕ → Reply) : Radio Ht25Device where
  observer := meshObserve
  replyHeader := none
  replies := replies

def GEN1_HOLD_GRACE_SEC : ℤ := 10

/-- `except (BleakError, asyncio.TimeoutError, OSError)`. -/
def PyErr.isGattError : PyErr → Bool
  | .bleakError | .timeoutError | .osError => true
  | _ => false

/-- What `_mark_reached` writes. -/
def reachedState (now : DateTime) (s : DeviceState) : DeviceState :=
  { s with isConnected := true, lastSuccessfulPoll := some now, consecutiveTimeouts := 0 }

/-- What `_mark_unreachable` writes. -/
def unreachableState (s : DeviceState) : DeviceState :=
  { s with isConnected := false, consecutiveTimeouts := s.consecutiveTimeouts + 1 }

def modMeshState (f : DeviceState → DeviceState) : MeshTask Unit :=
  modDev fun d => { d with state := f d.state }

def markReached : MeshTask Unit := do
  let now ← getClock
  modMeshState (reachedState now)

def markUnreachable : MeshTask Unit := modMeshState unreachableState

/-- `_stamp_command`. -/
def stampMeshCommand (label : String) (notifs : ℕ) : MeshTask Unit := do
  let now ← getClock
  modMeshState (stampedState label notifs now)

def onDevice (x : MeshObserve Unit) : MeshTask Unit := modDev (after x)

def resetGen1Flow (d : Ht25Device) : Ht25Device :=
  { d with
    gen1 := {}
    state := { d.state with flowLpmGen1 := none, waterUsedGen1L := none } }

section Methods

variable (R : Radio Ht25Device)

/-- What the coming operation does to a hold. -/
def loseHold : MeshTask Unit := do
  let w ← get
  modDev fun d => { d with isHeld := d.isHeld && !(R.replies w.tick).closed }

/-- `self.connection.disconnect()`. -/
def meshDisconnect : MeshTask Unit := do
  modDev fun d => { d with isHeld := false }
  R.disconnect

/-- `self.connection.send(plaintext)`; `send_actuation` runs the init first. -/
def meshSend (pt : Bytes) : MeshTask ℕ := do
  loseHold R
  R.send pt

def sendCommand (pt : Bytes) : MeshTask ℕ :=
  tryCatch (meshSend R pt) fun e => if e = .timeoutError then pure 0 else throw e

/-- The subscription under the `try` of `_begin_gen1_flow`: whether it went out. -/
def subscribeGen1Flow : MeshTask Bool :=
  tryCatch (do
    let d ← getDev
    let frame ← raising d.flowSubscribeFrame
    let _ ← meshSend R frame
    pure true) fun e => if PyErr.isGattError e then pure false else throw e

def beginGen1Flow (durationSec : ℤ) : MeshTask Unit := do
  modDev fun d => { resetGen1Flow d with isHeld := true }
  let subscribed ← subscribeGen1Flow R
  if subscribed then modDev fun d => { d with flowSubTask := some durationSec }
  else onDevice endGen1Flow

def startMeshBody (station durationSec : ℤ) : MeshTask Bool := do
  modDev fun d =>
    { d with pendingStartDuration := some durationSec, pendingStartZone := some station }
  let d ← getDev
  let plaintext ← raising (d.buildStart 0xB6 durationSec)
  let notifs ← sendCommand R plaintext
  stampMeshCommand s!"start s={station} d={durationSec}" notifs
  markReached
  let d ← getDev
  onlyIf d.flowGen1Enabled (beginGen1Flow R durationSec)
  let d ← getDev
  pure d.state.isWatering

/-- A measured run keeps its session. -/
def disconnectUnlessHeld : MeshTask Unit := do
  let d ← getDev
  onlyIf (!d.isHeld) (meshDisconnect R)

def startMeshWatering (station durationSec : ℤ) : MeshTask Bool := do
  let d ← getDev
  if d.hasConnection then
    tryFinally (startMeshBody R station durationSec) (disconnectUnlessHeld R)
  else pure false

def stopMeshBody : MeshTask Bool := do
  let d ← getDev
  let plaintext ← raising (d.buildStop 0xB7)
  let notifs ← sendCommand R plaintext
  stampMeshCommand "stop" notifs
  markReached
  onDevice endGen1Flow
  modMeshState fun s => { s with flowLpmGen1 := some 0 }
  let d ← getDev
  pure (!d.state.isWatering)

def stopMeshWatering : MeshTask Bool := do
  let d ← getDev
  if d.hasConnection then tryFinally (stopMeshBody R) (meshDisconnect R) else pure false

/-- The fresh connect of `_connect_refresh`: whether it reached the device. -/
def reconnect : MeshTask Bool :=
  tryCatch (do
    meshDisconnect R
    R.ensureConnected
    pure true) fun e =>
      if PyErr.isGattError e then do
        markUnreachable
        pure false
      else throw e

def connectRefresh : MeshTask Unit := do
  let d ← getDev
  onlyIf d.hasConnection (tryFinally (do
    let reached ← reconnect R
    onlyIf reached markReached) (meshDisconnect R))

/-- The last reach of the device is more than ten seconds ago. -/
def isStale (now : DateTime) (recent : Option DateTime) : Bool :=
  match recent with
  | none => true
  | some t => decide (10 * 1000000 < now.micros - t.micros)

def meshRefreshState : MeshTask Unit := do
  let d ← getDev
  let now ← getClock
  onlyIf (d.activeStatusPoll && !d.state.isWatering && isStale now d.state.lastSuccessfulPoll)
    (connectRefresh R)

def meshWateringFinished : MeshTask Unit := onDevice endGen1Flow

end Methods

/-! ## The connection of the mesh device -/

/-- The relation allows for the operations of the connection and for the loss of a hold. -/
structure HoldTraffic (R : Radio Ht25Device) (M : World Ht25Device → World Ht25Device → Prop) :
    Prop where
  operates : R.Operates (fun _ => True) M
  loses : ∀ (w : World Ht25Device) kept,
    M w { w with dev := { w.dev with isHeld := w.dev.isHeld && kept } }

namespace HoldTraffic

variable {R : Radio Ht25Device} {M : World Ht25Device → World Ht25Device → Prop}
  [IsPreorder _ M] (h : HoldTraffic R M)
include h

theorem moves_meshSend (pt : Bytes) : Moves M (meshSend R pt) := by
  have hlose : Moves M (loseHold R) :=
    Moves.bind Moves.get fun w => Moves.modify fun w' => h.loses w' (!(R.replies w.tick).closed)
  exact Moves.bind hlose fun _ => h.operates.send trivial

theorem moves_meshDisconnect : Moves M (meshDisconnect R) := by
  refine Moves.bind (Moves.modify fun w => ?_) fun _ => h.operates.suspend
  have hfree := h.loses w false
  rwa [Bool.and_false] at hfree

theorem moves_disconnectUnlessHeld : Moves M (disconnectUnlessHeld R) :=
  Moves.bind (fun w => refl_of M w) fun _ => Moves.onlyIf h.moves_meshDisconnect

end HoldTraffic

end OrbitBhyve.Devices
