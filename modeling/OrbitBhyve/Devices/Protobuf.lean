import OrbitBhyve.Devices.Observer
import OrbitBhyve.Devices.Programs
import OrbitBhyve.Devices.World

/-!
# The protobuf device

The methods of `BHyveProtobufDevice`. The API lock is not modelled: it keeps
the methods of one device from overlapping, and here they run one at a time.
A loop over attempts is a recursion on the attempts left.
-/

namespace OrbitBhyve.Devices

open Foundation Python Wire

abbrev ProtobufTask := Task ProtobufDevice

def protobufRadio (replies : ℕ → Reply) (utcOffset : UtcOffset) : Radio ProtobufDevice where
  observer := observe
  replyHeader := some MSG_HEADER
  replies := replies
  utcOffset := utcOffset

def modState (f : DeviceState → DeviceState) : ProtobufTask Unit :=
  modDev fun d => { d with state := f d.state }

theorem run_modState (f : DeviceState → DeviceState) (w : World ProtobufDevice) :
    modState f w = .ok () { w with dev := { w.dev with state := f w.dev.state } } := rfl

def stampedState (label : String) (notifs : ℕ) (now : DateTime) (s : DeviceState) :
    DeviceState :=
  { s with
    lastCommandAt := some now
    lastCommandLabel := some label
    notificationsLastCmd := notifs }

def stampCommand (label : String) (notifs : ℕ) : ProtobufTask Unit := do
  let now ← getClock
  modState (stampedState label notifs now)

theorem run_stampCommand (label : String) (notifs : ℕ) (w : World ProtobufDevice) :
    stampCommand label notifs w = .ok () { w with dev :=
      { w.dev with state := stampedState label notifs w.clock w.dev.state } } := rfl

/-- `getattr(self, "_status_parsed", False)`. -/
def ProtobufDevice.parsed (d : ProtobufDevice) : Bool := d.statusParsed == some true

def noopRainDelayPb (s : DeviceState) : Except PyErr Bytes :=
  match orZero s.rainDelayMinutes with
  | .bytes _ => .error .typeError
  | .int mins =>
    match s.rainDelayEnds with
    | some ends =>
      if 0 < mins then .ok (buildRainDelayPb mins (some ends.intTimestamp))
      else .ok (buildRainDelayPb 0 none)
    | none => .ok (buildRainDelayPb 0 none)

/-- `_gpm_from_samples` on (microseconds, counts), in exact arithmetic. -/
def gpmFromSamples (samples : List (ℤ × PbVal)) (countsPerGallon : ℕ) : Except PyErr Reading :=
  match samples.head?, samples.getLast? with
  | some (t₀, c₀), some (t₁, c₁) =>
    if samples.length < 2 ∨ countsPerGallon = 0 then .ok (.hundredths 0)
    else
      match c₀, c₁ with
      | .int n₀, .int n₁ =>
        if t₀ < t₁ ∧ n₀ < n₁ then
          .ok (.hundredths (roundHalfEven ((n₁ - n₀) * 60 * 1000000 * 100)
            ((t₁ - t₀).toNat * countsPerGallon)))
        else .ok (.hundredths 0)
      | _, _ => .error .typeError
  | _, _ => .ok (.hundredths 0)

/-- A write which returned `False` because of the link. -/
def PyErr.isLinkError : PyErr → Bool
  | .bleakError | .timeoutError => true
  | _ => false

def bleWriteGuard (method : ProtobufTask Bool) : ProtobufTask Bool :=
  tryCatch method fun e => if PyErr.isLinkError e then pure false else throw e

section Methods

variable (R : Radio ProtobufDevice)

/-- `self.connection.send(_build_message(pb))`. -/
def sendMessage (pb : Bytes) : ProtobufTask ℕ := do
  let msg ← raising (buildMessage pb)
  R.send msg

def sendMessage_ (pb : Bytes) : ProtobufTask Unit := do
  let _ ← sendMessage R pb

/-- The end of a round: the rain delay is written back when no status came. -/
def elicitByNoop : ProtobufTask Bool := do
  let d ← getDev
  if d.parsed then pure true
  else do
    let pb ← raising (noopRainDelayPb d.state)
    sendMessage_ R pb
    let d ← getDev
    pure d.parsed

/-- One round of `_recover_status`: whether a status was decoded. -/
def recoverAttempt : ProtobufTask Bool := do
  R.disconnect
  let d ← getDev
  onlyIf d.hasFlow (do
    sendMessage_ R FLOW_SUBSCRIBE_PB
    sendMessage_ R FLOW_UNSUBSCRIBE_PB)
  sendMessage_ R REQUEST_STATUS_PB
  elicitByNoop R

/-- `_recover_status`, which never raises. -/
def recoverStatus : ProtobufTask Unit := do
  let done ← tryCatch (recoverAttempt R) fun _ => pure false
  onlyIf (!done) (do
    let _ ← tryCatch (recoverAttempt R) fun _ => pure false)

/-- `#75` with the host clock when the poll syncs it, else the bare `#15`. -/
def statusElicitor (syncClock : Bool) (now : DateTime) : Bytes :=
  if syncClock then buildSetEpochTimePb now.intTimestamp R.utcOffset.seconds else REQUEST_STATUS_PB

/-- `refresh_status` once the mark of a decoded status is cleared. -/
def requestStatus (syncClock : Bool) : ProtobufTask Unit := do
  let d ← getDev
  onlyIf d.hasFlow (swallow (sendMessage_ R FLOW_UNSUBSCRIBE_PB))
  let now ← getClock
  sendMessage_ R (statusElicitor R syncClock now)
  let d ← getDev
  onlyIf (!d.parsed) (recoverStatus R)

/-- `refresh_status` past the check of the connection. -/
def elicitStatus (syncClock : Bool) : ProtobufTask Unit := do
  modDev fun d => { d with statusParsed := some false }
  requestStatus R syncClock

def refreshStatus (syncClock : Bool) : ProtobufTask Unit := do
  let d ← getDev
  onlyIf d.hasConnection (elicitStatus R syncClock)

/-! ### Watering -/

def confirmStart (station durationSec : ℤ) : ProtobufTask Unit := do
  let now ← getClock
  modState fun s => { s with activeZone := some station, startedAt := some now }
  let off ← raising (now.addSeconds durationSec)
  modState fun s =>
    { s with
      expectedOffAt := some off
      -- `if not self.state.seconds_remaining`
      secondsRemaining :=
        if s.secondsRemaining.getD 0 = 0 then some durationSec else s.secondsRemaining }

/-- One attempt of `start_watering` after its write: whether the start is confirmed. -/
def startOutcome (station durationSec : ℤ) (notifs : ℕ) : ProtobufTask Bool := do
  stampCommand s!"start s={station} d={durationSec}" notifs
  let d ← getDev
  onlyIf (!d.state.isWatering) (do
    R.sleep
    refreshStatus R false)
  let d ← getDev
  if d.state.isWatering then do
    confirmStart station durationSec
    pure true
  else pure false

def startAttempts (station durationSec : ℤ) (msg : Bytes) : ℕ → ProtobufTask Bool
  | 0 => pure false
  | left + 1 => do
    let notifs ← R.send msg
    let confirmed ← startOutcome R station durationSec notifs
    if confirmed then pure true
    else do
      onlyIf (decide (0 < left)) R.disconnect
      startAttempts station durationSec msg left

def startWatering (station durationSec : ℤ) : ProtobufTask Bool := do
  let d ← getDev
  if d.hasConnection then
    tryFinally (do
      let msg ← raising (buildMessage (buildStartPb (station - 1) durationSec))
      startAttempts R station durationSec msg 2) R.disconnect
  else pure false

/-- What a confirmed stop writes. -/
def stoppedState (s : DeviceState) : DeviceState :=
  { s with
    activeZone := none
    secondsRemaining := none
    startedAt := none
    expectedOffAt := none }

def confirmStop : ProtobufTask Unit := modState stoppedState

/-- One attempt of `stop_watering` after its write: whether the stop is confirmed. -/
def stopOutcome (notifs : ℕ) : ProtobufTask Bool := do
  stampCommand "stop" notifs
  R.sleep
  refreshStatus R false
  let d ← getDev
  if d.state.isWatering then pure false
  else do
    confirmStop
    pure true

def stopAttempts (msg : Bytes) : ℕ → ProtobufTask Bool
  | 0 => pure false
  | left + 1 => do
    let notifs ← R.send msg
    let confirmed ← stopOutcome R notifs
    if confirmed then pure true
    else do
      onlyIf (decide (0 < left)) R.disconnect
      stopAttempts msg left

def stopWatering : ProtobufTask Bool := do
  let d ← getDev
  if d.hasConnection then
    tryFinally (do
      let msg ← raising (buildMessage STOP_PB)
      stopAttempts R msg 2) R.disconnect
  else pure false

/-! ### Flow -/

/-- `samples.append((time.monotonic(), self.state.flow_total))` when there is a total. -/
def sampleFlow (samples : List (ℤ × PbVal)) : ProtobufTask (List (ℤ × PbVal)) := do
  let w ← get
  match w.dev.state.flowTotal with
  | some total => pure (samples ++ [(w.monotonic, total)])
  | none => pure samples

def collectFlow : ℕ → List (ℤ × PbVal) → ProtobufTask (List (ℤ × PbVal))
  | 0, samples => pure samples
  | n + 1, samples => do
    R.sleep
    let samples ← sampleFlow samples
    collectFlow n samples

/-- The attempts of `_read_flow_locked`. -/
def flowAttempts : ℕ → ProtobufTask Unit
  | 0 => pure ()
  | left + 1 => do
    modState fun s => { s with flowTotal := none }
    sendMessage_ R FLOW_SUBSCRIBE_PB
    let samples ← sampleFlow []
    let samples ← collectFlow R 3 samples
    if samples.isEmpty ∧ 0 < left then do
      R.disconnect
      flowAttempts left
    else do
      let d ← getDev
      let gpm ← raising (gpmFromSamples samples d.flowCountsPerGallon)
      modState fun s => { s with flowGpm := some gpm }

/-- The unsubscribe of the `finally` block, only on a session which is still up. -/
def flowUnsubscribe : ProtobufTask Unit := do
  let w ← get
  onlyIf w.linkUp (swallow (sendMessage_ R FLOW_UNSUBSCRIBE_PB))

def readFlowLocked : ProtobufTask Unit := do
  let d ← getDev
  onlyIf (d.hasConnection && d.hasFlow) (tryFinally (flowAttempts R 2) (flowUnsubscribe R))

/-! ### Programs -/

/-- Without a mask the enable flags of the known slots are carried forward. -/
def carryEnabled (known : ProgramTable) (read : ProgramTable) : ProgramTable :=
  read.map fun e => (e.1,
    match e.2.enabled, known.get e.1 with
    | none, some prev => { e.2 with enabled := prev.enabled }
    | _, _ => e.2)

/-- What a sync dump does to `state.programs`, and the programs it reports. -/
def mergeDump (dump : SyncDump) (known : ProgramTable) : ProgramTable × ProgramTable :=
  if dump.programs.isEmpty then
    if dump.mask.isSome || dump.status.isSome then ([], []) else (known, [])
  else
    let programs :=
      if dump.mask.isNone then carryEnabled known dump.programs else dump.programs
    (programs, programs)

def readPrograms : ProtobufTask (ProgramTable × Option PbVal) := do
  let msg ← raising (buildMessage buildSyncRequestPb)
  let stream ← R.sendStream msg
  let dump ← raising (parseSyncDump stream)
  let d ← getDev
  let merged := mergeDump dump d.state.programs
  modState fun s => { s with programs := merged.1 }
  pure (merged.2, dump.mask)

/-- `1 << (slot - 1)`. -/
def slotBit (slot : PbVal) : Except PyErr ℕ :=
  match slot with
  | .bytes _ => .error .typeError
  | .int 0 => .error .valueError
  | .int (n + 1) => .ok (1 <<< n)

/-- `sum(1 << (sid - 1) for sid, s in programs.items() if s.enabled)`. -/
def enabledSum : ProgramTable → Except PyErr ℕ
  | [] => .ok 0
  | (sid, sch) :: rest =>
    if sch.enabled = some true then do
      let bit ← slotBit sid
      let sum ← enabledSum rest
      .ok (bit + sum)
    else enabledSum rest

def enableMask (mask : Option PbVal) (programs : ProgramTable) : Except PyErr PbVal :=
  match mask with
  | some m => .ok m
  | none => (enabledSum programs).map .int

/-- `mask & ~bit`. -/
def maskWithout (mask : PbVal) (bit : ℕ) : Except PyErr ℕ :=
  match mask with
  | .int m => .ok (Nat.ldiff m bit)
  | .bytes _ => .error .typeError

/-- `mask | bit`. -/
def maskWith (mask : PbVal) (bit : ℕ) : Except PyErr ℕ :=
  match mask with
  | .int m => .ok (m ||| bit)
  | .bytes _ => .error .typeError

/-- `self._enable_mask(mask)` on the current programs. -/
def currentMask (mask : Option PbVal) : ProtobufTask PbVal := do
  let d ← getDev
  raising (enableMask mask d.state.programs)

/-- `SLOT_LETTERS.get(slot, str(slot))`. -/
def slotLetter (slot : ℕ) : String :=
  match slot with
  | 1 => "A"
  | 2 => "B"
  | 3 => "C"
  | 4 => "D"
  | 5 => "E"
  | 6 => "F"
  | _ => toString slot

/-- `self.connection.send(_build_message(_build_set_active_programs_pb(flags)))`. -/
def writeMask (flags : ℕ) : ProtobufTask Unit := sendMessage_ R (buildSetActiveProgramsPb flags)

def autoMode : ProtobufTask Unit := sendMessage_ R (buildSetTimerModePb 1)

/-- The store-only tail of `set_program`. -/
def storeOnly (mask : PbVal) (bit : ℕ) (storedOk : Bool) : ProtobufTask Bool := do
  let flags ← raising (maskWithout mask bit)
  writeMask R flags
  autoMode R
  pure storedOk

def enableHandshake (mask : PbVal) (bit : ℕ) (pb : Bytes) : ProtobufTask Bool := do
  let flags ← raising (maskWith mask bit)
  writeMask R flags
  autoMode R
  sendMessage_ R pb
  writeMask R flags
  refreshStatus R false
  let d ← getDev
  match d.state.nextStartFlags with
  | some (.int n) => pure (n &&& bit != 0)
  | some (.bytes b) => if b.isEmpty then pure false else throw .typeError
  | none => pure false

/-- `stored is not None and not stored.empty`. -/
def storedOk (programs : ProgramTable) (slot : ℕ) : Bool :=
  match programs.get (.int slot) with
  | some stored => !stored.empty
  | none => false

def setProgramBody (spec : ProgramSpec) : ProtobufTask Bool := do
  let read ← readPrograms R
  let mask ← currentMask read.2
  let pb := buildProgramPb spec
  sendMessage_ R pb
  stampCommand ("program set " ++ slotLetter spec.slot) 0
  let readBack ← readPrograms R
  let stored := storedOk readBack.1 spec.slot
  let bit ← raising (slotBit (.int spec.slot))
  if spec.enabled then enableHandshake R mask bit pb else storeOnly R mask bit stored

/-- A guarded method on a device with a connection, which it closes at the end. -/
def guardedSession (body : ProtobufTask Bool) : ProtobufTask Bool :=
  bleWriteGuard (do
    let d ← getDev
    if d.hasConnection then tryFinally body R.disconnect else pure false)

def setProgram (spec : ProgramSpec) : ProtobufTask Bool := guardedSession R (setProgramBody R spec)

def deleteProgramBody (slot : ℕ) : ProtobufTask Bool := do
  let read ← readPrograms R
  let bit ← raising (slotBit (.int slot))
  let mask ← currentMask read.2
  let flags ← raising (maskWithout mask bit)
  writeMask R flags
  sendMessage_ R (buildProgramDeletePb slot)
  autoMode R
  stampCommand ("program delete " ++ slotLetter slot) 0
  let readBack ← readPrograms R
  match readBack.1.get (.int slot) with
  | some sch => pure sch.empty
  | none => pure true

def deleteProgram (slot : ℕ) : ProtobufTask Bool := guardedSession R (deleteProgramBody R slot)

/-- `bool(mask & bit) == on`. -/
def maskConfirms (mask : PbVal) (bit : ℕ) (on : Bool) : Except PyErr Bool :=
  match mask with
  | .int m => .ok ((m &&& bit != 0) == on)
  | .bytes _ => .error .typeError

def setProgramEnabledBody (slot : ℕ) (on : Bool) : ProtobufTask Bool := do
  let read ← readPrograms R
  let mask ← currentMask read.2
  let bit ← raising (slotBit (.int slot))
  let flags ← raising (if on then maskWith mask bit else maskWithout mask bit)
  writeMask R flags
  autoMode R
  onlyIf on (writeMask R flags)
  stampCommand ("program " ++ (if on then "enable " else "disable ") ++ slotLetter slot) 0
  refreshStatus R false
  let readBack ← readPrograms R
  let mask ← currentMask readBack.2
  raising (maskConfirms mask bit on)

def setProgramEnabled (slot : ℕ) (on : Bool) : ProtobufTask Bool :=
  guardedSession R (setProgramEnabledBody R slot on)

/-! ### The poll -/

/-- The part of `refresh_state` under its `try`. -/
def pollStatus : ProtobufTask Unit := do
  refreshStatus R true
  modState fun s => { s with isConnected := true }
  let d ← getDev
  if d.parsed then do
    let now ← getClock
    modState fun s => { s with lastSuccessfulPoll := some now, consecutiveTimeouts := 0 }
    let d ← getDev
    onlyIf (d.hasFlow && d.state.isWatering) (readFlowLocked R)
    let d ← getDev
    onlyIf (!d.state.isWatering) (swallow (do
      let _ ← readPrograms R))
  else modState fun s => { s with consecutiveTimeouts := s.consecutiveTimeouts + 1 }

def refreshState : ProtobufTask Unit := do
  let d ← getDev
  onlyIf d.hasConnection (tryFinally
    (tryCatch (pollStatus R) fun _ =>
      modState fun s =>
        { s with consecutiveTimeouts := s.consecutiveTimeouts + 1, isConnected := false })
    R.disconnect)

end Methods

/-- A plaintext the callback withholds from the observer says nothing to it. -/
theorem decodeInner_of_not_passes {replies : ℕ → Reply} {utcOffset : UtcOffset} {pt : Bytes}
    (h : (protobufRadio replies utcOffset).passes pt = false) : decodeInner pt = none := by
  have hhead : 4 ≤ pt.length ∧ pt.take 4 ≠ MSG_HEADER := by
    simpa [Radio.passes, protobufRadio] using h
  unfold decodeInner
  rw [if_pos (.inr hhead.2)]

theorem dev_hears (replies : ℕ → Reply) (utcOffset : UtcOffset) (w : World ProtobufDevice) (n : Notice) :
    (w.hears (protobufRadio replies utcOffset) n).dev = observe n.clock n.pt w.dev := by
  have hdev : (w.hears (protobufRadio replies utcOffset) n).dev =
      if (protobufRadio replies utcOffset).passes n.pt then observe n.clock n.pt w.dev
      else w.dev := rfl
  rw [hdev]
  split_ifs with h
  · rfl
  · rw [observe, applyStatusPlaintext, decodeInner_of_not_passes (by simpa using h)]
    rfl

theorem recoverStatus_returns (R : Radio ProtobufDevice) : Returns (recoverStatus R) := by
  have hattempt : ∀ w, ∃ done w', (tryCatch (recoverAttempt R) fun _ => pure false :
      ProtobufTask Bool) w = .ok done w' := by
    intro w
    rw [run_tryCatch]
    cases recoverAttempt R w with
    | ok done w' => exact ⟨done, w', rfl⟩
    | error e w' => exact ⟨false, w', rfl⟩
  intro w
  obtain ⟨done, w', h⟩ := hattempt w
  rw [recoverStatus, run_bind_ok h, after_bind_ok h]
  cases done with
  | true => rfl
  | false =>
    obtain ⟨done', w'', h'⟩ := hattempt w'
    simp only [Bool.not_false, onlyIf, if_true]
    rw [run_bind_ok h', after_bind_ok h']
    rfl

end OrbitBhyve.Devices
