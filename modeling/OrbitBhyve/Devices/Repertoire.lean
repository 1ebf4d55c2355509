import OrbitBhyve.Devices.Settings
import OrbitBhyve.Devices.Traffic

/-!
# The repertoire of the protobuf device

Every operation may read: a status, the flow, the programs, and the clock and
the recorded rain delay which a status read writes to elicit one. Beyond that it
writes the commands it stands for and no others, whatever the device replies,
however often it retries and wherever it raises. So over any run of operations a
start, a stop, a mode, a program or a mask which the device is told is one which
an operation of the run was called for.
-/

namespace OrbitBhyve.Devices

open Foundation Python Wire

def getPrograms (R : Radio ProtobufDevice) : ProtobufTask ProgramTable := do
  let d ← getDev
  if d.hasConnection then
    tryFinally (do
      let _ ← readPrograms R
      let d ← getDev
      pure d.state.programs) R.disconnect
  else pure []

def readFlow (R : Radio ProtobufDevice) : ProtobufTask Unit := do
  let d ← getDev
  onlyIf (d.hasConnection && d.hasFlow) (readFlowLocked R)

/-- The methods which a coordinator, an entity or a service calls. -/
inductive ProtobufOp where
  | refreshState
  | refreshStatus (syncClock : Bool)
  | readFlow
  | getPrograms
  | startWatering (station durationSec : ℤ)
  | stopWatering
  | setRainDelay (minutes : ℤ)
  | clearRainDelay
  | setControllerMode (on : Bool)
  | identify (seconds : ℤ)
  | setProgram (spec : ProgramSpec)
  | deleteProgram (slot : ℕ)
  | setProgramEnabled (slot : ℕ) (on : Bool)

/-- A method whose result is not looked at. -/
def ignoring {α : Type} (x : ProtobufTask α) : ProtobufTask Unit := do
  let _ ← x
  pure ()

namespace ProtobufOp

def call (R : Radio ProtobufDevice) : ProtobufOp → ProtobufTask Unit
  | refreshState => Devices.refreshState R
  | refreshStatus syncClock => Devices.refreshStatus R syncClock
  | readFlow => Devices.readFlow R
  | getPrograms => ignoring (Devices.getPrograms R)
  | startWatering station durationSec => ignoring (Devices.startWatering R station durationSec)
  | stopWatering => ignoring (Devices.stopWatering R)
  | setRainDelay minutes => ignoring (Devices.setRainDelay R minutes)
  | clearRainDelay => ignoring (Devices.clearRainDelay R)
  | setControllerMode on => ignoring (Devices.setControllerMode R on)
  | identify seconds => ignoring (Devices.identify R seconds)
  | setProgram spec => ignoring (Devices.setProgram R spec)
  | deleteProgram slot => ignoring (Devices.deleteProgram R slot)
  | setProgramEnabled slot on => ignoring (Devices.setProgramEnabled R slot on)

def run (R : Radio ProtobufDevice) : List ProtobufOp → ProtobufTask Unit
  | [] => pure ()
  | op :: ops => do
    swallow (op.call R)
    run R ops

/-- The messages which an operation stands for. -/
def Commands : ProtobufOp → Bytes → Prop
  | startWatering station durationSec, pb => pb = buildStartPb (station - 1) durationSec
  | stopWatering, pb => pb = STOP_PB
  | setControllerMode on, pb => pb = buildSetTimerModePb (modeOf on)
  | identify seconds, pb => pb = buildIdentifyPb seconds ∨ pb = buildIdentifyPb 0
  | setProgram spec, pb =>
    pb = buildProgramPb spec ∨ (∃ flags, pb = buildSetActiveProgramsPb flags) ∨
      pb = buildSetTimerModePb 1
  | deleteProgram slot, pb =>
    pb = buildProgramDeletePb slot ∨ (∃ flags, pb = buildSetActiveProgramsPb flags) ∨
      pb = buildSetTimerModePb 1
  | setProgramEnabled _ _, pb =>
    (∃ flags, pb = buildSetActiveProgramsPb flags) ∨ pb = buildSetTimerModePb 1
  | _, _ => False

end ProtobufOp

/-- The top-level fields of a read: the sync request, the status request, the rain delay,
the flow subscription and the clock. -/
def readFields : List ℕ := [10, 15, 17, 57, 75]

def Written (commands : Bytes → Prop) (pt : Bytes) : Prop :=
  ∃ f block, buildMessage (pbFieldBytes f block) = .ok pt ∧
    (f ∈ readFields ∨ commands (pbFieldBytes f block))

structure ObserverFields where
  batteryMv : Option ℕ
  deviceClock : Option PbVal
  flowGpmDevice : Option Reading
  faults : Option FaultStatus
  controllerMode : Option PbVal
  nextStartFlags : Option PbVal
  nextStartAt : Option DateTime

def ProtobufDevice.observerFields (d : ProtobufDevice) : ObserverFields where
  batteryMv := d.batteryMv
  deviceClock := d.state.deviceClock
  flowGpmDevice := d.state.flowGpmDevice
  faults := d.state.faults
  controllerMode := d.state.controllerMode
  nextStartFlags := d.state.nextStartFlags
  nextStartAt := d.state.nextStartAt

/-- The relation allows for operations of the connection, for writes of reads, and for what the
methods assign. -/
structure OpTraffic (R : Radio ProtobufDevice) (ok : Bytes → Prop)
    (M : World ProtobufDevice → World ProtobufDevice → Prop) : Prop where
  operates : R.Operates ok M
  reads : ∀ f ∈ readFields, ∀ block, Sends ok (pbFieldBytes f block)
  assigns : ∀ {w w' : World ProtobufDevice}, w'.log = w.log →
    w'.dev.observerFields = w.dev.observerFields → M w w'

namespace OpTraffic

variable {R : Radio ProtobufDevice} {ok : Bytes → Prop}
  {M : World ProtobufDevice → World ProtobufDevice → Prop} [IsPreorder _ M]
  (h : OpTraffic R ok M)
include h

omit [IsPreorder _ M] in
theorem moves_modState {f : DeviceState → DeviceState}
    (hf : ∀ d : ProtobufDevice,
      ({ d with state := f d.state } : ProtobufDevice).observerFields = d.observerFields) :
    Moves M (modState f) :=
  Devices.moves_modState fun w => h.assigns rfl (hf w.dev)

theorem moves_stampCommand (label : String) (notifs : ℕ) : Moves M (stampCommand label notifs) :=
  Devices.moves_stampCommand fun _ _ _ _ => h.assigns rfl rfl

theorem moves_refreshStatus (syncClock : Bool) : Moves M (refreshStatus R syncClock) := by
  have htraffic : StatusTraffic R ok M := .of_blocks h.operates fun f hf => h.reads f (by
    simp only [readFields, List.mem_cons, List.not_mem_nil, or_false] at hf ⊢
    tauto)
  exact htraffic.moves_refreshStatus (fun _ => h.assigns rfl rfl) syncClock

theorem moves_readPrograms : Moves M (readPrograms R) :=
  Devices.moves_readPrograms h.operates (h.reads _ (by decide) []) fun _ _ => h.assigns rfl rfl

theorem moves_readFlowLocked : Moves M (readFlowLocked R) :=
  Devices.moves_readFlowLocked h.operates (FLOW_SUBSCRIBE_PB_eq ▸ h.reads _ (by decide) _)
    (FLOW_UNSUBSCRIBE_PB_eq ▸ h.reads _ (by decide) _) (fun _ _ => h.assigns rfl rfl)
    fun _ _ => h.assigns rfl rfl

theorem moves_sendMessage {pb : Bytes} (hpb : Sends ok pb) : Moves M (sendMessage R pb) :=
  Devices.moves_sendMessage h.operates hpb

theorem moves_sendMessage_ {pb : Bytes} (hpb : Sends ok pb) : Moves M (sendMessage_ R pb) :=
  Devices.moves_sendMessage_ h.operates hpb

omit [IsPreorder _ M] in
theorem moves_disconnect : Moves M R.disconnect := h.operates.suspend

/-! ### The poll and the reads -/

theorem moves_pollStatus : Moves M (pollStatus R) := by
  refine Moves.bind (h.moves_refreshStatus true) fun _ =>
    Moves.bind (h.moves_modState fun _ => rfl) fun _ =>
      Moves.bind moves_getDev fun _ => .ite ?_ (h.moves_modState fun _ => rfl)
  refine Moves.bind moves_getClock fun _ => Moves.bind (h.moves_modState fun _ => rfl) fun _ =>
    Moves.bind moves_getDev fun _ => Moves.bind (.onlyIf h.moves_readFlowLocked) fun _ => ?_
  exact Moves.bind moves_getDev fun _ =>
    .onlyIf (Moves.bind h.moves_readPrograms fun _ => .pure _).swallow

theorem moves_refreshState : Moves M (refreshState R) :=
  Moves.bind moves_getDev fun _ => .onlyIf (Moves.tryFinally
    (h.moves_pollStatus.tryCatch fun _ => h.moves_modState fun _ => rfl) h.moves_disconnect)

theorem moves_getPrograms : Moves M (getPrograms R) :=
  Moves.bind moves_getDev fun _ => .ite (Moves.tryFinally
    (Moves.bind h.moves_readPrograms fun _ => Moves.bind moves_getDev fun _ => .pure _)
    h.moves_disconnect) (.pure _)

/-! ### Watering -/

theorem moves_confirmStart (station durationSec : ℤ) :
    Moves M (confirmStart station durationSec) :=
  Moves.bind moves_getClock fun _ => Moves.bind (h.moves_modState fun _ => rfl) fun _ =>
    Moves.bind (.raising _) fun _ => h.moves_modState fun _ => rfl

theorem moves_startOutcome (station durationSec : ℤ) (notifs : ℕ) :
    Moves M (startOutcome R station durationSec notifs) := by
  refine Moves.bind (h.moves_stampCommand _ _) fun _ => Moves.bind moves_getDev fun _ => ?_
  refine Moves.bind (.onlyIf (Moves.bind h.moves_disconnect fun _ => h.moves_refreshStatus false))
    fun _ => Moves.bind moves_getDev fun _ => ?_
  exact .ite (Moves.bind (h.moves_confirmStart _ _) fun _ => .pure _) (.pure _)

theorem moves_startAttempts (station durationSec : ℤ) {msg : Bytes} (hmsg : ok msg)
    (left : ℕ) : Moves M (startAttempts R station durationSec msg left) := by
  induction left with
  | zero => exact .pure _
  | succ left ih =>
    exact Moves.bind (h.operates.send hmsg) fun _ =>
      Moves.bind (h.moves_startOutcome _ _ _) fun _ =>
        .ite (.pure _) (Moves.bind (.onlyIf h.moves_disconnect) fun _ => ih)

theorem moves_startWatering {station durationSec : ℤ}
    (hstart : Sends ok (buildStartPb (station - 1) durationSec)) :
    Moves M (startWatering R station durationSec) :=
  Moves.bind moves_getDev fun _ => .ite (Moves.tryFinally
    (Moves.bind_raising fun msg hmsg => h.moves_startAttempts _ _ (hstart msg hmsg) 2)
    h.moves_disconnect) (.pure _)

theorem moves_stopOutcome (notifs : ℕ) : Moves M (stopOutcome R notifs) :=
  Moves.bind (h.moves_stampCommand _ _) fun _ => Moves.bind h.moves_disconnect fun _ =>
    Moves.bind (h.moves_refreshStatus false) fun _ => Moves.bind moves_getDev fun _ =>
      .ite (.pure _) (Moves.bind (h.moves_modState fun _ => rfl) fun _ => .pure _)

theorem moves_stopAttempts {msg : Bytes} (hmsg : ok msg) (left : ℕ) :
    Moves M (stopAttempts R msg left) := by
  induction left with
  | zero => exact .pure _
  | succ left ih =>
    exact Moves.bind (h.operates.send hmsg) fun _ => Moves.bind (h.moves_stopOutcome _) fun _ =>
      .ite (.pure _) (Moves.bind (.onlyIf h.moves_disconnect) fun _ => ih)

theorem moves_stopWatering (hstop : Sends ok STOP_PB) : Moves M (stopWatering R) :=
  Moves.bind moves_getDev fun _ => .ite (Moves.tryFinally
    (Moves.bind_raising fun msg hmsg => h.moves_stopAttempts (hstop msg hmsg) 2)
    h.moves_disconnect) (.pure _)

/-! ### Settings -/

theorem moves_guardedSession {body : ProtobufTask Bool} (hbody : Moves M body) :
    Moves M (guardedSession R body) :=
  Moves.tryCatch (Moves.bind moves_getDev fun _ =>
    .ite (hbody.tryFinally h.moves_disconnect) (.pure _)) fun _ => .ite (.pure _) (.throw _)

theorem moves_rainDelayConfirmed (wanted : Bool) : Moves M (rainDelayConfirmed R wanted) :=
  Moves.bind (h.moves_refreshStatus false) fun _ => Moves.bind moves_getDev fun _ => .pure _

theorem moves_clearRainDelayUnlocked : Moves M (clearRainDelayUnlocked R) := by
  refine Moves.tryFinally (Moves.bind ?_ fun _ => h.moves_rainDelayConfirmed false)
    (Moves.bind moves_getDev fun _ => .onlyIf h.moves_disconnect)
  exact Moves.bind (h.moves_sendMessage (h.reads _ (by decide) _)) fun _ =>
    Moves.bind (h.moves_stampCommand _ _) fun _ => h.moves_modState fun _ => rfl

theorem moves_clearRainDelay : Moves M (clearRainDelay R) :=
  Moves.bind moves_getDev fun _ => .ite h.moves_clearRainDelayUnlocked (.pure _)

theorem moves_seedRainDelay (minutes expiry : ℤ) (notifs : ℕ) :
    Moves M (seedRainDelay minutes expiry notifs) :=
  Moves.bind (h.moves_stampCommand _ _) fun _ =>
    Moves.bind (h.moves_modState fun _ => rfl) fun _ =>
      Moves.bind (.raising _) fun _ => h.moves_modState fun _ => rfl

theorem moves_commandRainDelay (minutes : ℤ) : Moves M (commandRainDelay R minutes) :=
  Moves.bind moves_getDev fun _ => Moves.bind moves_getClock fun _ =>
    Moves.bind (.raising _) fun _ =>
      Moves.bind (h.moves_sendMessage (h.reads _ (by decide) _)) fun _ =>
        h.moves_seedRainDelay _ _ _

theorem moves_setRainDelay (minutes : ℤ) : Moves M (setRainDelay R minutes) :=
  Moves.bind moves_getDev fun _ => .ite (Moves.tryFinally
    (.ite h.moves_clearRainDelayUnlocked (Moves.bind (h.moves_refreshStatus false) fun _ =>
      Moves.bind (h.moves_commandRainDelay minutes) fun _ => h.moves_rainDelayConfirmed true))
    h.moves_disconnect) (.pure _)

theorem moves_setControllerMode {on : Bool}
    (hmode : Sends ok (buildSetTimerModePb (modeOf on))) :
    Moves M (setControllerMode R on) := by
  refine h.moves_guardedSession (Moves.bind ?_ fun _ => Moves.bind moves_getDev fun _ => .pure _)
  exact Moves.bind (h.moves_sendMessage hmode) fun _ =>
    Moves.bind (h.moves_stampCommand _ _) fun _ => h.moves_refreshStatus false

theorem moves_identify {seconds : ℤ} (hflash : Sends ok (buildIdentifyPb seconds))
    (hzero : Sends ok (buildIdentifyPb 0)) : Moves M (identify R seconds) :=
  h.moves_guardedSession (Moves.bind (h.moves_sendMessage_ hflash) fun _ =>
    Moves.bind (h.moves_stampCommand _ _) fun _ => Moves.bind h.moves_disconnect fun _ =>
      Moves.bind (h.moves_sendMessage_ hzero) fun _ => .pure _)

/-! ### Programs -/

section Programs

variable (hmask : ∀ flags, Sends ok (buildSetActiveProgramsPb flags))
  (hauto : Sends ok (buildSetTimerModePb 1))
include hmask hauto

theorem moves_enableHandshake {pb : Bytes} (hpb : Sends ok pb) (mask : PbVal) (bit : ℕ) :
    Moves M (enableHandshake R mask bit pb) := by
  refine Moves.bind (.raising _) fun flags => ?_
  refine Moves.bind (h.moves_sendMessage_ (hmask flags)) fun _ =>
    Moves.bind (h.moves_sendMessage_ hauto) fun _ => Moves.bind (h.moves_sendMessage_ hpb) fun _ =>
      Moves.bind (h.moves_sendMessage_ (hmask flags)) fun _ =>
        Moves.bind (h.moves_refreshStatus false) fun _ => Moves.bind moves_getDev fun d => ?_
  split
  · exact .pure _
  · exact .ite (.pure _) (.throw _)
  · exact .pure _

theorem moves_storeOnly (mask : PbVal) (bit : ℕ) (stored : Bool) :
    Moves M (storeOnly R mask bit stored) :=
  Moves.bind (.raising _) fun flags => Moves.bind (h.moves_sendMessage_ (hmask flags)) fun _ =>
    Moves.bind (h.moves_sendMessage_ hauto) fun _ => .pure _

omit h hmask hauto in
theorem moves_currentMask (mask : Option PbVal) : Moves M (currentMask mask) :=
  Moves.bind moves_getDev fun _ => .raising _

theorem moves_setProgram {spec : ProgramSpec} (hstore : Sends ok (buildProgramPb spec)) :
    Moves M (setProgram R spec) :=
  h.moves_guardedSession (Moves.bind h.moves_readPrograms fun _ =>
    Moves.bind (moves_currentMask _) fun _ => Moves.bind (h.moves_sendMessage_ hstore) fun _ =>
      Moves.bind (h.moves_stampCommand _ _) fun _ => Moves.bind h.moves_readPrograms fun _ =>
        Moves.bind (.raising _) fun _ =>
          .ite (h.moves_enableHandshake hmask hauto hstore _ _)
            (h.moves_storeOnly hmask hauto _ _ _))

theorem moves_deleteProgram {slot : ℕ} (hdelete : Sends ok (buildProgramDeletePb slot)) :
    Moves M (deleteProgram R slot) := by
  refine h.moves_guardedSession (Moves.bind h.moves_readPrograms fun _ =>
    Moves.bind (.raising _) fun _ => Moves.bind (moves_currentMask _) fun _ =>
      Moves.bind (.raising _) fun flags => Moves.bind (h.moves_sendMessage_ (hmask flags)) fun _ =>
        Moves.bind (h.moves_sendMessage_ hdelete) fun _ =>
          Moves.bind (h.moves_sendMessage_ hauto) fun _ =>
            Moves.bind (h.moves_stampCommand _ _) fun _ =>
              Moves.bind h.moves_readPrograms fun _ => ?_)
  split
  · exact .pure _
  · exact .pure _

theorem moves_setProgramEnabled (slot : ℕ) (on : Bool) :
    Moves M (setProgramEnabled R slot on) :=
  h.moves_guardedSession (Moves.bind h.moves_readPrograms fun _ =>
    Moves.bind (moves_currentMask _) fun _ => Moves.bind (.raising _) fun _ =>
      Moves.bind (.raising _) fun flags => Moves.bind (h.moves_sendMessage_ (hmask flags)) fun _ =>
        Moves.bind (h.moves_sendMessage_ hauto) fun _ =>
          Moves.bind (.onlyIf (h.moves_sendMessage_ (hmask flags))) fun _ =>
            Moves.bind (h.moves_stampCommand _ _) fun _ =>
              Moves.bind (h.moves_refreshStatus false) fun _ =>
                Moves.bind h.moves_readPrograms fun _ => Moves.bind (moves_currentMask _) fun _ =>
                  .raising _)

end Programs

omit h in
theorem moves_ignoring {α : Type} {x : ProtobufTask α} (hx : Moves M x) : Moves M (ignoring x) :=
  Moves.bind hx fun _ => .pure _

theorem moves_call (op : ProtobufOp) (hcommands : ∀ pb, op.Commands pb → Sends ok pb) :
    Moves M (op.call R) := by
  cases op with
  | refreshState => exact h.moves_refreshState
  | refreshStatus syncClock => exact h.moves_refreshStatus syncClock
  | readFlow => exact Moves.bind moves_getDev fun _ => .onlyIf h.moves_readFlowLocked
  | getPrograms => exact moves_ignoring h.moves_getPrograms
  | startWatering station durationSec =>
    exact moves_ignoring (h.moves_startWatering (hcommands _ rfl))
  | stopWatering => exact moves_ignoring (h.moves_stopWatering (hcommands _ rfl))
  | setRainDelay minutes => exact moves_ignoring (h.moves_setRainDelay minutes)
  | clearRainDelay => exact moves_ignoring h.moves_clearRainDelay
  | setControllerMode on =>
    exact moves_ignoring (h.moves_setControllerMode (hcommands _ rfl))
  | identify seconds =>
    exact moves_ignoring
      (h.moves_identify (hcommands _ (.inl rfl)) (hcommands _ (.inr rfl)))
  | setProgram spec =>
    exact moves_ignoring (h.moves_setProgram (fun flags => hcommands _ (.inr (.inl ⟨flags, rfl⟩)))
      (hcommands _ (.inr (.inr rfl))) (hcommands _ (.inl rfl)))
  | deleteProgram slot =>
    exact moves_ignoring (h.moves_deleteProgram
      (fun flags => hcommands _ (.inr (.inl ⟨flags, rfl⟩))) (hcommands _ (.inr (.inr rfl)))
      (hcommands _ (.inl rfl)))
  | setProgramEnabled slot on =>
    exact moves_ignoring (h.moves_setProgramEnabled
      (fun flags => hcommands _ (.inl ⟨flags, rfl⟩)) (hcommands _ (.inr rfl)) slot on)

theorem moves_run (ops : List ProtobufOp)
    (hcommands : ∀ op ∈ ops, ∀ pb, op.Commands pb → Sends ok pb) :
    Moves M (ProtobufOp.run R ops) := by
  induction ops with
  | nil => exact .pure _
  | cons op ops ih =>
    have hfirst := h.moves_call op (hcommands op List.mem_cons_self)
    have hrest := ih fun o ho => hcommands o (List.mem_cons_of_mem _ ho)
    exact Moves.bind hfirst.swallow fun _ => hrest

end OpTraffic

/-! ## What a run writes -/

theorem STOP_PB_eq : STOP_PB = pbFieldBytes 14 [0x08, 0x02, 0x12, 0x00] := by decide +kernel

theorem ProtobufOp.Commands.block {op : ProtobufOp} {pb : Bytes} (h : op.Commands pb) :
    ∃ f block, pb = pbFieldBytes f block := by
  cases op with
  | startWatering station durationSec => exact ⟨_, _, h⟩
  | stopWatering => exact ⟨_, _, h.trans STOP_PB_eq⟩
  | setControllerMode on => exact ⟨_, _, h⟩
  | identify seconds =>
    rcases h with h | h
    · exact ⟨_, _, h⟩
    · exact ⟨_, _, h⟩
  | setProgram spec =>
    rcases h with h | ⟨flags, h⟩ | h
    · exact ⟨_, _, h⟩
    · exact ⟨_, _, h⟩
    · exact ⟨_, _, h⟩
  | deleteProgram slot =>
    rcases h with h | ⟨flags, h⟩ | h
    · exact ⟨_, _, h⟩
    · exact ⟨_, _, h⟩
    · exact ⟨_, _, h⟩
  | setProgramEnabled slot on =>
    rcases h with ⟨flags, h⟩ | h
    · exact ⟨_, _, h⟩
    · exact ⟨_, _, h⟩
  | _ => exact h.elim

/-- A run writes what its operations stand for. -/
theorem writes_run (R : Radio ProtobufDevice) (ops : List ProtobufOp) :
    Moves (WritesOnly (Written fun pb => ∃ op ∈ ops, op.Commands pb)) (ProtobufOp.run R ops) := by
  have htraffic : OpTraffic R (Written fun pb => ∃ op ∈ ops, op.Commands pb)
      (WritesOnly (Written fun pb => ∃ op ∈ ops, op.Commands pb)) :=
    ⟨operates_writesOnly R _, fun _ hf block _ hmsg => ⟨_, block, hmsg, .inl hf⟩,
      fun hlog _ => .of_same hlog⟩
  apply htraffic.moves_run
  intro op hop pb hpb msg hmsg
  obtain ⟨f, block, rfl⟩ := hpb.block
  exact ⟨f, block, hmsg, .inr ⟨op, hop, hpb⟩⟩

/-- Over any run of operations, with any replies and wherever they raise: every plaintext
written is one framed message, and what the device reads in it is a read's own field or the
command of an operation of the run. No start, stop, mode, program or mask is written which
no operation was called for. -/
theorem run_writes_commanded (R : Radio ProtobufDevice) (ops : List ProtobufOp)
    (w : World ProtobufDevice) :
    ∀ pt, .wrote pt ∈ (after (ProtobufOp.run R ops) w).log.drop w.log.length →
      (∃ f block, writtenField f pt = some block) ∧
        ∀ f block, writtenField f pt = some block →
          f ∈ readFields ∨ ∃ op ∈ ops, op.Commands (pbFieldBytes f block) := by
  intro pt hpt
  obtain ⟨f, block, hmsg, hpb⟩ := (writes_run R ops w).wrote pt hpt
  refine ⟨⟨f, block, by rw [writtenField_of_buildMessage hmsg, if_pos rfl]⟩,
    fun f' block' hread => ?_⟩
  rw [writtenField_of_buildMessage hmsg] at hread
  split_ifs at hread with hf
  obtain rfl := Option.some.inj hread
  rw [hf]
  exact hpb

/-- A flash of six seconds and its end are what a silent device is written. -/
theorem run_writes_commanded_flash :
    ∃ pt, .wrote pt ∈ (after (ProtobufOp.run (protobufRadio (fun _ => { clock := .epoch }) .utc)
        [.identify 6]) { dev := {}, clock := .epoch }).log.drop 0 ∧
      (∃ f block, writtenField f pt = some block) ∧
        ∀ f block, writtenField f pt = some block → f ∈ readFields ∨
          ∃ op ∈ [ProtobufOp.identify 6], op.Commands (pbFieldBytes f block) := by
  obtain ⟨pt, hmsg⟩ : ∃ pt, buildMessage (buildIdentifyPb 6) = .ok pt := ⟨_, rfl⟩
  have hwrote : .wrote pt ∈ (after (ProtobufOp.run
      (protobufRadio (fun _ => { clock := .epoch }) .utc) [.identify 6])
        { dev := {}, clock := .epoch }).log.drop 0 := by
    cases hmsg
    exact List.mem_cons_self
  exact ⟨pt, hwrote, run_writes_commanded _ _ { dev := {}, clock := .epoch } pt hwrote⟩

end OrbitBhyve.Devices
