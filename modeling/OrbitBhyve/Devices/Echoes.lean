import OrbitBhyve.Devices.HubMesh
import OrbitBhyve.Devices.Ht25
import OrbitBhyve.Devices.Repertoire

/-!
# An echoed write says nothing

A link may hand a written frame back as a notification. What the protobuf
classes write has none of the top-level fields a status is read from; what the
mesh class writes, the init of a session included, has the reply bit clear and
neither sequence number of a flow report. So an echo leaves the device as it is,
whenever it arrives and whatever has been written.
-/

namespace OrbitBhyve.Devices

open Foundation Python Wire

/-! ## The protobuf family -/

def statusFields : List ℕ := [7, 16, 30, 46, 59]

theorem extractTop_unread {fields : List Field} (h : ∀ f ∈ fields, f.num ∉ statusFields) :
    extractTop (some fields) = .ok {} := by
  have hnone : ∀ n ∈ statusFields, pbField (some fields) n = none := by
    intro n hn
    exact pbField_eq_none fun f hf heq => h f hf (heq ▸ hn)
  have h7 := hnone 7 (by decide)
  have h16 := hnone 16 (by decide)
  have h30 := hnone 30 (by decide)
  have h46 := hnone 46 (by decide)
  have h59 := hnone 59 (by decide)
  simp [extractTop, statusOf, wateringOf, flowRate, batteryOf, pbSubfield, pbPath, h7, h16, h30,
    h46, h59, bind, Except.bind]

theorem extractStatus_unread {f : ℕ} (hf : f ∉ statusFields) (block : Bytes) :
    extractStatus (pbFieldBytes f block) = .ok {} := by
  rw [extractStatus, pbParse_pbFieldBytes]
  exact extractTop_unread (by simpa using hf)

theorem after_applyStatus_empty (now : DateTime) (d : ProtobufDevice) :
    after (applyStatus now {}) d = d := rfl

theorem extractStatus_of_read {f : ℕ} (hf : f ∈ readFields) (block : Bytes) :
    extractStatus (pbFieldBytes f block) = .ok {} := by
  refine extractStatus_unread ?_ block
  revert f
  decide

/-- No command is written under a field which a status is read from. -/
theorem ProtobufOp.extractStatus_of_commands {op : ProtobufOp} {pb : Bytes} (h : op.Commands pb) :
    extractStatus pb = .ok {} := by
  have hmask : ∀ flags, extractStatus (buildSetActiveProgramsPb flags) = .ok {} := fun _ =>
    extractStatus_unread (by decide) _
  have hmode : ∀ mode, extractStatus (buildSetTimerModePb mode) = .ok {} := fun _ =>
    extractStatus_unread (by decide) _
  cases op with
  | startWatering station durationSec =>
    rw [Commands.eq_def] at h
    rw [h]
    exact extractStatus_unread (by decide) _
  | stopWatering =>
    rw [Commands.eq_def] at h
    rw [h, STOP_PB_eq]
    exact extractStatus_unread (by decide) _
  | setControllerMode on =>
    rw [Commands.eq_def] at h
    rw [h]
    exact hmode _
  | identify seconds =>
    rcases h with rfl | rfl
    · exact extractStatus_unread (by decide) _
    · exact extractStatus_unread (by decide) _
  | setProgram spec =>
    rcases h with rfl | ⟨flags, rfl⟩ | rfl
    · exact extractStatus_unread (by decide) _
    · exact hmask flags
    · exact hmode 1
  | deleteProgram slot =>
    rcases h with rfl | ⟨flags, rfl⟩ | rfl
    · exact extractStatus_unread (by decide) _
    · exact hmask flags
    · exact hmode 1
  | setProgramEnabled slot on =>
    rcases h with ⟨flags, rfl⟩ | rfl
    · exact hmask flags
    · exact hmode 1
  | refreshState => exact h.elim
  | refreshStatus syncClock => exact h.elim
  | readFlow => exact h.elim
  | getPrograms => exact h.elim
  | setRainDelay minutes => exact h.elim
  | clearRainDelay => exact h.elim

theorem observe_written {commands : Bytes → Prop}
    (hcommands : ∀ pb, commands pb → extractStatus pb = .ok {}) {pt : Bytes}
    (h : Written commands pt) (now : DateTime) (d : ProtobufDevice) : observe now pt d = d := by
  obtain ⟨f, block, hmsg, hpb⟩ := h
  have hstatus : extractStatus (pbFieldBytes f block) = .ok {} := by
    rcases hpb with hread | hcommand
    · exact extractStatus_of_read hread block
    · exact hcommands _ hcommand
  obtain ⟨b, hb, rfl⟩ := buildMessage_ok hmsg
  have hinner : decodeInner b.frame = some (pbFieldBytes f block) := by
    rw [decodeInner_frame, hb]
  unfold observe applyStatusPlaintext
  rw [hinner]
  dsimp only
  rw [hstatus, after_bind_ok (run_raising_ok rfl d), after_applyStatus_empty]

/-! ## The mesh family -/

def SEQ_BIND : ℕ := 0x05
def SEQ_SUBSYSTEM : ℕ := 0x01
def SEQ_MAGIC_CHECK : ℕ := 0x00
def SEQ_HEARTBEAT : ℕ := 0x09
def BIND_TAIL : Bytes := [0xF6, 0x69, 0x10, 0xFF]

/-- The ids which an init needs beyond the device's own, and the step of its session id. -/
structure InitIds where
  hubMeshDeviceId : Option ℤ
  hubMeshOverride : Option ℤ
  rebindSidDelta : ℤ

/-- The frames which `_post_handshake` writes, in order, for the session id `sid`. -/
def Ht25Device.postHandshake (d : Ht25Device) (ids : InitIds) (sid : Vector UInt8 2) :
    Except PyErr (List Bytes) := do
  let meshAddress ← d.meshAddress
  let hubAddress ← hubMeshAddress ids.hubMeshDeviceId ids.hubMeshOverride
  -- `& 0xFFFF`
  let sid2 := packU16 (BitVec.ofInt 16 (unpackU16 sid.toList + ids.rebindSidDelta))
  let magic1 := [0x01] ++ meshAddress ++ [0, 0, 0, 0]
  let magic2 := [0x00] ++ hubAddress ++ [0, 0, 0, 0]
  [(0x81, SEQ_BIND, sid.toList ++ BIND_TAIL), (0x02, SEQ_STATUS, [0]),
    (0x03, SEQ_INFO, List.replicate 7 0), (0x04, SEQ_SUBSYSTEM, List.replicate 3 0),
    (0x85, SEQ_MAGIC_CHECK, magic1), (0x85, SEQ_MAGIC_CHECK, magic2), (0x85, SEQ_HEARTBEAT, [0]),
    (0x86, SEQ_BIND, sid2 ++ BIND_TAIL)].mapM fun step => d.build step.1 step.2.1 step.2.2

/-- The types and sequence numbers of the frames which the class writes. -/
def meshKinds : List (ℕ × ℕ) :=
  [(0x81, SEQ_BIND), (0x02, SEQ_STATUS), (0x03, SEQ_INFO), (0x04, SEQ_SUBSYSTEM),
    (0x85, SEQ_MAGIC_CHECK), (0x85, SEQ_HEARTBEAT), (0x86, SEQ_BIND), (0xB6, SEQ_WATER_CTRL),
    (0xB7, SEQ_WATER_CTRL), (TYPE_FLOW_SUBSCRIBE, SEQ_FLOW_SUBSCRIBE)]

/-- A frame of the class, to any address. -/
def MeshWritten (pt : Bytes) : Prop :=
  ∃ kind ∈ meshKinds, byteAt pt 2 = kind.1 ∧ byteAt pt 3 = kind.2

theorem length_meshAddress {d : Ht25Device} {address : Bytes} (h : d.meshAddress = .ok address) :
    address.length = 2 := by
  unfold Ht25Device.meshAddress toBytes2 at h
  split at h
  · cases h
  · split_ifs at h
    cases h
    rfl

theorem meshWritten_of_build {d : Ht25Device} {typeByte seq : ℕ}
    (hkind : (typeByte, seq) ∈ meshKinds) {payload pt : Bytes}
    (h : d.build typeByte seq payload = .ok pt) : MeshWritten pt := by
  unfold Ht25Device.build at h
  cases haddr : d.meshAddress with
  | error e =>
    rw [haddr] at h
    cases h
  | ok address =>
    rw [haddr] at h
    obtain ⟨a, b, rfl⟩ := List.length_eq_two.mp (length_meshAddress haddr)
    have hbytes : ∀ k ∈ meshKinds, (UInt8.ofNat k.1).toNat = k.1 ∧
        (UInt8.ofNat k.2).toNat = k.2 := by decide
    cases h
    exact ⟨(typeByte, seq), hkind, (hbytes _ hkind).1, (hbytes _ hkind).2⟩

theorem meshWritten_of_buildStart {d : Ht25Device} {durationSec : ℤ} {pt : Bytes}
    (h : d.buildStart 0xB6 durationSec = .ok pt) : MeshWritten pt := by
  unfold Ht25Device.buildStart at h
  split_ifs at h
  cases hduration : toBytes2 durationSec with
  | error e =>
    rw [hduration] at h
    cases h
  | ok duration =>
    rw [hduration] at h
    exact meshWritten_of_build (by decide) h

theorem exists_of_mem_mapM {ε α β : Type} {f : α → Except ε β} {l : List α} {bs : List β}
    (h : l.mapM f = .ok bs) : ∀ b ∈ bs, ∃ a ∈ l, f a = .ok b := by
  induction l generalizing bs with
  | nil =>
    cases h
    simp
  | cons a l ih =>
    rw [List.mapM_cons] at h
    cases hfirst : f a with
    | error e =>
      rw [hfirst] at h
      cases h
    | ok b =>
      rw [hfirst] at h
      cases hrest : l.mapM f with
      | error e =>
        rw [hrest] at h
        cases h
      | ok bs' =>
        rw [hrest] at h
        cases h
        intro b' hb'
        rcases List.mem_cons.mp hb' with rfl | hb'
        · exact ⟨a, by simp, hfirst⟩
        · obtain ⟨a', ha', hfa'⟩ := ih hrest b' hb'
          exact ⟨a', List.mem_cons_of_mem _ ha', hfa'⟩

theorem meshWritten_of_postHandshake {d : Ht25Device} {ids : InitIds} {sid : Vector UInt8 2}
    {frames : List Bytes} (h : d.postHandshake ids sid = .ok frames) :
    ∀ pt ∈ frames, MeshWritten pt := by
  unfold Ht25Device.postHandshake at h
  cases haddr : d.meshAddress with
  | error e =>
    rw [haddr] at h
    cases h
  | ok address =>
    rw [haddr] at h
    cases hhub : hubMeshAddress ids.hubMeshDeviceId ids.hubMeshOverride with
    | error e =>
      rw [hhub] at h
      cases h
    | ok hub =>
      rw [hhub] at h
      intro pt hpt
      obtain ⟨step, hstep, hbuild⟩ := exists_of_mem_mapM h pt hpt
      refine meshWritten_of_build ?_ hbuild
      simp only [List.mem_cons, List.not_mem_nil, or_false] at hstep
      rcases hstep with rfl | rfl | rfl | rfl | rfl | rfl | rfl | rfl <;> simp [meshKinds]

/-- A frame of the class comes back without a meaning. -/
theorem meshObserve_written {pt : Bytes} (h : MeshWritten pt) (now : DateTime) (d : Ht25Device) :
    meshObserve now pt d = d := by
  obtain ⟨kind, hkind, htype, hseq⟩ := h
  have hmute : ∀ k ∈ meshKinds, (k.1 &&& 0x40 != 0) = false ∧ k.2 ≠ SEQ_FLOW ∧
      k.2 ≠ SEQ_FLOW_END := by decide
  obtain ⟨hbit, hflow, hend⟩ := hmute kind hkind
  have hreply : isMeshReply pt = false := by
    rw [isMeshReply, isReply, htype, hbit, Bool.and_false]
  have hbase : baseObservePlaintext now pt = pure () := by
    rw [baseObservePlaintext, hreply]
    rfl
  have hack : applyAck now pt = pure () := by
    rw [applyAck, hreply]
    rfl
  have hskip : applyFlowEnd pt d = .ok () d := by
    rw [applyFlowEnd, run_bind_ok (run_get d), if_neg fun h => hend (hseq.symm.trans h.1),
      run_pure]
  unfold meshObserve meshObservePlaintext
  rw [hbase, Returns.pure.after_bind, after_pure, applyGen1FlowFrame, bind_assoc,
    after_bind_ok (run_get d)]
  cases hown : isOwnFrame 11 SEQ_FLOW pt d with
  | error e =>
    rw [bind_assoc, after_bind_error (run_raising_error rfl d)]
  | ok own =>
    obtain rfl : own = false := isOwnFrame_of_ne hown (by rw [hseq]; exact hflow)
    rw [bind_assoc, after_bind_ok (run_raising_ok rfl d), bind_assoc,
      after_bind_ok (run_onlyIf_false _ d), after_bind_ok (run_pure _ d), after_bind_ok hskip,
      hack, after_pure]

/-! ## Runs of the mesh class -/

/-- The body of `_gen1_renewal_loop` once it has the lock. -/
def renewGen1Flow (R : Radio Ht25Device) : MeshTask Unit := do
  let d ← getDev
  onlyIf d.state.isWatering (tryCatch (do
    let frame ← raising d.flowSubscribeFrame
    let _ ← meshSend R frame
    pure ()) fun e => if PyErr.isGattError e then pure () else throw e)

/-- The methods which a coordinator, an entity, a service or the renewal task runs. -/
inductive MeshOp where
  | refreshState
  | asyncManualSync
  | startWatering (station durationSec : ℤ)
  | stopWatering
  | onWateringFinished
  | renewal

namespace MeshOp

def call (R : Radio Ht25Device) : MeshOp → MeshTask Unit
  | refreshState => meshRefreshState R
  | asyncManualSync => connectRefresh R
  | startWatering station durationSec => do
    let _ ← startMeshWatering R station durationSec
    pure ()
  | stopWatering => do
    let _ ← stopMeshWatering R
    pure ()
  | onWateringFinished => meshWateringFinished
  | renewal => renewGen1Flow R

/-- The calls of a run one after another; what one raises is its caller's. -/
def run (R : Radio Ht25Device) : List MeshOp → MeshTask Unit
  | [] => pure ()
  | op :: ops => do
    swallow (op.call R)
    run R ops

end MeshOp

section Moves

variable {R : Radio Ht25Device}

theorem writes_modDev (f : Ht25Device → Ht25Device) :
    Moves (WritesOnly MeshWritten) (modDev f) :=
  Moves.modify fun _ => .of_same rfl

theorem writes_meshSend {pt : Bytes} (h : MeshWritten pt) :
    Moves (WritesOnly MeshWritten) (meshSend R pt) :=
  Moves.bind (Moves.bind .get fun _ => writes_modDev _) fun _ =>
    (operates_writesOnly R MeshWritten).send h

theorem writes_meshDisconnect : Moves (WritesOnly MeshWritten) (meshDisconnect R) :=
  Moves.bind (writes_modDev _) fun _ => (operates_writesOnly R MeshWritten).suspend

theorem writes_sendCommand {pt : Bytes} (h : MeshWritten pt) :
    Moves (WritesOnly MeshWritten) (sendCommand R pt) :=
  (writes_meshSend h).tryCatch fun _ => .ite (.pure _) (.throw _)

theorem writes_markReached : Moves (WritesOnly MeshWritten) markReached :=
  Moves.bind moves_getClock fun _ => writes_modDev _

theorem writes_stampMeshCommand (label : String) (notifs : ℕ) :
    Moves (WritesOnly MeshWritten) (stampMeshCommand label notifs) :=
  Moves.bind moves_getClock fun _ => writes_modDev _

theorem writes_flowSubscribe {α : Type} (a : α) (d : Ht25Device) :
    Moves (WritesOnly MeshWritten) (do
      let frame ← raising d.flowSubscribeFrame
      let _ ← meshSend R frame
      pure a) :=
  Moves.bind_raising fun frame hframe =>
    Moves.bind (writes_meshSend (meshWritten_of_build (by decide) hframe)) fun _ => .pure _

theorem writes_beginGen1Flow (durationSec : ℤ) :
    Moves (WritesOnly MeshWritten) (beginGen1Flow R durationSec) := by
  refine Moves.bind (writes_modDev _) fun _ => Moves.bind ?_ fun _ =>
    .ite (writes_modDev _) (writes_modDev _)
  exact (Moves.bind moves_getDev fun d => writes_flowSubscribe true d).tryCatch fun _ =>
    .ite (.pure _) (.throw _)

theorem writes_startMeshWatering (station durationSec : ℤ) :
    Moves (WritesOnly MeshWritten) (startMeshWatering R station durationSec) := by
  refine Moves.bind moves_getDev fun _ => .ite (Moves.tryFinally ?_
    (Moves.bind moves_getDev fun _ => .onlyIf writes_meshDisconnect)) (.pure _)
  refine Moves.bind (writes_modDev _) fun _ => Moves.bind moves_getDev fun d =>
    Moves.bind_raising fun pt hpt => ?_
  refine Moves.bind (writes_sendCommand ?_) fun _ =>
    Moves.bind (writes_stampMeshCommand _ _) fun _ => Moves.bind writes_markReached fun _ =>
      Moves.bind moves_getDev fun _ => Moves.bind (.onlyIf (writes_beginGen1Flow _)) fun _ =>
        Moves.bind moves_getDev fun _ => .pure _
  exact meshWritten_of_buildStart hpt

theorem writes_stopMeshWatering : Moves (WritesOnly MeshWritten) (stopMeshWatering R) := by
  refine Moves.bind moves_getDev fun _ => .ite (Moves.tryFinally ?_ writes_meshDisconnect) (.pure _)
  refine Moves.bind moves_getDev fun d => Moves.bind_raising fun pt hpt =>
    Moves.bind (writes_sendCommand (meshWritten_of_build (by decide) hpt)) fun _ =>
      Moves.bind (writes_stampMeshCommand _ _) fun _ => Moves.bind writes_markReached fun _ => ?_
  exact Moves.bind (writes_modDev _) fun _ => Moves.bind (writes_modDev _) fun _ =>
    Moves.bind moves_getDev fun _ => .pure _

theorem writes_markUnreachable : Moves (WritesOnly MeshWritten) markUnreachable :=
  writes_modDev fun d => { d with state := unreachableState d.state }

theorem writes_connectRefresh : Moves (WritesOnly MeshWritten) (connectRefresh R) := by
  have hreconnect : Moves (WritesOnly MeshWritten) (reconnect R) :=
    (Moves.bind writes_meshDisconnect fun _ =>
      Moves.bind (operates_writesOnly R MeshWritten).ensureConnected fun _ => .pure _).tryCatch
      fun _ => .ite (Moves.bind writes_markUnreachable fun _ => .pure _) (.throw _)
  exact Moves.bind moves_getDev fun _ => .onlyIf (Moves.tryFinally
    (Moves.bind hreconnect fun _ => .onlyIf writes_markReached) writes_meshDisconnect)

theorem writes_meshCall (R : Radio Ht25Device) (op : MeshOp) :
    Moves (WritesOnly MeshWritten) (op.call R) := by
  cases op with
  | refreshState =>
    exact Moves.bind moves_getDev fun _ => Moves.bind moves_getClock fun _ =>
      .onlyIf writes_connectRefresh
  | asyncManualSync => exact writes_connectRefresh
  | startWatering station durationSec =>
    exact Moves.bind (writes_startMeshWatering _ _) fun _ => .pure _
  | stopWatering => exact Moves.bind writes_stopMeshWatering fun _ => .pure _
  | onWateringFinished => exact writes_modDev _
  | renewal =>
    exact Moves.bind moves_getDev fun d => .onlyIf ((writes_flowSubscribe () d).tryCatch fun _ =>
      .ite (.pure _) (.throw _))

theorem writes_meshRun (R : Radio Ht25Device) (ops : List MeshOp) :
    Moves (WritesOnly MeshWritten) (MeshOp.run R ops) := by
  induction ops with
  | nil => exact .pure _
  | cons op ops ih => exact Moves.bind (writes_meshCall R op).swallow fun _ => ih

end Moves

/-- Whatever either family has written over a run of its methods, with any replies, and
whatever the init of a mesh session writes: handed back as a notification, at any later time
and to a device in any state, it changes nothing. -/
theorem echoes_silent :
    (∀ (R : Radio ProtobufDevice) ops w pt,
      .wrote pt ∈ (after (ProtobufOp.run R ops) w).log.drop w.log.length →
        ∀ now d, observe now pt d = d) ∧
      (∀ (R : Radio Ht25Device) ops w pt,
        .wrote pt ∈ (after (MeshOp.run R ops) w).log.drop w.log.length →
          ∀ now d, meshObserve now pt d = d) ∧
      ∀ (d : Ht25Device) ids sid frames, d.postHandshake ids sid = .ok frames →
        ∀ pt ∈ frames, ∀ now d', meshObserve now pt d' = d' := by
  refine ⟨fun R ops w pt hpt now d => ?_, fun R ops w pt hpt now d => ?_,
    fun d ids sid frames h pt hpt now d' => ?_⟩
  · exact observe_written (fun pb ⟨op, _, hpb⟩ => op.extractStatus_of_commands hpb)
      ((writes_run R ops w).wrote pt hpt) now d
  · exact meshObserve_written ((writes_meshRun R ops w).wrote pt hpt) now d
  · exact meshObserve_written (meshWritten_of_postHandshake h pt hpt) now d'

/-- A flash, a START and the frames of an init. -/
theorem echoes_silent_written :
    (∃ pt, .wrote pt ∈ (after (ProtobufOp.run (protobufRadio (fun _ => { clock := .epoch }) .utc)
        [.identify 6]) { dev := {}, clock := .epoch }).log ∧ ∀ now d, observe now pt d = d) ∧
      (∃ pt, .wrote pt ∈ (after (MeshOp.run (meshRadio fun _ => { clock := .epoch })
          [.startWatering 1 600])
          { dev := { freshHt25 with meshDeviceId := some 0x47D7 }, clock := .epoch }).log ∧
        ∀ now d, meshObserve now pt d = d) ∧
      ∃ pt frames, Ht25Device.postHandshake { freshHt25 with meshDeviceId := some 0x47D7 }
          ⟨none, some 0xEB42, 2⟩ #v[0x34, 0x12] = .ok (pt :: frames) ∧
        ∀ now d, meshObserve now pt d = d := by
  obtain ⟨hprotobuf, hmesh, hinit⟩ := echoes_silent
  refine ⟨?_, ?_, ?_⟩
  · obtain ⟨pt, hpt⟩ : ∃ pt, nextWrite (after (ProtobufOp.run
        (protobufRadio (fun _ => { clock := .epoch }) .utc) [.identify 6])
        { dev := {}, clock := .epoch }).log = some pt := ⟨_, rfl⟩
    have hwrote := nextWrite_eq_some hpt
    exact ⟨pt, hwrote, hprotobuf (protobufRadio (fun _ => { clock := .epoch }) .utc) [.identify 6]
      { dev := {}, clock := .epoch } pt hwrote⟩
  · obtain ⟨pt, hpt⟩ : ∃ pt, nextWrite (after (MeshOp.run (meshRadio fun _ => { clock := .epoch })
        [.startWatering 1 600])
        { dev := { freshHt25 with meshDeviceId := some 0x47D7 }, clock := .epoch }).log =
          some pt := ⟨_, rfl⟩
    have hwrote := nextWrite_eq_some hpt
    exact ⟨pt, hwrote, hmesh (meshRadio fun _ => { clock := .epoch }) [.startWatering 1 600]
      { dev := { freshHt25 with meshDeviceId := some 0x47D7 }, clock := .epoch } pt hwrote⟩
  · obtain ⟨pt, frames, hframes⟩ : ∃ pt frames,
        Ht25Device.postHandshake { freshHt25 with meshDeviceId := some 0x47D7 }
          ⟨none, some 0xEB42, 2⟩ #v[0x34, 0x12] = .ok (pt :: frames) := ⟨_, _, rfl⟩
    exact ⟨pt, frames, hframes, hinit _ _ _ _ hframes pt List.mem_cons_self⟩

end OrbitBhyve.Devices
