import OrbitBhyve.Devices.Ht25
import OrbitBhyve.Devices.LinkFailure
import OrbitBhyve.Devices.MeshWrites

/-!
# Link failures of the mesh device

`_connect_refresh` and `_begin_gen1_flow` handle `BleakError`, a timeout and
`OSError`. `ensure_connected` raises the exceptions of the integration, which go
past both handlers: the device is not marked, and a measured run keeps the hold
which it has just taken.
-/

namespace OrbitBhyve.Devices

open Foundation Python Wire

/-! ## What the observer leaves alone -/

/-- The marks of a poll are as they were, the connection is there, and a hold is an old one. -/
structure MarksKept (d d' : Ht25Device) : Prop where
  isConnected : d'.state.isConnected = d.state.isConnected
  timeouts : d'.state.consecutiveTimeouts = d.state.consecutiveTimeouts
  hasConnection : d'.hasConnection = d.hasConnection
  isHeld : d'.isHeld = true → d.isHeld = true

theorem MarksKept.refl (d : Ht25Device) : MarksKept d d := ⟨rfl, rfl, rfl, id⟩

theorem MarksKept.trans {d d' d'' : Ht25Device} (h : MarksKept d d') (h' : MarksKept d' d'') :
    MarksKept d d'' where
  isConnected := h'.isConnected.trans h.isConnected
  timeouts := h'.timeouts.trans h.timeouts
  hasConnection := h'.hasConnection.trans h.hasConnection
  isHeld := h.isHeld ∘ h'.isHeld

instance : IsPreorder Ht25Device MarksKept where
  refl := MarksKept.refl
  trans _ _ _ := MarksKept.trans

theorem runWrites_marksKept : RunWrites MarksKept where
  state := by
    rintro d _ ⟨_, _, _, _, _, _, rfl⟩
    exact ⟨rfl, rfl, rfl, id⟩
  battery _ _ := ⟨rfl, rfl, rfl, id⟩
  notified _ _ := ⟨rfl, rfl, rfl, id⟩

theorem flowWrites_marksKept : FlowWrites MarksKept where
  meter _ _ := ⟨rfl, rfl, rfl, id⟩
  rate _ _ := ⟨rfl, rfl, rfl, id⟩
  volume _ _ := ⟨rfl, rfl, rfl, id⟩
  release _ := ⟨rfl, rfl, rfl, fun h => (Bool.and_eq_true_iff.mp h).1⟩
  notified _ _ := ⟨rfl, rfl, rfl, id⟩

theorem marksKept_meshObserve (now : DateTime) (pt : Bytes) (d : Ht25Device) :
    MarksKept d (meshObserve now pt d) :=
  runWrites_marksKept.moves_meshObserve flowWrites_marksKept now pt d

/-! ## What an operation leaves alone -/

variable {replies : ℕ → Reply}

abbrev DevMarksKept (w w' : World Ht25Device) : Prop := MarksKept w.dev w'.dev

instance : IsPreorder (World Ht25Device) DevMarksKept where
  refl w := MarksKept.refl w.dev
  trans _ _ _ := MarksKept.trans

theorem operates_marksKept : (meshRadio replies).Operates (fun _ => True) DevMarksKept :=
  Radio.Operates.of_steps (fun _ n _ w => marksKept_meshObserve n.clock n.pt w.dev)
    (fun w _ _ _ => MarksKept.refl w.dev) (fun w => MarksKept.refl w.dev)
    fun w _ _ _ => MarksKept.refl w.dev

theorem holdTraffic_marksKept : HoldTraffic (meshRadio replies) DevMarksKept where
  operates := operates_marksKept
  loses _ _ := ⟨rfl, rfl, rfl, fun h => (Bool.and_eq_true_iff.mp h).1⟩

def unheld (w : World Ht25Device) : World Ht25Device :=
  { w with dev := { w.dev with isHeld := false } }

theorem run_meshDisconnect (replies : ℕ → Reply) (w : World Ht25Device) : ∃ w',
    meshDisconnect (meshRadio replies) w = .ok () w' ∧ DevMarksKept w w' ∧
      w'.dev.isHeld = false := by
  have hrun : meshDisconnect (meshRadio replies) w =
      .ok () ((unheld w).opened (meshRadio replies)) := by
    rw [meshDisconnect, run_bind_ok (run_modDev _ w)]
    exact Radio.run_suspend _
  have hfree : DevMarksKept (unheld w) ((unheld w).opened (meshRadio replies)) :=
    operates_marksKept.suspend.of_ok (Radio.run_suspend (unheld w))
  refine ⟨_, hrun, holdTraffic_marksKept.moves_meshDisconnect.of_ok hrun, ?_⟩
  by_contra hheld
  have hbefore : (unheld w).dev.isHeld = true := hfree.isHeld (by simpa using hheld)
  cases hbefore

/-! ## The refresh of the connection -/

/-- A refresh whose connect fails returns, with the device marked as not reached once. -/
def RefreshContained (replies : ℕ → Reply) (w : World Ht25Device) : Prop :=
  ∃ w', connectRefresh (meshRadio replies) w = .ok () w' ∧ w'.dev.state.isConnected = false ∧
    w'.dev.state.consecutiveTimeouts = w.dev.state.consecutiveTimeouts + 1

variable {w u v : World Ht25Device} {e : PyErr}

theorem run_reconnect_of_error
    (hfails : (meshRadio replies).ensureConnected (after (meshDisconnect (meshRadio replies)) w) =
      .error e u) :
    reconnect (meshRadio replies) w =
      if PyErr.isGattError e then
        .ok false { u with dev := { u.dev with state := unreachableState u.dev.state } }
      else .error e u := by
  obtain ⟨w', hdisconnect, -, -⟩ := run_meshDisconnect replies w
  rw [after_of_ok hdisconnect] at hfails
  rw [reconnect, run_tryCatch, run_bind_ok hdisconnect, run_bind_error hfails]
  dsimp only
  split_ifs
  · rfl
  · rfl

theorem refreshContained_iff (hconn : w.dev.hasConnection = true)
    (hfails : (meshRadio replies).ensureConnected (after (meshDisconnect (meshRadio replies)) w) =
      .error e u) :
    RefreshContained replies w ↔ PyErr.isGattError e = true := by
  have hbefore : DevMarksKept w u :=
    (holdTraffic_marksKept.moves_meshDisconnect w).trans (operates_marksKept.ensureConnected.of_error hfails)
  have hrun : connectRefresh (meshRadio replies) w =
      tryFinally (do
        let reached ← reconnect (meshRadio replies)
        onlyIf reached markReached) (meshDisconnect (meshRadio replies)) w := by
    rw [connectRefresh, run_bind_ok (run_getDev w), hconn, run_onlyIf_true]
  unfold RefreshContained
  constructor
  · rintro ⟨w', hreturns, -⟩
    by_contra hnot
    rw [hrun, run_tryFinally_eq_ok] at hreturns
    obtain ⟨v, hbody, -⟩ := hreturns
    rw [run_bind_error (by rw [run_reconnect_of_error hfails, if_neg hnot])] at hbody
    cases hbody
  · intro hgatt
    obtain ⟨w', hdisconnect, hafter, -⟩ := run_meshDisconnect replies
      { u with dev := { u.dev with state := unreachableState u.dev.state } }
    refine ⟨w', ?_, hafter.isConnected, ?_⟩
    · rw [hrun, run_tryFinally_eq_ok]
      refine ⟨_, ?_, hdisconnect⟩
      rw [run_bind_ok (by rw [run_reconnect_of_error hfails, if_pos hgatt]), run_onlyIf_false]
    · rw [hafter.timeouts, ← hbefore.timeouts]
      rfl

/-! ## The subscription of a run -/

/-- `start_watering` under its `try`, up to the flow: the command, its stamp and the mark. -/
def startMeshCommand (R : Radio Ht25Device) (station durationSec : ℤ) : MeshTask Unit := do
  modDev fun d =>
    { d with pendingStartDuration := some durationSec, pendingStartZone := some station }
  let d ← getDev
  let plaintext ← raising (d.buildStart 0xB6 durationSec)
  let notifs ← sendCommand R plaintext
  stampMeshCommand s!"start s={station} d={durationSec}" notifs
  markReached

/-- The frame and the send under the `try` of `_begin_gen1_flow`. -/
def sendSubscription (R : Radio Ht25Device) : MeshTask Unit := do
  let d ← getDev
  let frame ← raising d.flowSubscribeFrame
  let _ ← meshSend R frame
  pure ()

/-- A measured run before its subscription: a fresh meter and a hold. -/
def heldForRun (w : World Ht25Device) : World Ht25Device :=
  { w with dev := { resetGen1Flow w.dev with isHeld := true } }

/-- A start whose subscription fails in `v` returns the flag it has there, and leaves no hold. -/
def StartContained (replies : ℕ → Reply) (station durationSec : ℤ) (w v : World Ht25Device) :
    Prop :=
  ∃ w', startMeshWatering (meshRadio replies) station durationSec w =
    .ok v.dev.state.isWatering w' ∧ w'.dev.isHeld = false

variable {station durationSec : ℤ}

theorem startMeshBody_eq (R : Radio Ht25Device) (station durationSec : ℤ) :
    startMeshBody R station durationSec = (do
      startMeshCommand R station durationSec
      let d ← getDev
      onlyIf d.flowGen1Enabled (beginGen1Flow R durationSec)
      let d ← getDev
      pure d.state.isWatering) := by
  simp only [startMeshBody, startMeshCommand, bind_assoc]

theorem subscribeGen1Flow_eq (R : Radio Ht25Device) :
    subscribeGen1Flow R = tryCatch (do
      sendSubscription R
      pure true) fun e => if PyErr.isGattError e then pure false else throw e := by
  simp only [subscribeGen1Flow, sendSubscription, bind_assoc, pure_bind]

theorem keeps_hasConnection_startMeshCommand :
    Keeps (fun w : World Ht25Device => w.dev.hasConnection)
      (startMeshCommand (meshRadio replies) station durationSec) := by
  have hsend : ∀ pt, Keeps (fun w : World Ht25Device => w.dev.hasConnection)
      (sendCommand (meshRadio replies) pt) := by
    intro pt
    apply Moves.tryCatch
    · exact (holdTraffic_marksKept.moves_meshSend pt).mono fun _ _ h => h.hasConnection
    · intro e
      exact Moves.ite (Moves.pure 0) (Moves.throw e)
  refine Moves.bind (Moves.modify fun _ => rfl) fun _ => ?_
  refine Moves.bind (fun _ => rfl) fun d => ?_
  refine Moves.bind (Moves.raising _) fun plaintext => ?_
  refine Moves.bind (hsend plaintext) fun notifs => ?_
  refine Moves.bind (fun _ => rfl) fun _ => ?_
  exact fun _ => rfl

theorem marksKept_sendSubscription :
    Moves DevMarksKept (sendSubscription (meshRadio replies)) := by
  refine Moves.bind (fun w => MarksKept.refl w.dev) fun d => ?_
  refine Moves.bind (Moves.raising _) fun frame => ?_
  exact Moves.bind (holdTraffic_marksKept.moves_meshSend frame) fun _ => Moves.pure ()

theorem run_beginGen1Flow_of_error
    (hfails : sendSubscription (meshRadio replies) (heldForRun u) = .error e v) :
    beginGen1Flow (meshRadio replies) durationSec u =
      if PyErr.isGattError e then .ok () { v with dev := after endGen1Flow v.dev }
      else .error e v := by
  have hhold : beginGen1Flow (meshRadio replies) durationSec u =
      (do
        let subscribed ← subscribeGen1Flow (meshRadio replies)
        if subscribed then modDev fun d => { d with flowSubTask := some durationSec }
        else onDevice endGen1Flow : MeshTask Unit) (heldForRun u) :=
    run_bind_ok (run_modDev _ u)
  rw [hhold, subscribeGen1Flow_eq, run_bind, run_tryCatch, run_bind_error hfails]
  dsimp only
  split_ifs
  · rfl
  · rfl

theorem startContained_iff (hconn : w.dev.hasConnection = true)
    (hstart : startMeshCommand (meshRadio replies) station durationSec w = .ok () u)
    (hflow : u.dev.flowGen1Enabled = true)
    (hfails : sendSubscription (meshRadio replies) (heldForRun u) = .error e v) :
    StartContained replies station durationSec w v ↔ PyErr.isGattError e = true := by
  have hbody : startMeshBody (meshRadio replies) station durationSec w =
      (do
        beginGen1Flow (meshRadio replies) durationSec
        let d ← getDev
        pure d.state.isWatering : MeshTask Bool) u := by
    rw [startMeshBody_eq, run_bind_ok hstart, run_bind_ok (run_getDev u), hflow]
    rfl
  have hrun : startMeshWatering (meshRadio replies) station durationSec w =
      tryFinally (startMeshBody (meshRadio replies) station durationSec)
        (disconnectUnlessHeld (meshRadio replies)) w := by
    rw [startMeshWatering, run_bind_ok (run_getDev w), if_pos hconn]
  unfold StartContained
  constructor
  · rintro ⟨w', hreturns, -⟩
    by_contra hnot
    rw [hrun, run_tryFinally_eq_ok, hbody] at hreturns
    obtain ⟨v', hflowed, -⟩ := hreturns
    rw [run_bind_error (by rw [run_beginGen1Flow_of_error hfails, if_neg hnot])] at hflowed
    cases hflowed
  · intro hgatt
    have hthere : v.dev.hasConnection = true := by
      have hsent : DevMarksKept (heldForRun u) v := marksKept_sendSubscription.of_error hfails
      have hcommanded := keeps_hasConnection_startMeshCommand.of_ok hstart
      exact hsent.hasConnection.trans (hcommanded.trans hconn)
    have hended : (after endGen1Flow v.dev).isHeld = false := by
      change (v.dev.isHeld && !v.dev.hasConnection) = false
      rw [hthere, Bool.not_true, Bool.and_false]
    obtain ⟨w', hdisconnect, -, hfree⟩ :=
      run_meshDisconnect replies { v with dev := after endGen1Flow v.dev }
    refine ⟨w', ?_, hfree⟩
    rw [hrun, run_tryFinally_eq_ok, hbody]
    refine ⟨{ v with dev := after endGen1Flow v.dev }, ?_, ?_⟩
    · rw [run_bind_ok (by rw [run_beginGen1Flow_of_error hfails, if_pos hgatt])]
      rfl
    · rw [disconnectUnlessHeld, run_bind_ok (run_getDev _), hended]
      exact hdisconnect

/-- A failed connect of a refresh, and a failed subscription of a start, are contained exactly
when the exception is one of the transport's own. -/
theorem meshFailure_contained_iff (hconn : w.dev.hasConnection = true) :
    (∀ e u, (meshRadio replies).ensureConnected (after (meshDisconnect (meshRadio replies)) w) =
        .error e u →
      (RefreshContained replies w ↔ PyErr.isGattError e = true)) ∧
    ∀ station durationSec e u v,
      startMeshCommand (meshRadio replies) station durationSec w = .ok () u →
      u.dev.flowGen1Enabled = true →
      sendSubscription (meshRadio replies) (heldForRun u) = .error e v →
      (StartContained replies station durationSec w v ↔ PyErr.isGattError e = true) :=
  ⟨fun _ _ hfails => refreshContained_iff hconn hfails,
    fun _ _ _ _ _ hstart hflow hfails => startContained_iff hconn hstart hflow hfails⟩

/-! ### A second operation which fails -/

def meteredWorld : World Ht25Device :=
  { dev := { freshHt25 with meshDeviceId := some 0x1234, flowGen1Enabled := true }
    clock := .epoch }

def commanded (replies : ℕ → Reply) : World Ht25Device :=
  after (startMeshCommand (meshRadio replies) 1 600) meteredWorld

def subscribed (replies : ℕ → Reply) : World Ht25Device :=
  after (sendSubscription (meshRadio replies)) (heldForRun (commanded replies))

theorem meshFailure_contained_iff_bleakError :
    (RefreshContained (failingAt 1 .bleakError) meteredWorld ↔
        PyErr.isGattError .bleakError = true) ∧
      (StartContained (failingAt 1 .bleakError) 1 600 meteredWorld
          (subscribed (failingAt 1 .bleakError)) ↔
        PyErr.isGattError .bleakError = true) := by
  have hcontained := @meshFailure_contained_iff (failingAt 1 .bleakError) meteredWorld rfl
  exact ⟨hcontained.1 .bleakError _ rfl,
    hcontained.2 1 600 .bleakError (commanded (failingAt 1 .bleakError)) _ rfl rfl rfl⟩

/-- A handshake which fails leaves the refresh raising, and a device which has gone out of range
between the start and its subscription leaves the start raising with the hold in place. -/
theorem meshFailure_escapes :
    PyErr.bleHandshakeError ∈ connectionErrors ∧ PyErr.bleNotConnectable ∈ connectionErrors ∧
      ¬ RefreshContained (failingAt 1 .bleHandshakeError) meteredWorld ∧
      ¬ StartContained (failingAt 1 .bleNotConnectable) 1 600 meteredWorld
          (subscribed (failingAt 1 .bleNotConnectable)) ∧
      (after (startMeshWatering (meshRadio (failingAt 1 .bleNotConnectable)) 1 600)
        meteredWorld).dev.isHeld = true := by
  refine ⟨by decide, by decide, ?_, ?_, rfl⟩
  · rw [refreshContained_iff (e := .bleHandshakeError) rfl rfl]
    decide
  · rw [startContained_iff (e := .bleNotConnectable)
      (u := commanded (failingAt 1 .bleNotConnectable)) rfl rfl rfl rfl]
    decide

end OrbitBhyve.Devices
