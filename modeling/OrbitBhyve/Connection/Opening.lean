import OrbitBhyve.Connection.Tasks

/-!
# What `ensure_connected` leaves behind

A call of `ensure_connected` which returns should leave an initialised session,
and one which raises should leave none. Two of the exceptions it lets escape
leave the client connected: `struct.error` on a reply which is too short, and
whatever a write of the post-handshake hook raises. The next call then finds
the session of the second kind open, and returns. A link which drops leaves
`_handshaken` set, which a call that finds the device out of range does not
clear, and a hook whose writes time out completes on a link which is down.
-/

namespace OrbitBhyve.Connection

open Foundation Python Wire

/-! ## The handshake -/

theorem exists_unpackU32 {b : Bytes} (h : b.length = 4) : ∃ v, unpackU32 b = some v := by
  match b, h with
  | [b₀, b₁, b₂, b₃], _ => exact ⟨_, rfl⟩

theorem unpackU32_of_length_ne {b : Bytes} (h : b.length ≠ 4) : unpackU32 b = none := by
  unfold unpackU32
  split
  · exact absurd rfl h
  · rfl

theorem length_handshakeBuf (initTx : Vector UInt8 20) (rx : Bytes) :
    (handshakeBuf initTx rx).length = min 4 rx.length + 16 := by
  simp [handshakeBuf]

theorem exists_unpackU32_tx (initTx : Vector UInt8 20) (rx : Bytes) :
    ∃ v, unpackU32 (((handshakeBuf initTx rx).drop 12).take 4) = some v :=
  exists_unpackU32 (by rw [List.length_take, List.length_drop, length_handshakeBuf]; omega)

namespace BleConnection

variable {initTx : Vector UInt8 20} {rx : Bytes} {c : BleConnection}

theorem acceptReply_rejects (h : rejectsReply rx = true) :
    c.acceptReply initTx rx = (.error .bleHandshakeError, c) := by
  rw [acceptReply, if_pos h]

theorem acceptReply_ok (c : BleConnection) (initTx : Vector UInt8 20)
    (h : rejectsReply rx = false) (hlen : 4 ≤ rx.length) :
    ∃ c', c.acceptReply initTx rx = (.ok (), c') ∧ c'.handshaken = true ∧ c'.iv.isSome := by
  obtain ⟨tx, htx⟩ := exists_unpackU32_tx initTx rx
  obtain ⟨ctr, hctr⟩ : ∃ v, unpackU32 (((handshakeBuf initTx rx).drop 16).take 4) = some v :=
    exists_unpackU32 (by rw [List.length_take, List.length_drop, length_handshakeBuf]; omega)
  refine ⟨{ c with
    iv := some (ivOf ((handshakeBuf initTx rx).take 12))
    txCtr := tx
    rxCtr := ctr
    handshaken := true }, ?_, rfl, rfl⟩
  rw [acceptReply, if_neg (by simp [h])]
  simp only [htx, hctr]

/-- A short reply is not rejected, and raises in the last `unpack`. -/
theorem acceptReply_short (c : BleConnection) (initTx : Vector UInt8 20) (hlen : rx.length < 4) :
    ∃ c', c.acceptReply initTx rx = (.error .other, c') ∧ c'.handshaken = c.handshaken := by
  obtain ⟨tx, htx⟩ := exists_unpackU32_tx initTx rx
  have hctr : unpackU32 (((handshakeBuf initTx rx).drop 16).take 4) = none :=
    unpackU32_of_length_ne (by
      rw [List.length_take, List.length_drop, length_handshakeBuf]
      omega)
  have hnot : rejectsReply rx = false := by
    have htake : rx.take 4 ≠ [0, 0, 0, 0] := by
      intro heq
      have := congrArg List.length heq
      simp only [List.length_take, List.length_cons, List.length_nil] at this
      omega
    have hdrop : rx.drop 4 = [] := List.drop_eq_nil_of_le hlen.le
    simp [rejectsReply, htake, hdrop]
  refine ⟨{ c with
    iv := some (ivOf ((handshakeBuf initTx rx).take 12))
    txCtr := tx }, ?_, rfl⟩
  rw [acceptReply, if_neg (by simp [hnot])]
  simp only [htx, hctr]

end BleConnection

namespace Link

/-- What happens in a sequence of calls of `ensure_connected` one after another. -/
inductive EnsureEvent where
  | call
  | resume (o : Outcome)
  | linkLost (client : ℕ)
  | inRange (b : Bool)

def EnsureEvent.toEvent : EnsureEvent → Event
  | call => .call .ensureConnected
  | resume o => .resume o
  | linkLost c => .linkLost c
  | inRange b => .inRange b

def settle (s : Link) : Link := { s with ended := none }

/-- `ended` is cleared first, so that it is set just after an event which ends a call. -/
def ensureStep (S : Setting) (s : Link) (e : EnsureEvent) : Link := s.settle.step S e.toEvent

/-- The session which is connected is one on which the hook has run to completion. -/
def Initialised (s : Link) : Prop := s.isConnected = true ∧ s.initialised = s.client

/-- No client is connected, within reach or not, and `_handshaken` is `False`. -/
def Shut (s : Link) : Prop := s.live = [] ∧ s.conn.handshaken = false

def Contract (s : Link) : Prop :=
  match s.ended with
  | none => True
  | some (.ok _) => s.Initialised
  | some (.error _) => s.Shut

def hookSteps (S : Setting) (s : Link) : List Piece :=
  match S.hook with
  | none => []
  | some hook => hook s.hookRuns

/-- What is asked of an attempt at each stage and of how its awaited call ends. -/
def stageCompletes (S : Setting) (s : Link) (attempt : ℕ) : Stage → Outcome → Prop
  | .readingKey _, .done rx =>
    if rx.length < 4 then s.Shut
    else rejectsReply rx = false → s.hookSteps S = [] → s.isConnected = true
  -- without a client there is nothing to disconnect
  | .connecting, .raised _ => s.client = none → OPEN_MAX_ATTEMPTS ≤ attempt → s.live = []
  | .disconnecting (.closing c), o => OPEN_MAX_ATTEMPTS ≤ attempt → (s.closed c o).live = []
  | _, _ => True

/-- A call which finds the device out of range, a reply of fewer than four bytes and the last
failed attempt find nothing left to tear down, no write of the hook raises but for a timeout,
and the link is up when the call is through. -/
def completes (S : Setting) (s : Link) : EnsureEvent → Prop
  | .call =>
    s.holder = none → (s.isConnected && s.conn.handshaken) = false → s.inRange = false → s.Shut
  | .resume o =>
    match s.holder with
    | some (.opening _ attempt stage) => s.stageCompletes S attempt stage o
    | some (.hooking _ steps) => written o = none ∧ (steps = [] → s.isConnected = true)
    | _ => True
  | .linkLost _ | .inRange _ => True

/-! ## The states of a call -/

/-- The session which the hook is run on, whether its link is still up or not. -/
structure Handshaken (s : Link) : Prop where
  client : s.client.isSome
  handshaken : s.conn.handshaken = true
  iv : s.conn.iv.isSome

def StageInv (s : Link) : Stage → Prop
  | .connecting | .pausing => True
  | .settling | .subscribing | .writingKey _ | .readingKey _ | .disconnecting _ =>
    s.client.isSome

/-- A call is under way, at a stage it belongs to, or none is: one which has just ended has
kept its contract, and a session which is taken for open has had its hook. -/
def Orderly (s : Link) : Prop :=
  match s.holder with
  | none => s.Contract ∧ (s.conn.handshaken = true → s.initialised = s.client)
  | some (.opening .ensureConnected _ stage) => s.ended = none ∧ s.StageInv stage
  | some (.hooking .ensureConnected _) => s.ended = none ∧ s.Handshaken
  | some _ => False

theorem isConnected_of_client {s : Link} (h : s.client = none) : s.isConnected = false := by
  rw [isConnected, h]

theorem isNone_eq_false {s : Link} (h : s.client.isSome) : s.client.isNone = false := by
  obtain ⟨c, hc⟩ := Option.isSome_iff_exists.mp h
  rw [hc]
  rfl

section States

variable {S : Setting} {s : Link} {attempt : ℕ}

theorem orderly_finish_ok (h : s.Initialised) : (s.finish (.ok ())).Orderly :=
  ⟨h, fun _ => h.2⟩

theorem orderly_finish_error (h : s.Shut) (e : PyErr) : (s.finish (.error e)).Orderly :=
  ⟨h, fun hhs => absurd (hhs.symm.trans h.2) (by decide)⟩

theorem orderly_atStage {stage : Stage} (hended : s.ended = none) (hstage : s.StageInv stage) :
    (s.atStage .ensureConnected attempt stage).Orderly := by
  refine ⟨hended, ?_⟩
  cases stage <;> exact hstage

theorem orderly_tornDown (hended : s.ended = none) (hhs : s.conn.handshaken = false)
    (hlast : OPEN_MAX_ATTEMPTS ≤ attempt → s.live = []) :
    (s.tornDown .ensureConnected attempt).Orderly := by
  unfold tornDown
  split_ifs with hmore
  · exact orderly_atStage hended trivial
  · exact orderly_finish_error ⟨hlast (Nat.le_of_not_lt hmore), hhs⟩ _

theorem orderly_attemptFailed (hended : s.ended = none)
    (hlast : s.client = none → OPEN_MAX_ATTEMPTS ≤ attempt → s.live = []) :
    (s.attemptFailed .ensureConnected attempt).Orderly := by
  unfold attemptFailed beginDisconnect
  cases hclient : s.client with
  | none =>
    exact orderly_tornDown (s := s.dropHold.clearSession) hended rfl (hlast hclient)
  | some c =>
    refine orderly_atStage (s := s.dropHold) hended ?_
    change s.client.isSome = true
    rw [hclient]
    rfl

theorem orderly_attemptFailed_of_client (hended : s.ended = none) (hclient : s.client.isSome) :
    (s.attemptFailed .ensureConnected attempt).Orderly := by
  refine orderly_attemptFailed hended fun hnone => ?_
  rw [hnone] at hclient
  cases hclient

theorem orderly_beginHandshake (hended : s.ended = none) (hclient : s.client.isSome) :
    (s.beginHandshake .ensureConnected attempt).Orderly := by
  unfold beginHandshake
  dsimp only
  rw [isNone_eq_false hclient, if_neg (by decide)]
  exact orderly_atStage hended hclient

theorem orderly_connected (hended : s.ended = none) :
    (s.connected S .ensureConnected attempt).Orderly := by
  unfold connected
  dsimp only
  split_ifs
  · exact orderly_atStage (s := s.storeClient) hended rfl
  · exact orderly_beginHandshake (s := s.storeClient) hended rfl

theorem orderly_writeThen (hended : s.ended = none) (h : s.Handshaken) (step : Piece)
    (steps : List Piece) : (s.writeThen S step.pt (.hooking .ensureConnected steps)).Orderly := by
  obtain ⟨iv, hiv⟩ := Option.isSome_iff_exists.mp h.iv
  have hframe := @BleConnection.encrypt_eq_sealFrame S.aes iv s.conn hiv step.pt step.fits
  have hwrite : s.beginWrite S step.pt = (.ok (), { s with
      conn := { s.conn with txCtr := s.conn.txCtr + frameBlocks step.pt } }) := by
    simp [beginWrite, hframe, isNone_eq_false h.client]
  rw [writeThen, hwrite]
  exact ⟨hended, h.client, h.handshaken, h.iv⟩

theorem orderly_hookNext (hended : s.ended = none) (h : s.Handshaken) {steps : List Piece}
    (hup : steps = [] → s.isConnected = true) :
    (s.hookNext S .ensureConnected steps).Orderly := by
  cases steps with
  | nil => exact orderly_finish_ok (s := { s with initialised := s.client }) ⟨hup rfl, rfl⟩
  | cons step steps => exact orderly_writeThen hended h step steps

theorem hookNext_of_handshook :
    ∃ s' : Link, s.handshook S .ensureConnected = s'.hookNext S .ensureConnected (s.hookSteps S) ∧
      s'.ended = s.ended ∧ s'.client = s.client ∧ s'.live = s.live ∧ s'.conn = s.conn := by
  unfold handshook hookSteps
  cases S.hook with
  | none => exact ⟨s, rfl, rfl, rfl, rfl, rfl⟩
  | some hook => exact ⟨s.countHook, rfl, rfl, rfl, rfl, rfl⟩

theorem isConnected_congr {s' : Link} (hclient : s'.client = s.client) (hlive : s'.live = s.live) :
    s'.isConnected = s.isConnected := by
  rw [isConnected, isConnected, hclient, hlive]

theorem orderly_handshook (hended : s.ended = none) (h : s.Handshaken)
    (hup : s.hookSteps S = [] → s.isConnected = true) :
    (s.handshook S .ensureConnected).Orderly := by
  obtain ⟨s', heq, hended', hclient, hlive, hconn⟩ := hookNext_of_handshook (S := S) (s := s)
  rw [heq]
  refine orderly_hookNext (hended'.trans hended) ⟨?_, ?_, ?_⟩ fun hnil =>
    (isConnected_congr hclient hlive).trans (hup hnil)
  · rw [hclient]
    exact h.client
  · rw [hconn]
    exact h.handshaken
  · rw [hconn]
    exact h.iv

theorem orderly_keyRead (hended : s.ended = none) (hclient : s.client.isSome)
    (initTx : Vector UInt8 20) {rx : Bytes}
    (h : s.stageCompletes S attempt (.readingKey initTx) (.done rx)) :
    (s.keyRead S .ensureConnected attempt initTx rx).Orderly := by
  simp only [stageCompletes] at h
  unfold keyRead
  split_ifs at h with hlen
  · obtain ⟨c', herr, hhs⟩ := BleConnection.acceptReply_short s.conn initTx hlen
    rw [herr]
    exact orderly_finish_error (s := { s with conn := c' }) ⟨h.1, hhs.trans h.2⟩ _
  · cases hrej : rejectsReply rx with
    | true =>
      rw [BleConnection.acceptReply_rejects hrej]
      exact orderly_attemptFailed_of_client hended hclient
    | false =>
      obtain ⟨c', hok, hhs, hiv⟩ :=
        BleConnection.acceptReply_ok s.conn initTx hrej (Nat.le_of_not_lt hlen)
      rw [hok]
      exact orderly_handshook (s := { s with conn := c' }) hended ⟨hclient, hhs, hiv⟩ (h hrej)

theorem Orderly.cases (h : s.Orderly) :
    (s.holder = none ∧ s.Contract ∧ (s.conn.handshaken = true → s.initialised = s.client)) ∨
    (∃ attempt stage, s.holder = some (.opening .ensureConnected attempt stage) ∧
      s.ended = none ∧ s.StageInv stage) ∨
    ∃ steps, s.holder = some (.hooking .ensureConnected steps) ∧ s.ended = none ∧
      s.Handshaken := by
  unfold Orderly at h
  cases hholder : s.holder with
  | none =>
    rw [hholder] at h
    exact .inl ⟨rfl, h⟩
  | some holder =>
    rw [hholder] at h
    cases holder with
    | opening job attempt stage =>
      cases job with
      | ensureConnected => exact .inr (.inl ⟨attempt, stage, rfl, h⟩)
      | send plaintext => exact h.elim
      | sendActuation plaintext => exact h.elim
    | hooking job steps =>
      cases job with
      | ensureConnected => exact .inr (.inr ⟨steps, rfl, h⟩)
      | send plaintext => exact h.elim
      | sendActuation plaintext => exact h.elim
    | refreshing plaintext steps => exact h.elim
    | reopening plaintext t => exact h.elim
    | commanding => exact h.elim
    | idleClosing t => exact h.elim

theorem Orderly.of_outside {s' : Link} (h : s.Orderly) (hended : s'.ended = none)
    (hholder : s'.holder = s.holder) (hclient : s'.client = s.client) (hconn : s'.conn = s.conn)
    (hinit : s'.initialised = s.initialised) : s'.Orderly := by
  unfold Orderly
  rw [hholder]
  obtain ⟨hfree, -, hhook⟩ | ⟨attempt, stage, hopening, -, hstage⟩ | ⟨steps, hhooking, -, hhand⟩ :=
    h.cases
  · rw [hfree, hclient, hconn, hinit]
    refine ⟨?_, hhook⟩
    rw [Contract, hended]
    trivial
  · rw [hopening]
    refine ⟨hended, ?_⟩
    unfold StageInv at hstage ⊢
    rw [hclient]
    exact hstage
  · rw [hhooking]
    exact ⟨hended, hclient ▸ hhand.client, hconn ▸ hhand.handshaken, hconn ▸ hhand.iv⟩

theorem Orderly.settle (h : s.Orderly) : s.settle.Orderly := h.of_outside rfl rfl rfl rfl rfl

theorem stageCompletes_settle {stage : Stage} {o : Outcome} :
    s.settle.stageCompletes S attempt stage o ↔ s.stageCompletes S attempt stage o := by
  cases stage with
  | disconnecting t =>
    cases t with
    | stopping => exact Iff.rfl
    | closing c => cases o <;> exact Iff.rfl
  | _ => cases o <;> exact Iff.rfl

theorem Orderly.call (h : s.Orderly) (hfree : s.holder = none) (hok : s.completes S .call) :
    (s.call S .ensureConnected).Orderly := by
  unfold Orderly at h
  rw [hfree] at h
  change (s.settle.ensureConnected S .ensureConnected).Orderly
  unfold ensureConnected
  cases hopen : s.settle.isConnected && s.settle.conn.handshaken with
  | true =>
    simp only [Bool.and_eq_true] at hopen
    exact orderly_finish_ok (s := s.settle) ⟨hopen.1, h.2 hopen.2⟩
  | false =>
    cases hrange : s.settle.inRange with
    | true => exact orderly_atStage (s := s.settle) rfl trivial
    | false => exact orderly_finish_error (s := s.settle) (hok hfree hopen hrange) _

theorem orderly_resumeOpening (hended : s.ended = none) {stage : Stage}
    (hstage : s.StageInv stage) {o : Outcome} (hok : s.stageCompletes S attempt stage o) :
    (s.resumeOpening S .ensureConnected attempt stage o).Orderly := by
  cases stage with
  | settling => exact orderly_beginHandshake hended hstage
  | pausing => exact orderly_atStage hended trivial
  | disconnecting t =>
    unfold resumeOpening
    cases t with
    | closing c =>
      cases o with
      | done rx => exact orderly_tornDown (s := (s.lose c).clearSession) hended rfl hok
      | raised e => exact orderly_tornDown (s := s.clearSession) hended rfl hok
    | stopping =>
      obtain ⟨c, hclient⟩ := Option.isSome_iff_exists.mp hstage
      dsimp only [resumeDisconnect]
      rw [hclient]
      exact orderly_atStage hended hstage
  | connecting =>
    cases o with
    | done rx => exact orderly_connected hended
    | raised e => exact orderly_attemptFailed hended hok
  | subscribing =>
    cases o with
    | done rx =>
      unfold resumeOpening
      dsimp only
      rw [isNone_eq_false hstage, if_neg (by decide)]
      exact orderly_atStage hended hstage
    | raised e => exact orderly_attemptFailed_of_client hended hstage
  | writingKey initTx =>
    cases o with
    | done rx =>
      unfold resumeOpening
      dsimp only
      rw [isNone_eq_false hstage, if_neg (by decide)]
      exact orderly_atStage hended hstage
    | raised e => exact orderly_attemptFailed_of_client hended hstage
  | readingKey initTx =>
    cases o with
    | done rx => exact orderly_keyRead hended hstage initTx hok
    | raised e => exact orderly_attemptFailed_of_client hended hstage

theorem Orderly.step (h : s.Orderly) {e : EnsureEvent} (hok : s.completes S e) :
    (s.ensureStep S e).Orderly := by
  have hs := h.settle
  cases e with
  | call =>
    change (if s.settle.holder.isNone then s.settle.call S .ensureConnected else s.settle).Orderly
    split_ifs with hfree
    · exact hs.call (Option.isNone_iff_eq_none.mp hfree) hok
    · exact hs
  | inRange b => exact hs.of_outside rfl rfl rfl rfl rfl
  | linkLost c => exact hs.of_outside rfl rfl rfl rfl rfl
  | resume o =>
    change (s.settle.resume S o).Orderly
    unfold completes at hok
    unfold resume
    obtain ⟨hfree, -⟩ | ⟨attempt, stage, hopening, -, hstage⟩ | ⟨steps, hhooking, -, hhand⟩ :=
      hs.cases
    · rw [hfree]
      exact hs
    · rw [hopening]
      rw [show s.holder = _ from hopening] at hok
      exact orderly_resumeOpening (s := s.settle) rfl hstage (stageCompletes_settle.mpr hok)
    · rw [hhooking]
      rw [show s.holder = _ from hhooking] at hok
      dsimp only
      rw [hok.1]
      exact orderly_hookNext (s := s.settle) rfl hhand hok.2

end States

/-- The link of an open session drops, and the device goes out of range. -/
def outOfRange : List EnsureEvent := [.linkLost 0, .inRange false]

end Link
end OrbitBhyve.Connection
