import OrbitBhyve.Connection.Reassembly
import OrbitBhyve.Foundation.Runs

/-!
# The tasks of one connection

A `BHyveBleConnection` is shared by the task which holds its lock (an operation
which opens the session and writes, or an `_idle_close`), by any number of
`disconnect` calls outside the lock, and by the callers of `hold_open` and
`release`. One event runs one of them from one `await` to the next; the events
of a run come in any order. Client objects are numbered as they are made, and
which of them have a link is the environment's part of the state. A waiting
`_idle_close` may be overtaken here by an operation which comes later, which
`asyncio.Lock` does not let happen; a run of the code is a run of these events.
-/

namespace OrbitBhyve.Connection

open Foundation Python Wire

def OPEN_MAX_ATTEMPTS : ℕ := 3

/-- What an awaited GATT call raises. -/
inductive GattErr where
  | bleakError
  | timeoutError
  | osError
  | bleHandshakeError
  deriving DecidableEq

def GattErr.toPyErr : GattErr → PyErr
  | bleakError => .bleakError
  | timeoutError => .timeoutError
  | osError => .osError
  | bleHandshakeError => .bleHandshakeError

/-- How an awaited call ends; a read returns bytes. -/
inductive Outcome where
  | done (value : Bytes)
  | raised (e : GattErr)

/-- Where a task which runs `disconnect` is suspended. -/
inductive Teardown where
  /-- In `await self._client.stop_notify(READ_CHAR)`. -/
  | stopping
  /-- In the `disconnect()` of the client which was `self._client` at the call. -/
  | closing (client : ℕ)
  deriving DecidableEq

/-- A locked operation. -/
inductive Job where
  | ensureConnected
  | send (plaintext : Bytes)
  | sendActuation (plaintext : Bytes)

/-- Where an attempt of `_open` is suspended. -/
inductive Stage where
  | connecting
  | settling
  | subscribing
  | writingKey (initTx : Vector UInt8 20)
  | readingKey (initTx : Vector UInt8 20)
  | disconnecting (t : Teardown)
  | pausing

/-- Where the task which holds the lock is suspended. -/
inductive Holder where
  | opening (job : Job) (attempt : ℕ) (stage : Stage)
  /-- In a write of the post-handshake hook, with what is left to write. -/
  | hooking (job : Job) (steps : List Piece)
  /-- In a write of the hook which `send_actuation` re-runs on a pooled session. -/
  | refreshing (plaintext : Bytes) (steps : List Piece)
  | reopening (plaintext : Bytes) (t : Teardown)
  /-- In the write of a command or the drain after it. -/
  | commanding
  | idleClosing (t : Teardown)

/-- What a connection is made with, and what the environment draws for it: the
random bytes of each handshake and the plaintexts of each run of the hook. -/
structure Setting where
  aes : AesBlock
  gattSettleMs : ℤ := 300
  idleSec : ℤ := 60
  urandom : ℕ → Vector UInt8 20
  hook : Option (ℕ → List Piece)

/-- The fields of a connection, its tasks, and the links of its clients. -/
structure Link where
  conn : BleConnection
  client : Option ℕ := none
  held : Bool := false
  /-- `_hold_expiry` and `_idle_timer` are armed. -/
  holdExpiry : Bool := false
  idleTimer : Bool := false
  holder : Option Holder := none
  teardowns : List Teardown := []
  /-- `_idle_close` tasks which wait for the lock. -/
  idleCloses : ℕ := 0
  /-- How the last locked operation ended, while none is under way. -/
  ended : Option (Except PyErr Unit) := none
  inRange : Bool := true
  /-- The clients which are connected. -/
  live : List ℕ := []
  made : ℕ := 0
  hookRuns : ℕ := 0
  /-- The client on which the hook last ran to completion. -/
  initialised : Option ℕ := none

/-! ## The handshake -/

/-- `rx[:4] + init_tx[4:]`, the eleventh byte of `init_tx` cleared. -/
def handshakeBuf (initTx : Vector UInt8 20) (rx : Bytes) : Bytes :=
  rx.take 4 ++ (initTx.set 11 0).toList.drop 4

/-- `struct.unpack("<I", b)`; `struct.error` unless there are four bytes. -/
def unpackU32 : Bytes → Option UInt32
  | [b₀, b₁, b₂, b₃] =>
    some (b₀.toUInt32 ||| b₁.toUInt32 <<< 8 ||| b₂.toUInt32 <<< 16 ||| b₃.toUInt32 <<< 24)
  | _ => none

/-- `rx[:4] == b"\x00\x00\x00\x00" or any(rx[4:])`. -/
def rejectsReply (rx : Bytes) : Bool := rx.take 4 == [0, 0, 0, 0] || (rx.drop 4).any (· != 0)

def ivOf (buf : Bytes) : Iv := Vector.ofFn fun i => buf.getD i 0

namespace BleConnection

/-- `_handshake` before its first `await`. -/
def clearForHandshake (c : BleConnection) : BleConnection :=
  { c with notifBuf := [], lastRxFrame := none }

/-- `_handshake` once the reply is read. A reply of fewer than four bytes passes the test,
and the last `unpack` raises on what it leaves of the buffer. -/
def acceptReply (initTx : Vector UInt8 20) (rx : Bytes) (c : BleConnection) :
    Except PyErr Unit × BleConnection :=
  if rejectsReply rx then (.error .bleHandshakeError, c)
  else
    let buf := handshakeBuf initTx rx
    let c := { c with iv := some (ivOf (buf.take 12)) }
    match unpackU32 ((buf.drop 12).take 4) with
    | none => (.error .other, c)
    | some tx =>
      let c := { c with txCtr := tx }
      match unpackU32 ((buf.drop 16).take 4) with
      | none => (.error .other, c)
      | some rx => (.ok (), { c with rxCtr := rx, handshaken := true })

/-- The end of `disconnect`. -/
def clearSession (c : BleConnection) : BleConnection :=
  { c with handshaken := false, iv := none, lastRxFrame := none, notifPt := [] }

end BleConnection

namespace Link

/-! ## `disconnect` -/

def isConnected (s : Link) : Bool :=
  match s.client with
  | none => false
  | some c => s.live.contains c

def lose (s : Link) (c : ℕ) : Link := { s with live := s.live.filter (· != c) }

/-- The last segment of `disconnect`. -/
def clearSession (s : Link) : Link := { s with client := none, conn := s.conn.clearSession }

def dropHold (s : Link) : Link :=
  { s with held := false, holdExpiry := false, idleTimer := false }

/-- `disconnect` up to its first `await`, if it gets to one. -/
def beginDisconnect (s : Link) : Link × Option Teardown :=
  match s.client with
  | none => (s.dropHold.clearSession, none)
  | some _ => (s.dropHold, some .stopping)

/-- The `disconnect()` of a client has ended: one which returns has taken the link down, one which
raises says nothing of it. -/
def closed (s : Link) (c : ℕ) : Outcome → Link
  | .done _ => s.lose c
  | .raised _ => s

/-- What is raised is swallowed, an `AttributeError` on `None` included. -/
def resumeDisconnect (s : Link) : Teardown → Outcome → Link × Option Teardown
  | .stopping, _ =>
    match s.client with
    | none => (s.clearSession, none)
    | some c => (s, some (.closing c))
  | .closing c, o => ((s.closed c o).clearSession, none)

/-! ## Holds and the idle timer -/

def holdOpen (s : Link) : Link := { s with held := true, holdExpiry := true, idleTimer := false }

def armIdleTimer (S : Setting) (s : Link) : Link :=
  if s.held then s else if S.idleSec ≤ 0 then s else { s with idleTimer := true }

def release (S : Setting) (s : Link) : Link :=
  let s := { s with holdExpiry := false }
  if s.held then { s with held := false }.armIdleTimer S else s

/-! ## Locked operations -/

/-- The operation ends and gives up the lock. -/
def finish (s : Link) (r : Except PyErr Unit) : Link := { s with holder := none, ended := some r }

/-- `_write_locked` up to its `await`. -/
def beginWrite (S : Setting) (plaintext : Bytes) (s : Link) : Except PyErr Unit × Link :=
  match s.conn.encrypt S.aes plaintext with
  | (.error e, conn) => (.error e, { s with conn := conn })
  -- `assert self._client is not None`
  | (.ok _, conn) => (if s.client.isNone then .error .other else .ok (), { s with conn := conn })

/-- A write of the lock holder, which waits for it at `next` or ends with what it raises. -/
def writeThen (S : Setting) (plaintext : Bytes) (next : Holder) (s : Link) : Link :=
  match s.beginWrite S plaintext with
  | (.error e, s) => s.finish (.error e)
  | (.ok _, s) => { s with holder := some next }

/-- `_write_and_drain`, and the end of `send_actuation`, up to the drain. -/
def command (S : Setting) (plaintext : Bytes) (s : Link) : Link :=
  { s with conn := s.conn.clearBuffers }.writeThen S plaintext .commanding

def ensured (S : Setting) (job : Job) (s : Link) : Link :=
  match job with
  | .ensureConnected => s.finish (.ok ())
  | .send plaintext | .sendActuation plaintext => s.command S plaintext

def countHook (s : Link) : Link := { s with hookRuns := s.hookRuns + 1 }

def hookNext (S : Setting) (job : Job) (steps : List Piece) (s : Link) : Link :=
  match steps with
  | [] => { s with initialised := s.client }.ensured S job
  | step :: steps => s.writeThen S step.pt (.hooking job steps)

/-- The end of `_write_and_drain` and of `send_actuation`. -/
def commandDone (S : Setting) (s : Link) : Link :=
  ({ s with conn := s.conn.clearNotifBuf }.armIdleTimer S).finish (.ok ())

def handshook (S : Setting) (job : Job) (s : Link) : Link :=
  match S.hook with
  | none => s.hookNext S job []
  | some hook => s.countHook.hookNext S job (hook s.hookRuns)

def atStage (s : Link) (job : Job) (attempt : ℕ) (stage : Stage) : Link :=
  { s with holder := some (.opening job attempt stage) }

/-- After the `disconnect` of a failed attempt: a pause, or the last error. -/
def tornDown (s : Link) (job : Job) (attempt : ℕ) : Link :=
  if attempt < OPEN_MAX_ATTEMPTS then s.atStage job attempt .pausing
  else s.finish (.error .bleHandshakeError)

/-- The handler of `_open`. -/
def attemptFailed (s : Link) (job : Job) (attempt : ℕ) : Link :=
  match s.beginDisconnect with
  | (s, some t) => s.atStage job attempt (.disconnecting t)
  | (s, none) => s.tornDown job attempt

/-- `_handshake` up to its first `await`; `None` has no `start_notify`. -/
def beginHandshake (s : Link) (job : Job) (attempt : ℕ) : Link :=
  let s := { s with conn := s.conn.clearForHandshake }
  if s.client.isNone then s.finish (.error .other) else s.atStage job attempt .subscribing

/-- `self._client = await establish_connection(...)`: a new client, and its link. -/
def storeClient (s : Link) : Link :=
  { s with client := some s.made, live := s.made :: s.live, made := s.made + 1 }

def connected (S : Setting) (s : Link) (job : Job) (attempt : ℕ) : Link :=
  let s := s.storeClient
  if 0 < S.gattSettleMs then s.atStage job attempt .settling else s.beginHandshake job attempt

def keyRead (S : Setting) (s : Link) (job : Job) (attempt : ℕ) (initTx : Vector UInt8 20)
    (rx : Bytes) : Link :=
  match s.conn.acceptReply initTx rx with
  | (.ok _, conn) => { s with conn := conn }.handshook S job
  | (.error .bleHandshakeError, conn) => { s with conn := conn }.attemptFailed job attempt
  | (.error e, conn) => { s with conn := conn }.finish (.error e)

def resumeOpening (S : Setting) (s : Link) (job : Job) (attempt : ℕ) :
    Stage → Outcome → Link
  | .settling, _ => s.beginHandshake job attempt
  | .pausing, _ => s.atStage job (attempt + 1) .connecting
  | .disconnecting t, o =>
    match s.resumeDisconnect t o with
    | (s, some t) => s.atStage job attempt (.disconnecting t)
    | (s, none) => s.tornDown job attempt
  | .connecting, .done _ => s.connected S job attempt
  | .subscribing, .done _ =>
    if s.client.isNone then s.finish (.error .other)
    else s.atStage job attempt (.writingKey (S.urandom s.made))
  | .writingKey initTx, .done _ =>
    if s.client.isNone then s.finish (.error .other)
    else s.atStage job attempt (.readingKey initTx)
  | .readingKey initTx, .done rx => s.keyRead S job attempt initTx rx
  | _, .raised _ => s.attemptFailed job attempt

def ensureConnected (S : Setting) (s : Link) (job : Job) : Link :=
  if s.isConnected && s.conn.handshaken then s.ensured S job
  else if s.inRange then s.atStage job 1 .connecting
  else s.finish (.error .bleNotConnectable)

/-- The hook of `send_actuation` from one write to the next. -/
def refreshNext (S : Setting) (plaintext : Bytes) (steps : List Piece) (s : Link) : Link :=
  match steps with
  | [] => { s with initialised := s.client }.command S plaintext
  | step :: steps => s.writeThen S step.pt (.refreshing plaintext steps)

/-- `send_actuation` on a pooled session. -/
def refresh (S : Setting) (plaintext : Bytes) (s : Link) : Link :=
  match S.hook with
  | none => s.refreshNext S plaintext []
  | some hook => s.countHook.refreshNext S plaintext (hook s.hookRuns)

/-- A locked operation has been given the lock. -/
def call (S : Setting) (s : Link) (job : Job) : Link :=
  let s := { s with ended := none }
  match job with
  | .sendActuation plaintext =>
    if s.isConnected && s.conn.handshaken then s.refresh S plaintext
    else s.ensureConnected S job
  | _ => s.ensureConnected S job

/-- A `disconnect` of `send_actuation`, after which it opens anew. -/
def reopen (S : Setting) (plaintext : Bytes) : Link × Option Teardown → Link
  | (s, some t) => { s with holder := some (.reopening plaintext t) }
  | (s, none) => s.ensureConnected S (.sendActuation plaintext)

/-- A write of `_write_locked` which times out counts as written. -/
def written : Outcome → Option GattErr
  | .done _ => none
  | .raised .timeoutError => none
  | .raised e => some e

def resume (S : Setting) (s : Link) (o : Outcome) : Link :=
  match s.holder with
  | none => s
  | some (.opening job attempt stage) => s.resumeOpening S job attempt stage o
  | some (.hooking job steps) =>
    match written o with
    | none => s.hookNext S job steps
    | some e => s.finish (.error e.toPyErr)
  | some (.refreshing plaintext steps) =>
    match written o with
    | none => s.refreshNext S plaintext steps
    | some .bleHandshakeError => s.finish (.error .bleHandshakeError)
    | some _ => reopen S plaintext s.beginDisconnect
  | some (.reopening plaintext t) => reopen S plaintext (s.resumeDisconnect t o)
  | some .commanding =>
    match written o with
    | none => s.commandDone S
    | some e => s.finish (.error e.toPyErr)
  | some (.idleClosing t) =>
    match s.resumeDisconnect t o with
    | (s, some t) => { s with holder := some (.idleClosing t) }
    | (s, none) => { s with holder := none }

def idleClose (s : Link) : Link :=
  let s := { s with idleCloses := s.idleCloses - 1 }
  if s.isConnected then
    match s.beginDisconnect with
    | (s, some t) => { s with holder := some (.idleClosing t) }
    | (s, none) => s
  else s

/-! ## Runs -/

inductive Event where
  /-- An operation is given the lock. -/
  | call (job : Job)
  /-- What the lock holder waits for ends. -/
  | resume (o : Outcome)
  /-- A task calls `disconnect` without the lock. -/
  | disconnect
  | resumeDisconnect (i : ℕ) (o : Outcome)
  | idleTimerFires
  | idleCloseRuns
  | holdOpen
  | release
  | holdExpires
  | linkLost (client : ℕ)
  | inRange (b : Bool)

/-- A `disconnect` outside the lock, suspended or done. -/
def keepTeardown (rest : List Teardown) : Link × Option Teardown → Link
  | (s, some t) => { s with teardowns := rest ++ [t] }
  | (s, none) => { s with teardowns := rest }

/-- What cannot happen in a state leaves it alone. -/
def step (S : Setting) (s : Link) : Event → Link
  | .call job => if s.holder.isNone then s.call S job else s
  | .resume o => s.resume S o
  | .disconnect => keepTeardown s.teardowns s.beginDisconnect
  | .resumeDisconnect i o =>
    match s.teardowns[i]? with
    | none => s
    | some t => keepTeardown (s.teardowns.eraseIdx i) (s.resumeDisconnect t o)
  | .idleTimerFires =>
    if s.idleTimer then { s with idleTimer := false, idleCloses := s.idleCloses + 1 } else s
  | .idleCloseRuns => if s.holder.isNone ∧ 0 < s.idleCloses then s.idleClose else s
  | .holdOpen => s.holdOpen
  | .release => s.release S
  | .holdExpires => if s.holdExpiry then s.release S else s
  | .linkLost client => s.lose client
  | .inRange b => { s with inRange := b }

/-- A connection right after `__init__`. -/
def fresh (frameMagic trailerConst : UInt8) (replyHeader : Option Bytes) : Link where
  conn := {
    frameMagic := frameMagic
    trailerConst := trailerConst
    replyHeader := replyHeader
    iv := none
    txCtr := 0
    rxCtr := 0
    notifBuf := []
    notifPt := []
    lastRxFrame := none
    handshaken := false
    scheduledDisconnects := 0 }

/-! ### A first session -/

/-- A connection without a hook, as the protobuf classes use it. -/
def plainSetting : Setting where
  aes := id
  urandom _ := Vector.replicate 20 7
  hook := none

def hookedSetting : Setting :=
  { plainSetting with hook := some fun _ => [⟨[0x81], by decide⟩] }

def plainLink : Link := fresh 0x11 0x11 (some MSG_HEADER)

def goodReply : Bytes := [1, 2, 3, 4] ++ List.replicate 16 0

/-- A `send` on a closed connection, up to the write of its command. -/
def opensAndWrites : List Event :=
  .call (.send [0x01]) :: List.replicate 4 (.resume (.done [])) ++ [.resume (.done goodReply)]

/-! ## What an operation leaves alone -/

def IdleClosing (s : Link) : Prop := ∃ t, s.holder = some (.idleClosing t)

/-- A segment of a locked operation which neither connects nor reaches the end of a
`disconnect`: the clients and the other tasks are as before, a hold is not taken, and the
idle timer is not armed under one. -/
structure Within (s s' : Link) : Prop where
  client : s'.client = s.client
  live : s'.live = s.live
  made : s'.made = s.made
  teardowns : s'.teardowns = s.teardowns
  idleCloses : s'.idleCloses = s.idleCloses
  held : s'.held = true → s.held = true ∧ s'.idleTimer = s.idleTimer
  holder : ¬ s'.IdleClosing

/-- What is not the operation's own. -/
def outer (s : Link) : Option ℕ × List ℕ × ℕ × List Teardown × ℕ × Bool × Bool :=
  (s.client, s.live, s.made, s.teardowns, s.idleCloses, s.held, s.idleTimer)

theorem Within.of_outer {s₀ s s' : Link} (h : Within s₀ s') (hsame : s₀.outer = s.outer) :
    Within s s' := by
  simp only [outer, Prod.mk.injEq] at hsame
  obtain ⟨hclient, hlive, hmade, htear, hidle, hheld, htimer⟩ := hsame
  refine ⟨h.client.trans hclient, h.live.trans hlive, h.made.trans hmade,
    h.teardowns.trans htear, h.idleCloses.trans hidle, fun hheld' => ?_, h.holder⟩
  obtain ⟨hheld₀, htimer₀⟩ := h.held hheld'
  exact ⟨hheld ▸ hheld₀, htimer₀.trans htimer⟩

section Within

variable {S : Setting} {s : Link} {job : Job} {attempt : ℕ} {plaintext : Bytes}

theorem within_finish (r : Except PyErr Unit) : Within s (s.finish r) :=
  ⟨rfl, rfl, rfl, rfl, rfl, fun h => ⟨h, rfl⟩, fun ⟨_, h⟩ => by cases h⟩

theorem within_atStage (stage : Stage) : Within s (s.atStage job attempt stage) :=
  ⟨rfl, rfl, rfl, rfl, rfl, fun h => ⟨h, rfl⟩, fun ⟨_, h⟩ => by cases h⟩

theorem beginWrite_snd :
    (s.beginWrite S plaintext).2 = { s with conn := (s.conn.encrypt S.aes plaintext).2 } := by
  unfold beginWrite
  split
  · next e conn h => rw [h]
  · next ct conn h => rw [h]

theorem within_writeThen {next : Holder} (hnext : ∀ t, next ≠ .idleClosing t) :
    Within s (s.writeThen S plaintext next) := by
  have hsnd : (s.beginWrite S plaintext).2 = { s with conn := (s.conn.encrypt S.aes plaintext).2 } :=
    beginWrite_snd
  unfold writeThen
  split
  · next e s' h =>
    rw [h] at hsnd
    obtain rfl : s' = _ := hsnd
    exact ⟨rfl, rfl, rfl, rfl, rfl, fun h => ⟨h, rfl⟩, fun ⟨_, h⟩ => by cases h⟩
  · next s' h =>
    rw [h] at hsnd
    obtain rfl : s' = _ := hsnd
    refine ⟨rfl, rfl, rfl, rfl, rfl, fun h => ⟨h, rfl⟩, fun ⟨t, ht⟩ => hnext t ?_⟩
    simpa using ht

theorem within_command : Within s (s.command S plaintext) :=
  (within_writeThen fun _ => by simp).of_outer rfl

theorem within_ensured : Within s (s.ensured S job) := by
  cases job with
  | ensureConnected => exact within_finish _
  | send plaintext => exact within_command
  | sendActuation plaintext => exact within_command

theorem within_hookNext (steps : List Piece) : Within s (s.hookNext S job steps) := by
  cases steps with
  | nil => exact within_ensured.of_outer rfl
  | cons step steps => exact within_writeThen fun _ => by simp

theorem within_handshook : Within s (s.handshook S job) := by
  unfold handshook
  split
  · exact within_hookNext _
  · exact (within_hookNext _).of_outer rfl

theorem within_tornDown : Within s (s.tornDown job attempt) := by
  unfold tornDown
  split
  · exact within_atStage _
  · exact within_finish _

theorem beginDisconnect_fst :
    s.beginDisconnect.1.client = s.client ∧ s.beginDisconnect.1.live = s.live ∧
      s.beginDisconnect.1.made = s.made ∧ s.beginDisconnect.1.teardowns = s.teardowns ∧
      s.beginDisconnect.1.idleCloses = s.idleCloses ∧ s.beginDisconnect.1.held = false := by
  unfold beginDisconnect
  cases hclient : s.client with
  | none => exact ⟨rfl, rfl, rfl, rfl, rfl, rfl⟩
  | some c => exact ⟨hclient, rfl, rfl, rfl, rfl, rfl⟩

theorem Within.after_beginDisconnect {s' : Link} (h : Within s.beginDisconnect.1 s') :
    Within s s' := by
  obtain ⟨hclient, hlive, hmade, htear, hidle, hheld⟩ := beginDisconnect_fst (s := s)
  refine ⟨h.client.trans hclient, h.live.trans hlive, h.made.trans hmade,
    h.teardowns.trans htear, h.idleCloses.trans hidle, fun hheld' => ?_, h.holder⟩
  rw [(h.held hheld').1] at hheld
  exact absurd hheld (by decide)

theorem within_attemptFailed : Within s (s.attemptFailed job attempt) := by
  refine Within.after_beginDisconnect ?_
  unfold attemptFailed
  cases s.beginDisconnect with
  | mk s' t =>
    cases t with
    | none => exact within_tornDown
    | some t => exact within_atStage _

theorem within_beginHandshake : Within s (s.beginHandshake job attempt) := by
  unfold beginHandshake
  dsimp only
  split
  · exact (within_finish _).of_outer rfl
  · exact (within_atStage _).of_outer rfl

theorem within_keyRead (initTx : Vector UInt8 20) (rx : Bytes) :
    Within s (s.keyRead S job attempt initTx rx) := by
  unfold keyRead
  split
  · exact within_handshook.of_outer rfl
  · exact within_attemptFailed.of_outer rfl
  · exact (within_finish _).of_outer rfl

theorem within_ensureConnected : Within s (s.ensureConnected S job) := by
  unfold ensureConnected
  split_ifs
  · exact within_ensured
  · exact within_atStage _
  · exact within_finish _

theorem within_refreshNext (steps : List Piece) : Within s (s.refreshNext S plaintext steps) := by
  cases steps with
  | nil => exact within_command.of_outer rfl
  | cons step steps => exact within_writeThen fun _ => by simp

theorem within_refresh : Within s (s.refresh S plaintext) := by
  unfold refresh
  split
  · exact within_refreshNext _
  · exact (within_refreshNext _).of_outer rfl

theorem within_call : Within s (s.call S job) := by
  unfold call
  dsimp only
  split
  · split
    · exact within_refresh.of_outer rfl
    · exact within_ensureConnected.of_outer rfl
  · exact within_ensureConnected.of_outer rfl

theorem within_reopen_fst (t : Option Teardown) : Within s (reopen S plaintext (s, t)) := by
  cases t with
  | none => exact within_ensureConnected
  | some t => exact ⟨rfl, rfl, rfl, rfl, rfl, fun h => ⟨h, rfl⟩, fun ⟨_, h⟩ => by cases h⟩

theorem within_commandDone : Within s (s.commandDone S) := by
  unfold commandDone armIdleTimer
  dsimp only
  split_ifs with hheld hidle
  · exact (within_finish _).of_outer rfl
  · exact (within_finish _).of_outer rfl
  · exact ⟨rfl, rfl, rfl, rfl, rfl, fun h => absurd h hheld, fun ⟨_, h⟩ => by cases h⟩

theorem within_resumeOpening {stage : Stage} {o : Outcome}
    (hconnect : stage = .connecting → ∀ rx, o ≠ .done rx)
    (hdisconnect : ∀ t, stage ≠ .disconnecting t) :
    Within s (s.resumeOpening S job attempt stage o) := by
  cases stage with
  | settling => exact within_beginHandshake
  | pausing => exact within_atStage _
  | disconnecting t => exact absurd rfl (hdisconnect t)
  | connecting =>
    cases o with
    | done rx => exact absurd rfl (hconnect rfl rx)
    | raised e => exact within_attemptFailed
  | subscribing =>
    cases o with
    | done rx =>
      unfold resumeOpening
      dsimp only
      split_ifs
      · exact within_finish _
      · exact within_atStage _
    | raised e => exact within_attemptFailed
  | writingKey initTx =>
    cases o with
    | done rx =>
      unfold resumeOpening
      dsimp only
      split_ifs
      · exact within_finish _
      · exact within_atStage _
    | raised e => exact within_attemptFailed
  | readingKey initTx =>
    cases o with
    | done rx => exact within_keyRead initTx rx
    | raised e => exact within_attemptFailed

end Within

end Link
end OrbitBhyve.Connection
