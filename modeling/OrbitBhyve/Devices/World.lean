import OrbitBhyve.Connection.Reassembly
import OrbitBhyve.Foundation.Effect
import OrbitBhyve.Python.DateTime

/-!
# The device object and its radio

The methods of a device await the connection. Between two suspension points
nothing else runs; at each one the radio answers with a `Reply`: the frames the
callback decrypts while the session is opened, a failure to open it, the frames
of the reply, a failure after the write, and the host clock. Nothing is assumed
of the replies. The world logs what was written and what was heard, the latter
with the device which the frame met.

The callback below is the one of `Connection.Notify` on an in-sync burst.
-/

namespace OrbitBhyve.Devices

open Foundation Python Wire Connection

/-- A decrypted notification and the host clock when the callback runs. -/
structure Notice where
  pt : Bytes
  clock : DateTime

/-- What one awaited operation of the connection comes back with. -/
structure Reply where
  opening : List Notice := []
  failed : Option PyErr := none
  frames : List Notice := []
  raised : Option PyErr := none
  /-- Raw frames drained, decoded or not. -/
  drained : ℕ := 0
  /-- A scheduled teardown ran during the drain and cleared the plaintext buffer. -/
  torn : Bool := false
  /-- The connection was closed on the way, which lets go of a hold on the session. -/
  closed : Bool := false
  linkUp : Bool := true
  /-- `time.monotonic()`, in microseconds. -/
  monotonic : ℤ := 0
  clock : DateTime

/-- The stream which `send_stream` joins from a reply. -/
def Reply.stream (r : Reply) : Bytes := if r.torn then [] else r.frames.flatMap Notice.pt

/-- Everything heard during a reply. -/
def Reply.notices (r : Reply) : List Notice := r.opening ++ r.frames

inductive LogEntry (δ : Type) where
  | wrote (pt : Bytes)
  | heard (n : Notice) (met : δ)

structure World (δ : Type) where
  dev : δ
  clock : DateTime
  linkUp : Bool := false
  monotonic : ℤ := 0
  /-- Operations of the connection awaited so far. -/
  tick : ℕ := 0
  log : List (LogEntry δ) := []

/-- The device class and its surroundings. -/
structure Radio (δ : Type) where
  observer : DateTime → Bytes → δ → δ
  replyHeader : Option Bytes
  replies : ℕ → Reply
  /-- Of Home Assistant's configured time zone. -/
  utcOffset : UtcOffset := .utc

/-- Programs of a device class. -/
abbrev Task (δ : Type) := Prog PyErr (World δ)

variable {δ : Type}

def getDev : Task δ δ := do
  let w ← get
  pure w.dev

def getClock : Task δ DateTime := do
  let w ← get
  pure w.clock

def modDev (f : δ → δ) : Task δ Unit := modify fun w => { w with dev := f w.dev }

theorem run_getDev (w : World δ) : getDev w = .ok w.dev w := rfl

theorem run_getClock (w : World δ) : getClock w = .ok w.clock w := rfl

theorem run_modDev (f : δ → δ) (w : World δ) :
    modDev f w = .ok () { w with dev := f w.dev } := rfl

theorem run_getDev_eq_ok {w w' : World δ} {d : δ} (h : getDev w = .ok d w') :
    d = w.dev ∧ w' = w := by
  rw [run_getDev] at h
  cases h
  exact ⟨rfl, rfl⟩

namespace Radio

variable (R : Radio δ)

/-- A plaintext the callback passes on to the observer. -/
def passes (pt : Bytes) : Bool :=
  match R.replyHeader with
  | none => true
  | some header => !(4 ≤ pt.length && pt.take 4 != header)

def hear (n : Notice) : Task δ Unit :=
  modify fun w =>
    { w with
      clock := n.clock
      dev := if R.passes n.pt then R.observer n.clock n.pt w.dev else w.dev
      log := w.log ++ [.heard n w.dev] }

def hearAll : List Notice → Task δ Unit
  | [] => pure ()
  | n :: ns => do
    R.hear n
    hearAll ns

def nextReply : Task δ Reply := do
  let w ← get
  modify fun w => { w with tick := w.tick + 1 }
  pure (R.replies w.tick)

def settle (r : Reply) : Task δ Unit :=
  modify fun w => { w with clock := r.clock, linkUp := r.linkUp, monotonic := r.monotonic }

def raiseIf (e : Option PyErr) : Task δ Unit :=
  match e with
  | some e => throw e
  | none => pure ()

/-- `encrypt` refuses a plaintext whose length does not fit its byte. -/
def fitsFrame (pt : Bytes) : Task δ Unit := if pt.length > 255 then throw .valueError else pure ()

def openSession (r : Reply) : Task δ Unit := do
  R.hearAll r.opening
  settle r
  raiseIf r.failed

def writeAndDrain (r : Reply) (pt : Bytes) : Task δ Unit := do
  fitsFrame pt
  modify fun w => { w with log := w.log ++ [.wrote pt] }
  R.hearAll r.frames
  settle r
  raiseIf r.raised

def exchange (pt : Bytes) : Task δ Reply := do
  let r ← R.nextReply
  R.openSession r
  R.writeAndDrain r pt
  pure r

/-- `send`: the number of frames received. -/
def send (pt : Bytes) : Task δ ℕ := do
  let r ← R.exchange pt
  pure r.drained

def sendStream (pt : Bytes) : Task δ Bytes := do
  let r ← R.exchange pt
  pure r.stream

def ensureConnected : Task δ Unit := do
  let r ← R.nextReply
  R.openSession r

/-- A suspension which writes nothing and cannot fail: `disconnect`, `asyncio.sleep`. -/
def suspend : Task δ Unit := do
  let r ← R.nextReply
  R.hearAll r.opening
  settle r

def disconnect : Task δ Unit := R.suspend

def sleep : Task δ Unit := R.suspend

end Radio

/-! ## The callback on a burst -/

def World.hears (R : Radio δ) (w : World δ) (n : Notice) : World δ :=
  { w with
    clock := n.clock
    dev := if R.passes n.pt then R.observer n.clock n.pt w.dev else w.dev
    log := w.log ++ [.heard n w.dev] }

namespace Radio

variable {R : Radio δ}

theorem hear_returns (n : Notice) : Returns (R.hear n) := .modify _

theorem hearAll_returns (ns : List Notice) : Returns (R.hearAll ns) := by
  induction ns with
  | nil => exact .pure
  | cons n ns ih => exact .bind (hear_returns n) ih

theorem after_hearAll (ns : List Notice) (w : World δ) :
    after (R.hearAll ns) w = ns.foldl (World.hears R) w := by
  induction ns generalizing w with
  | nil => rfl
  | cons n ns ih =>
    rw [hearAll, (hear_returns n).after_bind, ih]
    rfl

theorem run_nextReply (w : World δ) :
    R.nextReply w = .ok (R.replies w.tick) { w with tick := w.tick + 1 } := rfl

theorem run_fitsFrame (pt : Bytes) (w : World δ) :
    (fitsFrame pt : Task δ Unit) w = if 255 < pt.length then .error .valueError w else .ok () w := by
  unfold fitsFrame
  split_ifs <;> rfl

/-- Every awaited operation moves the world along `M`, as long as only plaintexts
which are `ok` are written. -/
structure Operates (R : Radio δ) (ok : Bytes → Prop) (M : World δ → World δ → Prop) : Prop where
  exchange : ∀ pt, ok pt → Moves M (R.exchange pt)
  suspend : Moves M R.suspend
  ensureConnected : Moves M R.ensureConnected

section Moves

variable {ok : Bytes → Prop} {M : World δ → World δ → Prop} [IsPreorder _ M]

theorem Operates.send (h : R.Operates ok M) {pt : Bytes} (hpt : ok pt) : Moves M (R.send pt) :=
  Moves.bind (h.exchange pt hpt) fun _ => .pure _

theorem Operates.sendStream (h : R.Operates ok M) {pt : Bytes} (hpt : ok pt) :
    Moves M (R.sendStream pt) :=
  Moves.bind (h.exchange pt hpt) fun _ => .pure _

theorem moves_hearAll {ns : List Notice} (hears : ∀ n ∈ ns, ∀ w, M w (w.hears R n)) :
    Moves M (R.hearAll ns) := by
  induction ns with
  | nil => exact .pure _
  | cons n ns ih =>
    exact Moves.bind (fun w => hears n List.mem_cons_self w) fun _ =>
      ih fun m hm => hears m (List.mem_cons_of_mem _ hm)

/-- It is enough to look at one notification, the clock and one write. -/
theorem Operates.of_steps (hears : ∀ k, ∀ n ∈ (R.replies k).notices, ∀ w, M w (w.hears R n))
    (settles : ∀ (w : World δ) clock linkUp monotonic, M w { w with clock, linkUp, monotonic })
    (ticks : ∀ w : World δ, M w { w with tick := w.tick + 1 })
    (writes : ∀ (w : World δ) pt, ok pt → pt.length ≤ 255 →
      M w { w with log := w.log ++ [.wrote pt] }) :
    R.Operates ok M := by
  have hsettle : ∀ r, Moves M (settle r) := fun r => Moves.modify fun w => settles w _ _ _
  have hraise : ∀ e, Moves M (raiseIf e : Task δ Unit) := by
    intro e
    cases e with
    | none => exact .pure ()
    | some e => exact .throw e
  have hfirst : ∀ k, Moves M (R.hearAll (R.replies k).opening) := fun k =>
    moves_hearAll fun n hn => hears k n (List.mem_append_left _ hn)
  have hlast : ∀ k, Moves M (R.hearAll (R.replies k).frames) := fun k =>
    moves_hearAll fun n hn => hears k n (List.mem_append_right _ hn)
  have hopen : ∀ k, Moves M (R.openSession (R.replies k)) := fun k =>
    Moves.bind (hfirst k) fun _ => Moves.bind (hsettle _) fun _ => hraise _
  have hwrite : ∀ k pt, ok pt → Moves M (R.writeAndDrain (R.replies k) pt) := by
    intro k pt hpt w
    by_cases hlong : 255 < pt.length
    · rw [writeAndDrain, after_bind_error (by rw [run_fitsFrame, if_pos hlong])]
      exact refl_of M w
    · rw [writeAndDrain, after_bind_ok (by rw [run_fitsFrame, if_neg hlong])]
      exact Moves.bind (Moves.modify fun w => writes w pt hpt (by omega)) (fun _ =>
        Moves.bind (hlast k) fun _ => Moves.bind (hsettle _) fun _ => hraise _) w
  have hnext : ∀ {α : Type} {f : Reply → Task δ α}, (∀ k, Moves M (f (R.replies k))) →
      Moves M (R.nextReply >>= f) := by
    intro α f hf w
    rw [after_bind_ok (run_nextReply w)]
    exact trans_of M (ticks w) (hf w.tick _)
  exact {
    exchange := fun pt hpt => hnext fun k => Moves.bind (hopen k) fun _ =>
      Moves.bind (hwrite k pt hpt) fun _ => .pure _
    suspend := hnext fun k => Moves.bind (hfirst k) fun _ => hsettle _
    ensureConnected := hnext hopen }

end Moves

/-! ## What one operation does -/

end Radio

/-- The host side of a reply's end. -/
def World.settled (w : World δ) (r : Reply) : World δ :=
  { w with clock := r.clock, linkUp := r.linkUp, monotonic := r.monotonic }

/-- The next reply's session is open, or has failed to open. -/
def World.opened (R : Radio δ) (w : World δ) : World δ :=
  ((R.replies w.tick).opening.foldl (World.hears R) { w with tick := w.tick + 1 }).settled
    (R.replies w.tick)

/-- The write has gone out and nothing of its reply has come in. -/
def World.written (R : Radio δ) (w : World δ) (pt : Bytes) : World δ :=
  { w.opened R with log := (w.opened R).log ++ [.wrote pt] }

/-- The reply has been drained. -/
def World.exchanged (R : Radio δ) (w : World δ) (pt : Bytes) : World δ :=
  ((R.replies w.tick).frames.foldl (World.hears R) (w.written R pt)).settled (R.replies w.tick)

namespace Radio

variable {R : Radio δ}

theorem run_hearAll (ns : List Notice) (w : World δ) :
    R.hearAll ns w = .ok () (ns.foldl (World.hears R) w) := by
  rw [hearAll_returns ns w, after_hearAll]

theorem run_settle (r : Reply) (w : World δ) : settle r w = .ok () (w.settled r) := rfl

theorem run_raiseIf (e : Option PyErr) (w : World δ) :
    (raiseIf e : Task δ Unit) w =
      match e with
      | some e => .error e w
      | none => .ok () w := by
  cases e <;> rfl

theorem run_openSession (r : Reply) (w : World δ) :
    R.openSession r w =
      match r.failed with
      | some e => .error e ((r.opening.foldl (World.hears R) w).settled r)
      | none => .ok () ((r.opening.foldl (World.hears R) w).settled r) := by
  rw [openSession, run_bind_ok (run_hearAll _ _), run_bind_ok (run_settle _ _), run_raiseIf]

theorem run_writeAndDrain (r : Reply) (pt : Bytes) (w : World δ) :
    R.writeAndDrain r pt w =
      if 255 < pt.length then .error .valueError w
      else
        let w' := (r.frames.foldl (World.hears R)
          { w with log := w.log ++ [.wrote pt] }).settled r
        match r.raised with
        | some e => .error e w'
        | none => .ok () w' := by
  rw [writeAndDrain, run_bind, run_fitsFrame]
  split_ifs
  · rfl
  · dsimp only
    rw [run_bind_ok (run_modify _ _), run_bind_ok (run_hearAll _ _), run_bind_ok (run_settle _ _),
      run_raiseIf]

theorem run_exchange (pt : Bytes) (w : World δ) :
    R.exchange pt w =
      match (R.replies w.tick).failed with
      | some e => .error e (w.opened R)
      | none =>
        if 255 < pt.length then .error .valueError (w.opened R)
        else
          match (R.replies w.tick).raised with
          | some e => .error e (w.exchanged R pt)
          | none => .ok (R.replies w.tick) (w.exchanged R pt) := by
  rw [exchange, run_bind_ok (run_nextReply w), run_bind, run_openSession]
  cases (R.replies w.tick).failed with
  | some e => rfl
  | none =>
    dsimp only
    rw [run_bind, run_writeAndDrain]
    split_ifs
    · rfl
    · dsimp only
      cases (R.replies w.tick).raised <;> rfl

theorem run_exchange_eq_ok {pt : Bytes} {w w' : World δ} {r : Reply}
    (h : R.exchange pt w = .ok r w') :
    r = R.replies w.tick ∧ w' = w.exchanged R pt ∧ pt.length ≤ 255 := by
  rw [run_exchange] at h
  split at h
  · cases h
  · split_ifs at h with hlen
    split at h
    · cases h
    · cases h
      exact ⟨rfl, rfl, by omega⟩

@[simp] theorem tick_foldl_hears (ns : List Notice) (w : World δ) :
    (ns.foldl (World.hears R) w).tick = w.tick := by
  induction ns generalizing w with
  | nil => rfl
  | cons n ns ih => exact ih _

theorem tick_opened (w : World δ) : (w.opened R).tick = w.tick + 1 := by
  simp [World.opened, World.settled]

theorem tick_exchanged (pt : Bytes) (w : World δ) : (w.exchanged R pt).tick = w.tick + 1 := by
  simp [World.exchanged, World.settled, World.written, tick_opened]

/-- Opening the session and writing never fail. -/
def Reliable (R : Radio δ) : Prop := ∀ k, (R.replies k).failed = none ∧ (R.replies k).raised = none

theorem Reliable.run_exchange (h : R.Reliable) {pt : Bytes} (hpt : pt.length ≤ 255)
    (w : World δ) : R.exchange pt w = .ok (R.replies w.tick) (w.exchanged R pt) := by
  rw [Radio.run_exchange, (h w.tick).1, (h w.tick).2]
  exact if_neg (by omega)

theorem run_suspend (w : World δ) : R.suspend w = .ok () (w.opened R) := by
  rw [suspend, run_bind_ok (run_nextReply w), run_bind_ok (run_hearAll _ _), run_settle]
  rfl

theorem log_foldl_hears (ns : List Notice) (w : World δ) :
    ∃ hs : List (LogEntry δ), (ns.foldl (World.hears R) w).log = w.log ++ hs ∧
      ∀ e ∈ hs, ∃ n met, n ∈ ns ∧ e = .heard n met := by
  induction ns generalizing w with
  | nil => exact ⟨[], by simp, by simp⟩
  | cons n ns ih =>
    obtain ⟨hs, hlog, hall⟩ := ih (w.hears R n)
    refine ⟨.heard n w.dev :: hs, ?_, ?_⟩
    · rw [List.foldl_cons, hlog]
      simp [World.hears]
    · intro e he
      rcases List.mem_cons.mp he with rfl | he
      · exact ⟨n, w.dev, by simp, rfl⟩
      · obtain ⟨m, met, hm, rfl⟩ := hall e he
        exact ⟨m, met, List.mem_cons_of_mem _ hm, rfl⟩

theorem log_written (w : World δ) (pt : Bytes) :
    ∃ hs : List (LogEntry δ), (w.written R pt).log = w.log ++ hs ++ [.wrote pt] ∧
      ∀ e ∈ hs, ∃ n met, n ∈ (R.replies w.tick).opening ∧ e = .heard n met := by
  obtain ⟨hs, hlog, hall⟩ := log_foldl_hears (R := R) (R.replies w.tick).opening
    { w with tick := w.tick + 1 }
  exact ⟨hs, by simp [World.written, World.opened, World.settled, hlog], hall⟩

theorem log_exchanged (w : World δ) (pt : Bytes) : ∃ before after : List (LogEntry δ),
    (w.exchanged R pt).log = w.log ++ before ++ .wrote pt :: after := by
  obtain ⟨before, hlog, -⟩ := log_written (R := R) w pt
  obtain ⟨after, hlog', -⟩ := log_foldl_hears (R := R) (R.replies w.tick).frames (w.written R pt)
  refine ⟨before, after, ?_⟩
  rw [World.exchanged, World.settled, hlog', hlog]
  simp

/-- What the radio's callback does to the device is what `_on_notify` does on an
in-sync burst, whatever the frames and their re-deliveries. -/
theorem dev_hearAll_eq_onNotifyAll {aes : AesBlock} {iv : Iv} (tc : UInt8)
    (burst : List (Piece × ℕ)) (c : BleConnection) (clock : DateTime) (w : World δ)
    (hheader : c.replyHeader = R.replyHeader) (hhs : c.handshaken = true)
    (hiv : c.iv = some iv)
    (hlast : ∀ f ∈ (sealPieces (c.sealFor aes iv tc) c.rxCtr (burst.map Prod.fst)).head?,
      c.lastRxFrame ≠ some f)
    (hchain : (sealPieces (c.sealFor aes iv tc) c.rxCtr (burst.map Prod.fst)).IsChain (· ≠ ·)) :
    (after (R.hearAll (burst.map fun b => ⟨b.1.pt, clock⟩)) w).dev =
      (BleConnection.onNotifyAll aes (R.observer clock)
        (deliveries (c.sealFor aes iv tc) c.rxCtr burst) (c, w.dev)).2 := by
  have hfeed := BleConnection.onNotifyAll_deliveries (R.observer clock) tc burst w.dev hhs hiv hlast
    hchain
  rw [hfeed.2.2.2, after_hearAll, List.foldl_map]
  have hpass : ∀ pt, R.passes pt = !c.badHeader pt := by
    intro pt
    unfold passes BleConnection.badHeader
    rw [hheader]
    cases R.replyHeader <;> rfl
  clear hfeed hlast hchain
  induction burst generalizing w with
  | nil => rfl
  | cons b burst ih =>
    rw [List.foldl_cons, List.foldl_cons, ih]
    congr 1
    simp only [World.hears, hpass]
    cases c.badHeader b.1.pt <;> rfl

end Radio
end OrbitBhyve.Devices
