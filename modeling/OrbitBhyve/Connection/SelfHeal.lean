import OrbitBhyve.Connection.Reassembly
import OrbitBhyve.Foundation.Runs

/-!
# When the self-heal tears a session down

The callback takes a frame for the first of a reply when `_notif_buf` is empty.
The buffer is emptied by every write and again by every drain, at times which
have nothing to do with message boundaries, so a continuation frame of a reply
or a push can meet an empty buffer and pass for a desync.
-/

namespace OrbitBhyve.Connection

open Foundation Python Wire

/-- The atomic steps between two suspension points of the event loop. -/
inductive SessionEvent where
  /-- `_write_and_drain`, `send_stream` and `send_actuation` up to the write. -/
  | write (plaintext : Bytes)
  /-- `send_raw`, which clears nothing. -/
  | writeRaw (plaintext : Bytes)
  /-- The end of the drain in `send` and `send_actuation`. -/
  | drained
  /-- The end of the drain in `send_stream`. -/
  | streamed
  /-- A frame of the device, sealed at its own counter. -/
  | frame (piece : Piece)

/-- Both ends of a session, and the device object behind the observer. -/
structure Session (δ : Type*) where
  conn : BleConnection
  deviceCtr : UInt32
  dev : δ

namespace Session

variable {δ : Type*} (aes : AesBlock) (iv : Iv) (tc : UInt8) (observer : Bytes → δ → δ)

def nextFrame (s : Session δ) (p : Piece) : Bytes := s.conn.sealFor aes iv tc s.deviceCtr p.pt

def step (s : Session δ) : SessionEvent → Session δ
  | .write pt => { s with conn := (s.conn.clearBuffers.encrypt aes pt).2 }
  | .writeRaw pt => { s with conn := (s.conn.encrypt aes pt).2 }
  | .drained => { s with conn := s.conn.clearNotifBuf }
  | .streamed => { s with conn := s.conn.clearBuffers }
  | .frame p =>
    let r := BleConnection.onNotify aes observer (s.nextFrame aes iv tc p) (s.conn, s.dev)
    { conn := r.1, deviceCtr := s.deviceCtr + frameBlocks p.pt, dev := r.2 }

/-- A handshaken protobuf session whose receive counter is the device's. -/
structure InSync (s : Session δ) : Prop where
  handshaken : s.conn.handshaken = true
  iv : s.conn.iv = some iv
  header : s.conn.replyHeader = some MSG_HEADER
  counter : s.conn.rxCtr = s.deviceCtr

/-- A frame is not byte-identical to the one before it, which the callback would drop. -/
def FreshFrame (s : Session δ) : SessionEvent → Prop
  | .frame p => s.conn.lastRxFrame ≠ some (s.nextFrame aes iv tc p)
  | _ => True

instance (s : Session δ) (e : SessionEvent) : Decidable (s.FreshFrame aes iv tc e) :=
  match e with
  | .frame _ => inferInstanceAs (Decidable (_ ≠ _))
  | .write _ | .writeRaw _ | .drained | .streamed => .isTrue trivial

/-- A frame which meets an empty buffer is the start of a message, or too short to be checked. -/
def FirstFrameLeads (s : Session δ) : SessionEvent → Prop
  | .frame p => s.conn.notifBuf = [] → 4 ≤ p.pt.length → p.pt.take 4 = MSG_HEADER
  | _ => True

end Session

namespace BleConnection

variable (aes : AesBlock) (pt : Bytes) (c : BleConnection)

theorem encrypt_snd :
    (c.encrypt aes pt).2 = { c with txCtr := (c.encrypt aes pt).2.txCtr } := by
  unfold encrypt
  split
  · rfl
  · simp only
    split_ifs <;> rfl

@[simp] theorem scheduledDisconnects_encrypt :
    (c.encrypt aes pt).2.scheduledDisconnects = c.scheduledDisconnects := by
  rw [encrypt_snd]

@[simp] theorem scheduledDisconnects_clearBuffers :
    c.clearBuffers.scheduledDisconnects = c.scheduledDisconnects := rfl

variable {δ : Type*} (observer : Bytes → δ → δ) (frame : Bytes) (d : δ)

/-- The callback never takes a scheduled teardown back. -/
theorem scheduledDisconnects_le_onNotify :
    c.scheduledDisconnects ≤ (onNotify aes observer frame (c, d)).1.scheduledDisconnects := by
  unfold onNotify
  simp only
  split_ifs with hdup hhs
  · exact le_rfl
  · exact le_rfl
  · cases hdec : decrypt aes frame { c with
      lastRxFrame := some frame
      notifBuf := c.notifBuf ++ [frame] } with
    | error e => exact Nat.le_succ _
    | ok r =>
      obtain ⟨out, c'⟩ := r
      have hsame : c'.scheduledDisconnects = c.scheduledDisconnects := by
        unfold decrypt at hdec
        split_ifs at hdec
        cases hiv : c.iv with
        | none =>
          simp only [hiv] at hdec
          split_ifs at hdec
          simp only [Except.ok.injEq, Prod.mk.injEq] at hdec
          rw [← hdec.2]
        | some iv =>
          simp only [hiv, Except.ok.injEq, Prod.mk.injEq] at hdec
          rw [← hdec.2]
      simp only
      split_ifs <;> simp [scheduleDisconnect, hsame]

end BleConnection

namespace Session

variable {δ : Type*} {aes : AesBlock} {iv : Iv} {tc : UInt8} {observer : Bytes → δ → δ}

theorem InSync.badHeader_eq_false {s : Session δ} (h : InSync iv s) (pt : Bytes) :
    s.conn.badHeader pt = false ↔ (4 ≤ pt.length → pt.take 4 = MSG_HEADER) := by
  simp [BleConnection.badHeader, h.header]

/-- What a fresh frame does to an in-sync session: everything but the
teardown count follows from the plaintext. -/
theorem InSync.step_frame {s : Session δ} (h : InSync iv s) (p : Piece)
    (hnew : s.FreshFrame aes iv tc (.frame p)) :
    InSync iv (s.step aes iv tc observer (.frame p)) ∧
      ((s.step aes iv tc observer (.frame p)).conn.scheduledDisconnects =
        s.conn.scheduledDisconnects ↔ s.FirstFrameLeads (.frame p)) := by
  have hcall := @BleConnection.onNotify_sealFrame δ aes iv observer s.conn s.dev tc p.pt
    h.handshaken h.iv p.fits (by rw [h.counter]; exact hnew)
  rw [h.counter] at hcall
  have hstep : s.step aes iv tc observer (.frame p) =
      { conn := (BleConnection.onNotify aes observer (s.nextFrame aes iv tc p)
          (s.conn, s.dev)).1
        deviceCtr := s.deviceCtr + frameBlocks p.pt
        dev := (BleConnection.onNotify aes observer (s.nextFrame aes iv tc p)
          (s.conn, s.dev)).2 } := rfl
  have hlead := h.badHeader_eq_false p.pt
  rw [hstep]
  simp only [nextFrame, BleConnection.sealFor, FirstFrameLeads, hcall]
  by_cases hbad : s.conn.badHeader p.pt = true
  · have hnot : ¬ (4 ≤ p.pt.length → p.pt.take 4 = MSG_HEADER) := by
      rw [← hlead, hbad]
      exact Bool.noConfusion
    by_cases hbuf : s.conn.notifBuf = []
    · simp only [hbad, if_true, hbuf]
      refine ⟨⟨h.handshaken, h.iv, h.header, ?_⟩, ?_⟩
      · simp [BleConnection.scheduleDisconnect, BleConnection.received, h.counter]
      · simp [BleConnection.scheduleDisconnect, BleConnection.received, hnot]
    · simp only [hbad, if_true, if_neg hbuf]
      refine ⟨⟨h.handshaken, h.iv, h.header, ?_⟩, ?_⟩
      · simp [BleConnection.received, h.counter]
      · simp [BleConnection.received, hbuf]
  · have hgood := hlead.mp (by simpa using hbad)
    simp only [hbad, Bool.false_eq_true, if_false]
    refine ⟨⟨h.handshaken, h.iv, h.header, ?_⟩, ?_⟩
    · simp [BleConnection.received, h.counter]
    · exact iff_of_true rfl (fun _ => hgood)

theorem InSync.step {s : Session δ} (h : InSync iv s) (e : SessionEvent)
    (hnew : s.FreshFrame aes iv tc e) : InSync iv (s.step aes iv tc observer e) := by
  cases e with
  | write pt =>
    rw [Session.step, BleConnection.encrypt_snd]
    exact ⟨h.handshaken, h.iv, h.header, h.counter⟩
  | writeRaw pt =>
    rw [Session.step, BleConnection.encrypt_snd]
    exact ⟨h.handshaken, h.iv, h.header, h.counter⟩
  | drained => exact ⟨h.handshaken, h.iv, h.header, h.counter⟩
  | streamed => exact ⟨h.handshaken, h.iv, h.header, h.counter⟩
  | frame p => exact (h.step_frame p hnew).1

theorem InSync.count_iff {s : Session δ} (h : InSync iv s) (e : SessionEvent)
    (hnew : s.FreshFrame aes iv tc e) :
    (s.step aes iv tc observer e).conn.scheduledDisconnects = s.conn.scheduledDisconnects ↔
      s.FirstFrameLeads e := by
  cases e with
  | write pt => exact iff_of_true (by simp [Session.step]) trivial
  | writeRaw pt => exact iff_of_true (by simp [Session.step]) trivial
  | drained => exact iff_of_true rfl trivial
  | streamed => exact iff_of_true rfl trivial
  | frame p => exact (h.step_frame p hnew).2

theorem scheduledDisconnects_mono (s : Session δ) (e : SessionEvent) :
    s.conn.scheduledDisconnects ≤ (s.step aes iv tc observer e).conn.scheduledDisconnects := by
  cases e with
  | write pt => simp [step]
  | writeRaw pt => simp [step]
  | drained => exact le_rfl
  | streamed => exact le_rfl
  | frame p => exact BleConnection.scheduledDisconnects_le_onNotify _ _ _ _ _

/-- Over a run of fresh frames an in-sync session stays in sync, and its
teardown is never scheduled exactly when every frame which meets an empty
buffer starts a message. -/
theorem selfHeal_run (aes : AesBlock) (iv : Iv) (tc : UInt8) (observer : Bytes → δ → δ)
    (s : Session δ) (events : List SessionEvent) (hsync : InSync iv s)
    (hfresh : StepsMeet (step aes iv tc observer) (FreshFrame aes iv tc) s events) :
    (run (step aes iv tc observer) s events).conn.rxCtr =
        (run (step aes iv tc observer) s events).deviceCtr ∧
      ((∀ k, (run (step aes iv tc observer) s (events.take k)).conn.scheduledDisconnects =
          s.conn.scheduledDisconnects) ↔
        StepsMeet (step aes iv tc observer) FirstFrameLeads s events) := by
  have hstep : ∀ (s : Session δ) e, InSync iv s → s.FreshFrame aes iv tc e →
      InSync iv (s.step aes iv tc observer e) := fun s e h hnew => h.step e hnew
  have hcount : ∀ (s : Session δ) e, InSync iv s → s.FreshFrame aes iv tc e →
      ((s.step aes iv tc observer e).conn.scheduledDisconnects = s.conn.scheduledDisconnects ↔
        s.FirstFrameLeads e) := fun s e h hnew => h.count_iff e hnew
  have hinv := run_invariant hstep hsync hfresh
  have hiff := fun k => run_count_eq_iff hstep scheduledDisconnects_mono hcount hsync
    (hfresh.take k)
  refine ⟨hinv.counter, fun hall => ?_, fun hlead k => (hiff k).mpr (hlead.take k)⟩
  have hlast := (hiff events.length).mp (hall events.length)
  rwa [List.take_length] at hlast

/-- A two-frame reply: the first frame starts the message, the second follows after
the drain has returned and its first four bytes are the middle of the body. -/
def splitReply : Body := ⟨List.replicate 16 0x08, by decide⟩

def splitReplyFrames : List Piece :=
  [⟨splitReply.frame.take 16, by decide⟩, ⟨splitReply.frame.drop 16, by decide⟩]

def pooled (δ : Type*) (dev : δ) : Session δ :=
  { conn := .afterHandshake (Vector.replicate 12 0) 0 7 (some MSG_HEADER), deviceCtr := 7, dev }

/-- The machine of these two runs: protobuf frames, any observer. -/
def pooledStep : Session Unit → SessionEvent → Session Unit :=
  step id (Vector.replicate 12 0) 0x11 fun _ dev => dev

def drainedAfter : List SessionEvent :=
  .write [0x01] :: splitReplyFrames.map .frame ++ [.drained]

def drainedBetween : List SessionEvent :=
  [.write [0x01], .frame splitReplyFrames[0], .drained, .frame splitReplyFrames[1]]

theorem selfHeal_run_drainedAfter :
    (run pooledStep (pooled Unit ()) drainedAfter).conn.rxCtr =
        (run pooledStep (pooled Unit ()) drainedAfter).deviceCtr ∧
      ((∀ k, (run pooledStep (pooled Unit ()) (drainedAfter.take k)).conn.scheduledDisconnects =
          (pooled Unit ()).conn.scheduledDisconnects) ↔
        StepsMeet pooledStep FirstFrameLeads (pooled Unit ()) drainedAfter) :=
  selfHeal_run id (Vector.replicate 12 0) 0x11 (fun _ dev => dev) (pooled Unit ()) drainedAfter
    ⟨rfl, rfl, rfl, rfl⟩ (by decide +kernel)

/-- The same reply with the drain between its frames: in sync, every frame fresh and
genuine, and yet torn down. -/
theorem selfHeal_tears_down_inSync :
    (splitReplyFrames.map Piece.pt).flatten = splitReply.frame ∧
      InSync (Vector.replicate 12 0) (pooled Unit ()) ∧
      StepsMeet pooledStep (FreshFrame id (Vector.replicate 12 0) 0x11) (pooled Unit ())
        drainedBetween ∧
      (run pooledStep (pooled Unit ()) drainedBetween).conn.rxCtr =
        (run pooledStep (pooled Unit ()) drainedBetween).deviceCtr ∧
      (run pooledStep (pooled Unit ()) drainedBetween).conn.scheduledDisconnects = 1 :=
  ⟨by decide +kernel, ⟨rfl, rfl, rfl, rfl⟩, by decide +kernel, by decide +kernel,
    by decide +kernel⟩

end Session
end OrbitBhyve.Connection
