import OrbitBhyve.Connection.Cipher

/-!
# Session state and the notification callback

`BleConnection` holds the fields of `BHyveBleConnection` which the callback,
the cipher and the buffer clears read or write. `hass.add_job(self.disconnect)`
only schedules the teardown, so it is a counter here. The plaintext observer is
a state transformer on the device; what it raises is swallowed by the callback.
-/

namespace OrbitBhyve.Connection

open Foundation Python Wire

structure BleConnection where
  frameMagic : UInt8
  trailerConst : UInt8
  replyHeader : Option Bytes
  iv : Option Iv
  txCtr : UInt32
  rxCtr : UInt32
  notifBuf : List Bytes
  notifPt : List Bytes
  lastRxFrame : Option Bytes
  handshaken : Bool
  /-- `hass.add_job(self.disconnect)` calls so far. -/
  scheduledDisconnects : ℕ
  deriving DecidableEq

namespace BleConnection

def afterHandshake (iv : Iv) (txCtr rxCtr : UInt32) (replyHeader : Option Bytes) :
    BleConnection where
  frameMagic := 0x11
  trailerConst := 0x11
  replyHeader := replyHeader
  iv := some iv
  txCtr := txCtr
  rxCtr := rxCtr
  notifBuf := []
  notifPt := []
  lastRxFrame := none
  handshaken := true
  scheduledDisconnects := 0

def scheduleDisconnect (c : BleConnection) : BleConnection :=
  { c with scheduledDisconnects := c.scheduledDisconnects + 1 }

/-- `_notif_buf.clear()` and `_notif_pt.clear()`, before a write and after `send_stream`. -/
def clearBuffers (c : BleConnection) : BleConnection := { c with notifBuf := [], notifPt := [] }

/-- `_notif_buf.clear()` alone, after the drain of `send` and `send_actuation`. -/
def clearNotifBuf (c : BleConnection) : BleConnection := { c with notifBuf := [] }

/-- `encrypt`. The counter is committed before the length byte is built, so a
plaintext above 255 bytes raises with the counter already advanced. -/
def encrypt (aes : AesBlock) (plaintext : Bytes) (c : BleConnection) :
    Except PyErr Bytes × BleConnection :=
  match c.iv with
  | none => (.error .bleHandshakeError, c)
  | some iv =>
    let (ct, tx) := aesXor aes iv c.txCtr plaintext
    let c := { c with txCtr := tx }
    if ct.length > 255 then (.error .valueError, c)
    else (.ok (outerFrame c.frameMagic c.trailerConst plaintext ct), c)

/-- `decrypt`. Without an IV the first keystream block fails on `None + bytes`. -/
def decrypt (aes : AesBlock) (frame : Bytes) (c : BleConnection) :
    Except PyErr (Bytes × BleConnection) :=
  if frame.length < 4 ∨ frame.head? ≠ some c.frameMagic then .error .valueError
  else
    let ctLen := (frame.getD 1 0).toNat
    let ct := (frame.drop 2).take ctLen
    match c.iv with
    | none => if ct.isEmpty then .ok ([], c) else .error .typeError
    | some iv =>
      let (pt, rx) := aesXor aes iv c.rxCtr ct
      .ok (pt, { c with rxCtr := rx })

/-- The header test of `_on_notify`: a plaintext of four bytes or more which
does not start with the expected reply header. -/
def badHeader (c : BleConnection) (pt : Bytes) : Bool :=
  match c.replyHeader with
  | none => false
  | some header => 4 ≤ pt.length && pt.take 4 != header

variable {δ : Type*}

def onNotify (aes : AesBlock) (observer : Bytes → δ → δ) (frame : Bytes)
    (s : BleConnection × δ) : BleConnection × δ :=
  let (c, d) := s
  -- an exact re-delivery of the previous frame is dropped before it is decrypted
  if c.lastRxFrame = some frame then (c, d)
  else
    let c := { c with lastRxFrame := some frame, notifBuf := c.notifBuf ++ [frame] }
    if !c.handshaken || c.iv.isNone then (c, d)
    else
      match decrypt aes frame c with
      | .error _ => (c.scheduleDisconnect, d)
      | .ok (pt, c) =>
        let c := { c with notifPt := c.notifPt ++ [pt] }
        if badHeader c pt then
          -- only the first frame after a clear is taken for the start of a reply
          if c.notifBuf.length ≤ 1 then (c.scheduleDisconnect, d) else (c, d)
        else (c, observer pt d)

/-- Every delivery of a burst in order. -/
def onNotifyAll (aes : AesBlock) (observer : Bytes → δ → δ) (frames : List Bytes)
    (s : BleConnection × δ) : BleConnection × δ :=
  frames.foldl (fun s frame => onNotify aes observer frame s) s

end BleConnection

namespace BleConnection

variable {δ : Type*} {aes : AesBlock} {iv : Iv}

/-- Encryption seals the plaintext at the transmit counter and advances it by its blocks. -/
theorem encrypt_eq_sealFrame {c : BleConnection} (hiv : c.iv = some iv) {pt : Bytes}
    (hpt : pt.length ≤ 255) :
    c.encrypt aes pt = (.ok (sealFrame aes iv c.frameMagic c.trailerConst c.txCtr pt),
      { c with txCtr := c.txCtr + frameBlocks pt }) := by
  have hlen : (aesXor aes iv c.txCtr pt).1.length = pt.length := length_aesXor aes iv _ _
  have hcount := aesXor_counter aes iv c.txCtr pt
  unfold encrypt
  simp only [hiv]
  rw [if_neg (by omega), hcount, sealFrame]

/-- A frame around any ciphertext is decrypted at the receive counter. -/
theorem decrypt_outerFrame {c : BleConnection} (hiv : c.iv = some iv) (tc : UInt8)
    (pt : Bytes) {ct : Bytes} (hct : ct.length ≤ 255) :
    decrypt aes (outerFrame c.frameMagic tc pt ct) c =
      .ok ((aesXor aes iv c.rxCtr ct).1, { c with rxCtr := c.rxCtr + frameBlocks ct }) := by
  have hbyte : (UInt8.ofNat ct.length).toNat = ct.length := toNat_ofNat_of_lt (by omega)
  have hcount := aesXor_counter aes iv c.rxCtr ct
  unfold decrypt
  rw [if_neg (by simp [outerFrame])]
  simp only [outerFrame, List.cons_append, List.nil_append, List.getD_cons_succ,
    List.getD_cons_zero, hbyte, List.drop_succ_cons, List.drop_zero, hiv, List.take_left, hcount]

/-- A frame sealed at the receive counter is decrypted and advances it by its blocks. -/
theorem decrypt_sealFrame {c : BleConnection} (hiv : c.iv = some iv) (tc : UInt8) {pt : Bytes}
    (hpt : pt.length ≤ 255) :
    decrypt aes (sealFrame aes iv c.frameMagic tc c.rxCtr pt) c =
      .ok (pt, { c with rxCtr := c.rxCtr + frameBlocks pt }) := by
  have hlen : (aesXor aes iv c.rxCtr pt).1.length = pt.length := length_aesXor aes iv _ _
  rw [sealFrame, decrypt_outerFrame hiv tc pt (by omega), aesXor_aesXor, frameBlocks, hlen,
    frameBlocks]

/-- The session after a fresh in-sync frame has been decrypted. -/
def received (c : BleConnection) (frame pt : Bytes) : BleConnection :=
  { c with
    lastRxFrame := some frame
    notifBuf := c.notifBuf ++ [frame]
    notifPt := c.notifPt ++ [pt]
    rxCtr := c.rxCtr + frameBlocks pt }

/-- What the callback does with a fresh in-sync frame: the plaintext is
buffered, then a bad header either schedules the teardown (empty buffer) or is
passed over, and anything else reaches the observer. -/
theorem onNotify_sealFrame (observer : Bytes → δ → δ) {c : BleConnection} (d : δ) (tc : UInt8)
    {pt : Bytes} (hhs : c.handshaken = true) (hiv : c.iv = some iv) (hpt : pt.length ≤ 255)
    (hnew : c.lastRxFrame ≠ some (sealFrame aes iv c.frameMagic tc c.rxCtr pt)) :
    onNotify aes observer (sealFrame aes iv c.frameMagic tc c.rxCtr pt) (c, d) =
      (let c' := c.received (sealFrame aes iv c.frameMagic tc c.rxCtr pt) pt
       if c.badHeader pt then
         if c.notifBuf = [] then (c'.scheduleDisconnect, d) else (c', d)
       else (c', observer pt d)) := by
  have hdec := @decrypt_sealFrame aes iv
    { c with
      lastRxFrame := some (sealFrame aes iv c.frameMagic tc c.rxCtr pt)
      notifBuf := c.notifBuf ++ [sealFrame aes iv c.frameMagic tc c.rxCtr pt] } hiv tc pt hpt
  unfold onNotify
  simp only [if_neg hnew]
  rw [if_neg (by simp [hhs, hiv]), hdec]
  have hbad : ∀ c', c'.replyHeader = c.replyHeader → badHeader c' pt = badHeader c pt := by
    intro c' h
    simp [badHeader, h]
  simp only
  rw [hbad _ rfl]
  have hbuf : (c.notifBuf ++ [sealFrame aes iv c.frameMagic tc c.rxCtr pt]).length ≤ 1 ↔
      c.notifBuf = [] := by
    simp
  simp only [hbuf]
  rfl

/-- A re-delivery of the previous frame changes nothing. -/
theorem onNotify_duplicate (observer : Bytes → δ → δ) {c : BleConnection} (d : δ) {frame : Bytes}
    (h : c.lastRxFrame = some frame) : onNotify aes observer frame (c, d) = (c, d) := by
  simp [onNotify, h]

theorem onNotifyAll_cons (observer : Bytes → δ → δ) (f : Bytes) (fs : List Bytes)
    (s : BleConnection × δ) :
    onNotifyAll aes observer (f :: fs) s =
      onNotifyAll aes observer fs (onNotify aes observer f s) :=
  rfl

theorem onNotifyAll_replicate (observer : Bytes → δ → δ) {c : BleConnection} (d : δ)
    {frame : Bytes} (h : c.lastRxFrame = some frame) (n : ℕ) :
    onNotifyAll aes observer (List.replicate n frame) (c, d) = (c, d) := by
  induction n with
  | zero => rfl
  | succ n ih => rw [List.replicate_succ, onNotifyAll_cons, onNotify_duplicate observer d h, ih]

theorem onNotifyAll_append (observer : Bytes → δ → δ) (fs gs : List Bytes)
    (s : BleConnection × δ) :
    onNotifyAll aes observer (fs ++ gs) s =
      onNotifyAll aes observer gs (onNotifyAll aes observer fs s) :=
  List.foldl_append

end BleConnection
end OrbitBhyve.Connection
