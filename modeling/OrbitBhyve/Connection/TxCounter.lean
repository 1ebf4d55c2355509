import OrbitBhyve.Connection.Tasks

/-!
# Agreement of the transmit counter

`encrypt` commits the transmit counter before the write is attempted. A write
which raises with the link up therefore leaves a session whose counter is ahead
of the device's by the blocks of the frame which the device never got, and
`is_connected` and `_handshaken` keep the session in use.
-/

namespace OrbitBhyve.Connection

open Foundation Python Wire

/-- How the GATT write of a `send` ends while the link stays up. -/
inductive Delivery where
  /-- The frame is delivered, and the write response comes in time. -/
  | acked
  /-- The frame is delivered, and the wait for the response runs into its limit. -/
  | unacked
  /-- The frame is not delivered. -/
  | lost
  deriving DecidableEq

def Delivery.outcome : Delivery → Outcome
  | acked => .done []
  | unacked => .raised .timeoutError
  | lost => .raised .bleakError

/-- A `send` and what becomes of its write. -/
structure Sending extends Piece where
  nonempty : 1 ≤ pt.length
  delivery : Delivery

def Sending.blocks (x : Sending) : ℕ := (x.pt.length + 15) / 16

/-- The blocks by which the counters of the two ends move apart. -/
def Sending.lostBlocks (x : Sending) : ℕ := if x.delivery = .lost then x.blocks else 0

/-- The connection and the counter of the device at the other end. -/
structure Ends where
  link : Link
  deviceCtr : UInt32

namespace Ends

def frame (S : Setting) (e : Ends) (x : Sending) : Except PyErr Bytes :=
  (e.link.conn.clearBuffers.encrypt S.aes x.pt).1

/-- What that frame decrypts to at the counter of the device. -/
def opened (S : Setting) (e : Ends) (x : Sending) : Except PyErr Bytes :=
  (e.frame S x).bind fun frame =>
    ({ e.link.conn with rxCtr := e.deviceCtr }.decrypt S.aes frame).map Prod.fst

/-- A `send`, from the lock to the end of its write or drain. -/
def step (S : Setting) (e : Ends) (x : Sending) : Ends where
  link := (e.link.step S (.call (.send x.pt))).step S (.resume x.delivery.outcome)
  deviceCtr := if x.delivery = .lost then e.deviceCtr else e.deviceCtr + frameBlocks x.pt

/-- A delivered frame decrypts to what was sent. -/
def Agrees (S : Setting) (e : Ends) (x : Sending) : Prop :=
  x.delivery ≠ .lost → e.opened S x = .ok x.pt

instance (S : Setting) (e : Ends) (x : Sending) : Decidable (e.Agrees S x) :=
  inferInstanceAs (Decidable (_ → _))

end Ends

/-- A handshaken session which no locked operation is using. -/
structure Link.InSession (iv : Iv) (s : Link) : Prop where
  free : s.holder = none
  up : s.isConnected = true
  handshaken : s.conn.handshaken = true
  iv : s.conn.iv = some iv

namespace Link.InSession

variable {S : Setting} {iv : Iv} {s : Link}

theorem step_call (h : s.InSession iv) (p : Piece) :
    s.step S (.call (.send p.pt)) =
      { s with
        ended := none
        conn := { s.conn.clearBuffers with txCtr := s.conn.txCtr + frameBlocks p.pt }
        holder := some .commanding } := by
  have henc := @BleConnection.encrypt_eq_sealFrame S.aes iv s.conn.clearBuffers h.iv p.pt p.fits
  have hclient : s.client.isNone = false := by
    have hup := h.up
    unfold Link.isConnected at hup
    split at hup
    · cases hup
    · next c hc => rw [hc]; rfl
  have hready : (({ s with ended := none } : Link).isConnected && s.conn.handshaken) = true :=
    Bool.and_eq_true_iff.mpr ⟨h.up, h.handshaken⟩
  dsimp only [Link.step]
  rw [h.free, if_pos (by decide)]
  dsimp only [Link.call, Link.ensureConnected]
  rw [if_pos hready]
  dsimp only [Link.ensured, Link.command, Link.writeThen, Link.beginWrite]
  rw [henc]
  dsimp only
  rw [hclient]
  rfl

theorem commandDone (hup : s.isConnected = true) (hhs : s.conn.handshaken = true)
    (hiv : s.conn.iv = some iv) :
    (s.commandDone S).InSession iv ∧ (s.commandDone S).conn.txCtr = s.conn.txCtr := by
  unfold Link.commandDone Link.armIdleTimer
  split_ifs
  · exact ⟨⟨rfl, hup, hhs, hiv⟩, rfl⟩
  · exact ⟨⟨rfl, hup, hhs, hiv⟩, rfl⟩
  · exact ⟨⟨rfl, hup, hhs, hiv⟩, rfl⟩

/-- A `send` leaves a session, its counter ahead by the blocks of the plaintext whatever
has become of the write. -/
theorem step_send (h : s.InSession iv) (x : Sending) :
    ((s.step S (.call (.send x.pt))).step S (.resume x.delivery.outcome)).InSession iv ∧
      ((s.step S (.call (.send x.pt))).step S (.resume x.delivery.outcome)).conn.txCtr =
        s.conn.txCtr + frameBlocks x.pt := by
  rw [h.step_call x.toPiece]
  dsimp only [Link.step, Link.resume]
  cases x.delivery with
  | acked => exact commandDone h.up h.handshaken h.iv
  | unacked => exact commandDone h.up h.handshaken h.iv
  | lost => exact ⟨⟨rfl, h.up, h.handshaken, h.iv⟩, rfl⟩

end Link.InSession

/-! ## Agreement at one `send` -/

/-- A block function which tells one counter of a session from the others. -/
def marking (iv : Iv) (c : UInt32) : AesBlock := fun block =>
  if block = iv ++ packU32 c then Vector.replicate 16 0 else Vector.replicate 16 1

theorem eq_of_marking_eq (iv : Iv) {c c' : UInt32}
    (h : (marking iv c (iv ++ packU32 c')).get 0 = (marking iv c (iv ++ packU32 c)).get 0) :
    c' = c := by
  by_contra hne
  have hblock : iv ++ packU32 c' ≠ iv ++ packU32 c := fun heq =>
    hne (packU32_injective (Vector.append_inj_right heq))
  unfold marking at h
  rw [if_neg hblock, if_pos rfl] at h
  exact absurd h (by decide)

theorem eq_add_ofNat_iff (c : UInt32) (n : ℕ) : c = c + UInt32.ofNat n ↔ 2 ^ 32 ∣ n := by
  have hlt := c.toNat_lt
  rw [← UInt32.toNat_inj, UInt32.toNat_add, UInt32.toNat_ofNat']
  omega

/-- A text combined at one counter and then at another is itself, for every block function,
only if the counters are the same. -/
theorem eq_of_aesXor_eq (iv : Iv) {c c' : UInt32} {pt : Bytes} (hpt : 1 ≤ pt.length)
    (h : ∀ aes, (aesXor aes iv c' (aesXor aes iv c pt).1).1 = pt) : c' = c := by
  have hmark := h (marking iv c)
  cases pt with
  | nil => simp at hpt
  | cons b pt =>
    have hfirst := head?_aesXor (marking iv c) iv c b pt
    obtain ⟨b', ct, hct⟩ : ∃ b' ct, (aesXor (marking iv c) iv c (b :: pt)).1 = b' :: ct :=
      List.exists_cons_of_length_pos (by rw [length_aesXor]; simp)
    rw [hct, List.head?_cons, Option.some.injEq] at hfirst
    have hsecond := head?_aesXor (marking iv c) iv c' b' ct
    rw [← hct, hmark, List.head?_cons, Option.some.injEq, hfirst] at hsecond
    refine eq_of_marking_eq iv ((UInt8.xor_right_inj
      (b ^^^ (marking iv c (iv ++ packU32 c)).get 0)).mp ?_)
    rw [← hsecond, UInt8.xor_assoc, UInt8.xor_self, UInt8.xor_zero]

namespace Ends

variable {S : Setting} {iv : Iv} {e : Ends}

theorem opened_eq (h : e.link.InSession iv) (x : Sending) :
    e.opened S x = .ok
      (aesXor S.aes iv e.deviceCtr (aesXor S.aes iv e.link.conn.txCtr x.pt).1).1 := by
  have henc := @BleConnection.encrypt_eq_sealFrame S.aes iv e.link.conn.clearBuffers h.iv
    x.pt x.fits
  have hlen := length_aesXor S.aes iv e.link.conn.txCtr x.pt
  have hdec := @BleConnection.decrypt_outerFrame S.aes iv
    { e.link.conn with rxCtr := e.deviceCtr } h.iv e.link.conn.trailerConst x.pt
    (aesXor S.aes iv e.link.conn.txCtr x.pt).1 (by rw [hlen]; exact x.fits)
  unfold opened frame
  rw [henc]
  exact congrArg (Except.map Prod.fst) hdec

/-- The counters of the two ends are the lost blocks apart, whatever the block function. -/
def Apart (iv : Iv) (E : AesBlock → Ends) (lost : ℕ) : Prop :=
  ∃ c, ∀ aes, (E aes).link.InSession iv ∧ (E aes).link.conn.txCtr = c + UInt32.ofNat lost ∧
    (E aes).deviceCtr = c

variable {E : AesBlock → Ends} {lost : ℕ}

/-- A delivered frame is read as it was sent exactly when the counters agree. -/
theorem Apart.agrees_iff (h : Apart iv E lost) (x : Sending) :
    (∀ aes, (E aes).Agrees { S with aes := aes } x) ↔ (x.delivery ≠ .lost → 2 ^ 32 ∣ lost) := by
  obtain ⟨c, h⟩ := h
  constructor
  · intro hall hdelivered
    refine (eq_add_ofNat_iff c lost).mp (eq_of_aesXor_eq iv x.nonempty fun aes => ?_)
    obtain ⟨hsession, htx, hdevice⟩ := h aes
    have hopened := hall aes hdelivered
    rw [opened_eq hsession, htx, hdevice] at hopened
    exact Except.ok.inj hopened
  · intro hturns aes hdelivered
    obtain ⟨hsession, htx, hdevice⟩ := h aes
    rw [opened_eq hsession, htx, hdevice,
      ← (eq_add_ofNat_iff c lost).mpr (hturns hdelivered), aesXor_aesXor]

theorem Apart.step (h : Apart iv E lost) (x : Sending) :
    Apart iv (fun aes => (E aes).step { S with aes := aes } x) (lost + x.lostBlocks) := by
  obtain ⟨c, h⟩ := h
  refine ⟨if x.delivery = .lost then c else c + frameBlocks x.pt, fun aes => ?_⟩
  obtain ⟨hsession, htx, hdevice⟩ := h aes
  obtain ⟨hsession', htx'⟩ := @Link.InSession.step_send { S with aes := aes } iv _ hsession x
  refine ⟨hsession', htx'.trans ?_, ?_⟩
  · rw [htx, Sending.lostBlocks]
    split_ifs
    · rw [UInt32.ofNat_add, UInt32.add_assoc]
      rfl
    · rw [Nat.add_zero]
      ac_rfl
  · dsimp only [Ends.step]
    rw [hdevice]

/-- Before each delivered `send`, the lost blocks come to whole turns of the counter. -/
def WholeTurns (xs : List Sending) : Prop :=
  ∀ before x after, xs = before ++ x :: after → x.delivery ≠ .lost →
    2 ^ 32 ∣ (before.map Sending.lostBlocks).sum

/-- Every delivered frame decrypts at the counter of the device to what was sent, for every
block function, exactly when no blocks but whole turns of the counter are lost before it. -/
theorem agrees_iff_wholeTurns (S : Setting) (h : e.link.InSession iv)
    (hctr : e.deviceCtr = e.link.conn.txCtr) (xs : List Sending) :
    (∀ aes, StepsMeet (step { S with aes := aes }) (Agrees { S with aes := aes }) e xs) ↔
      WholeTurns xs := by
  have hsim := @stepsMeet_iff_of_simulation (AesBlock → Ends) Sending
    (fun E x aes => (E aes).step { S with aes := aes } x) ℕ (fun lost x => lost + x.lostBlocks)
    (fun E x => ∀ aes, (E aes).Agrees { S with aes := aes } x)
    (fun lost x => x.delivery ≠ .lost → 2 ^ 32 ∣ lost) (Apart iv)
    (fun _ _ x h => h.agrees_iff x) (fun _ _ x h => h.step x)
  have hstart : Apart iv (fun _ => e) 0 := ⟨e.deviceCtr, fun _ => ⟨h, by simp [hctr], rfl⟩⟩
  rw [forall_stepsMeet_iff, hsim hstart, stepsMeet_iff_forall_append]
  refine forall_congr' fun before => ?_
  rw [run_add, Nat.zero_add]

/-! ### A lost write -/

def afterFirst : Ends where
  link := run (Link.step Link.plainSetting) Link.plainLink (Link.opensAndWrites ++ [.resume (.done [])])
  deviceCtr := 0x07070708

def firstIv : Iv := ivOf ((handshakeBuf (Vector.replicate 20 7) Link.goodReply).take 12)

theorem inSession_afterFirst : afterFirst.link.InSession firstIv where
  free := Option.isNone_iff_eq_none.mp (by decide +kernel)
  up := by decide +kernel
  handshaken := by decide +kernel
  iv := by decide +kernel

def oneByte (delivery : Delivery) : Sending where
  pt := [0x01]
  fits := by decide
  nonempty := by decide
  delivery := delivery

theorem agrees_iff_wholeTurns_unacked :
    (∀ aes, StepsMeet (step { Link.plainSetting with aes := aes })
      (Agrees { Link.plainSetting with aes := aes }) afterFirst [oneByte .unacked, oneByte .acked]) ↔
      WholeTurns [oneByte .unacked, oneByte .acked] :=
  agrees_iff_wholeTurns Link.plainSetting inSession_afterFirst (by decide +kernel) _

def lowByteSetting : Setting :=
  { Link.plainSetting with aes := fun block => Vector.replicate 16 (block.get 12) }

/-- After a lost write the next frame is sealed a block ahead of the device. -/
theorem lost_write_desyncs :
    afterFirst.deviceCtr = afterFirst.link.conn.txCtr ∧
      (afterFirst.step lowByteSetting (oneByte .lost)).opened lowByteSetting (oneByte .acked) =
        .ok [0x00] ∧
      ¬ StepsMeet (step lowByteSetting) (Agrees lowByteSetting) afterFirst
        [oneByte .lost, oneByte .acked] := by
  refine ⟨?_, ?_, ?_⟩ <;> decide +kernel

end Ends
end OrbitBhyve.Connection
