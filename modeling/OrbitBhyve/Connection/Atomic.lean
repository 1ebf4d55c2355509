import OrbitBhyve.Connection.TxCounter

/-!
# Atomicity of `encrypt`

A cleared session is refused before the counter is touched. A plaintext above
255 bytes is not: the keystream step commits the counter, and only then does the
length byte of the frame raise. `probe_send` passes plaintexts of any length.
-/

namespace OrbitBhyve.Connection
namespace BleConnection

open Foundation Python Wire

variable {aes : AesBlock} {iv : Iv} {pt : Bytes} {c peer : BleConnection}

/-- The other end: it receives under the magic, the IV and the counter of the sender. -/
structure IsPeer (peer c : BleConnection) : Prop where
  magic : peer.frameMagic = c.frameMagic
  iv : peer.iv = c.iv
  counter : peer.rxCtr = c.txCtr

/-- The frame of an `encrypt` reads back as its plaintext at every peer. -/
def ReadBack (aes : AesBlock) (c : BleConnection) (pt frame : Bytes) : Prop :=
  ∀ peer, IsPeer peer c →
    decrypt aes frame peer = .ok (pt, { peer with rxCtr := c.txCtr + frameBlocks pt })

/-- `encrypt` raises with the counter where it was, or its frame reads back and both counters
have gone on by the blocks of the plaintext. -/
def EncryptsAtomically (aes : AesBlock) (c : BleConnection) (pt : Bytes) : Prop :=
  (∃ e, (c.encrypt aes pt).1 = .error e ∧ (c.encrypt aes pt).2.txCtr = c.txCtr) ∨
  ∃ frame, (c.encrypt aes pt).1 = .ok frame ∧
    (c.encrypt aes pt).2.txCtr = c.txCtr + frameBlocks pt ∧ ReadBack aes c pt frame

theorem encrypt_without_iv (hiv : c.iv = none) :
    c.encrypt aes pt = (.error .bleHandshakeError, c) := by
  unfold encrypt
  rw [hiv]

/-- A plaintext which does not fit the length byte is refused with the counter advanced. -/
theorem encrypt_too_long (hiv : c.iv = some iv) (hpt : 255 < pt.length) :
    c.encrypt aes pt = (.error .valueError, { c with txCtr := c.txCtr + frameBlocks pt }) := by
  have hlen : (aesXor aes iv c.txCtr pt).1.length = pt.length := length_aesXor aes iv _ _
  have hcount := aesXor_counter aes iv c.txCtr pt
  unfold encrypt
  simp only [hiv]
  rw [if_pos (by omega), hcount]

theorem readBack_sealFrame (hiv : c.iv = some iv) (hpt : pt.length ≤ 255) :
    ReadBack aes c pt (sealFrame aes iv c.frameMagic c.trailerConst c.txCtr pt) := by
  intro peer hpeer
  rw [← hpeer.magic, ← hpeer.counter]
  apply decrypt_sealFrame
  · rw [hpeer.iv]
    exact hiv
  · exact hpt

/-- `encrypt` is atomic exactly when the session is cleared, the plaintext fits the length
byte, or its blocks come to whole turns of the counter. -/
theorem encryptsAtomically_iff (aes : AesBlock) (c : BleConnection) (pt : Bytes) :
    EncryptsAtomically aes c pt ↔
      c.iv = none ∨ pt.length ≤ 255 ∨ 2 ^ 32 ∣ (pt.length + 15) / 16 := by
  unfold EncryptsAtomically
  cases hiv : c.iv with
  | none =>
    rw [encrypt_without_iv hiv]
    simp
  | some iv =>
    by_cases hpt : pt.length ≤ 255
    · rw [encrypt_eq_sealFrame hiv hpt]
      constructor
      · intro
        exact .inr (.inl hpt)
      · intro
        exact .inr ⟨_, rfl, rfl, readBack_sealFrame hiv hpt⟩
    · rw [encrypt_too_long hiv (Nat.lt_of_not_le hpt)]
      have hturns : c.txCtr + frameBlocks pt = c.txCtr ↔ 2 ^ 32 ∣ (pt.length + 15) / 16 := by
        rw [← eq_add_ofNat_iff c.txCtr]
        exact eq_comm
      constructor
      · rintro (⟨e, -, hctr⟩ | ⟨frame, hframe, -⟩)
        · exact .inr (.inr (hturns.mp hctr))
        · cases hframe
      · rintro (hnone | hfits | hdvd)
        · cases hnone
        · exact absurd hfits hpt
        · exact .inl ⟨_, rfl, hturns.mpr hdvd⟩

/-- The shortest plaintext which does not fit leaves the sender sixteen blocks ahead. -/
theorem encrypt_256_bytes :
    ((afterHandshake (Vector.replicate 12 0) 0 0 none).encrypt (fun block => block)
        (List.replicate 256 0)).2.txCtr = 16 ∧
      ¬ EncryptsAtomically (fun block => block) (afterHandshake (Vector.replicate 12 0) 0 0 none)
        (List.replicate 256 0) := by
  have hlong : 255 < (List.replicate 256 (0 : UInt8)).length := by
    rw [List.length_replicate]
    decide
  constructor
  · rw [encrypt_too_long rfl hlong]
    decide +kernel
  · rintro (⟨e, -, hctr⟩ | ⟨frame, hframe, -⟩)
    · rw [encrypt_too_long rfl hlong] at hctr
      exact absurd hctr (by decide +kernel)
    · rw [encrypt_too_long rfl hlong] at hframe
      cases hframe

end BleConnection
end OrbitBhyve.Connection
