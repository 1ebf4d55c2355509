import OrbitBhyve.Foundation.CounterMode
import OrbitBhyve.Wire.Message

/-!
# Session cipher

AES-ECB used as a counter-mode keystream: block `IV(12) || ctr_LE(4)`, encrypted
and XORed with the plaintext. The block function is a parameter (`cryptography`
is a third-party package); it maps sixteen bytes to sixteen bytes. Counters are
masked to 32 bits in the source, hence `UInt32`.

Frame: `[magic][len][ciphertext (len bytes)][trailer u16_LE]`.
-/

namespace OrbitBhyve.Connection

open Foundation Python Wire

abbrev AesBlock := Vector UInt8 16 → Vector UInt8 16
abbrev Iv := Vector UInt8 12

/-- `struct.pack("<I", c)`. -/
def packU32 (c : UInt32) : Vector UInt8 4 :=
  #v[c.toUInt8, (c >>> 8).toUInt8, (c >>> 16).toUInt8, (c >>> 24).toUInt8]

theorem packU32_injective : Function.Injective packU32 := by
  intro c c' h
  have hbyte : ∀ k : UInt32, (c >>> k).toUInt8 = (c' >>> k).toUInt8 →
      c.toNat >>> (k.toNat % 32) % 256 = c'.toNat >>> (k.toNat % 32) % 256 := by
    intro k hk
    simpa using congrArg UInt8.toNat hk
  simp only [packU32, Vector.mk.injEq, Array.mk.injEq, List.cons.injEq, and_true] at h
  obtain ⟨h₀, h₁, h₂, h₃⟩ := h
  have hbyte₀ : c.toNat % 256 = c'.toNat % 256 := by simpa using congrArg UInt8.toNat h₀
  have hbyte₁ := hbyte 8 h₁
  have hbyte₂ := hbyte 16 h₂
  have hbyte₃ := hbyte 24 h₃
  simp [Nat.shiftRight_eq_div_pow] at hbyte₁ hbyte₂ hbyte₃
  have hlt := c.toNat_lt
  have hlt' := c'.toNat_lt
  exact UInt32.toNat_inj.mp (by omega)

/-- One keystream block: the encrypted `iv || counter`. -/
def aesBlock (aes : AesBlock) (iv : Iv) (c : UInt32) : Bytes := (aes (iv ++ packU32 c)).toList

def aesKeystream (aes : AesBlock) (iv : Iv) (counter : UInt32) (nBlocks : ℕ) : Bytes × UInt32 :=
  keystream (aesBlock aes iv) (· + 1) counter nBlocks

def aesXor (aes : AesBlock) (iv : Iv) (counter : UInt32) (plaintext : Bytes) : Bytes × UInt32 :=
  let (stream, nextCtr) := aesKeystream aes iv counter ((plaintext.length + 15) / 16)
  (List.zipWith (· ^^^ ·) plaintext (stream.take plaintext.length), nextCtr)

theorem aesXor_eq (aes : AesBlock) (iv : Iv) (counter : UInt32) (plaintext : Bytes) :
    aesXor aes iv counter plaintext =
      ctrApply (· ^^^ ·) (aesBlock aes iv) (· + 1) 16 counter plaintext := rfl

/-- The blocks one frame advances the counter by. -/
def frameBlocks (pt : Bytes) : UInt32 := UInt32.ofNat ((pt.length + 15) / 16)

/-- The outer frame around a ciphertext, as `encrypt` returns it. -/
def outerFrame (magic trailerConst : UInt8) (plaintext ct : Bytes) : Bytes :=
  let trailer := (plaintext.map UInt8.toNat).sum + trailerConst.toNat + plaintext.length
  [magic, UInt8.ofNat ct.length] ++ ct ++ packU16 (BitVec.ofNat 16 trailer)

/-- A plaintext sealed at a counter value, by either side of the session. -/
def sealFrame (aes : AesBlock) (iv : Iv) (magic trailerConst : UInt8) (counter : UInt32)
    (plaintext : Bytes) : Bytes :=
  outerFrame magic trailerConst plaintext (aesXor aes iv counter plaintext).1

theorem length_aesBlock (aes : AesBlock) (iv : Iv) (c : UInt32) :
    (aesBlock aes iv c).length = 16 := by
  simp [aesBlock]

theorem length_aesXor (aes : AesBlock) (iv : Iv) (c : UInt32) (pt : Bytes) :
    (aesXor aes iv c pt).1.length = pt.length :=
  ctrApply_length (length_aesBlock aes iv) (by decide) c pt

theorem iterate_succ_uint32 (n : ℕ) (c : UInt32) : (· + 1)^[n] c = c + UInt32.ofNat n := by
  induction n generalizing c with
  | zero => simp
  | succ n ih =>
    rw [Function.iterate_succ_apply, ih, UInt32.ofNat_add]
    ac_rfl

/-- The first byte of a text meets the first byte of the block of its counter. -/
theorem head?_aesXor (aes : AesBlock) (iv : Iv) (c : UInt32) (b : UInt8) (pt : Bytes) :
    (aesXor aes iv c (b :: pt)).1.head? = some (b ^^^ (aes (iv ++ packU32 c)).get 0) := by
  rw [aesXor_eq, head?_ctrApply (length_aesBlock aes iv) (by decide), aesBlock,
    List.head?_eq_getElem?]
  simp only [Vector.getElem?_toList, Nat.ofNat_pos, Vector.getElem?_eq_getElem, Option.map_some]
  rfl

theorem aesXor_counter (aes : AesBlock) (iv : Iv) (c : UInt32) (pt : Bytes) :
    (aesXor aes iv c pt).2 = c + frameBlocks pt := by
  rw [aesXor_eq, ctrApply_snd, iterate_succ_uint32]
  rfl

/-- Decryption at the counter of encryption restores the plaintext. -/
theorem aesXor_aesXor (aes : AesBlock) (iv : Iv) (c : UInt32) (pt : Bytes) :
    (aesXor aes iv c (aesXor aes iv c pt).1).1 = pt := by
  refine ctrApply_ctrApply (fun a k => ?_) (length_aesBlock aes iv) (by decide) c pt
  rw [UInt8.xor_assoc, UInt8.xor_self, UInt8.xor_zero]

end OrbitBhyve.Connection
