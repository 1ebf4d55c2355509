import OrbitBhyve.Wire.Varint
import Mathlib.Tactic

/-!
# Base64 and hex

`base64.b64decode` in its lenient mode, which skips what is outside of the
alphabet and reads nothing after the padding of a group, with `bytes.hex` and
`bytes.fromhex`.
-/

namespace OrbitBhyve.Python

open Wire

/-! ## Base64 -/

def b64Value (c : Char) : Option ℕ :=
  if c.isUpper then some (c.toNat - 0x41)
  else if c.isLower then some (c.toNat - 0x61 + 26)
  else if c.isDigit then some (c.toNat - 0x30 + 52)
  else if c = '+' then some 62
  else if c = '/' then some 63
  else none

/-- The loop of `binascii.a2b_base64`: where the group is, the bits which wait for the next
character, and the padding since the last one. -/
def a2bBase64 : List Char → ℕ → ℕ → ℕ → Option Bytes
  | [], quadPos, _, _ => if quadPos = 0 then some [] else none
  | c :: cs, quadPos, leftchar, pads =>
    if c = '=' then
      if quadPos < 2 then a2bBase64 cs quadPos leftchar pads
      else if 4 ≤ quadPos + (pads + 1) then some []
      else a2bBase64 cs quadPos leftchar (pads + 1)
    else
      match b64Value c with
      | none => a2bBase64 cs quadPos leftchar pads
      | some v =>
        match quadPos with
        | 0 => a2bBase64 cs 1 v 0
        | 1 => (a2bBase64 cs 2 (v &&& 0x0F) 0).map (UInt8.ofNat (leftchar <<< 2 ||| v >>> 4) :: ·)
        | 2 => (a2bBase64 cs 3 (v &&& 0x03) 0).map (UInt8.ofNat (leftchar <<< 4 ||| v >>> 2) :: ·)
        | _ => (a2bBase64 cs 0 0 0).map (UInt8.ofNat (leftchar <<< 6 ||| v) :: ·)

/-- `base64.b64decode(text)`; `none` is a `ValueError`, as for a text that is not ASCII. -/
def b64decode (text : String) : Option Bytes :=
  if text.toList.all fun c => c.toNat < 128 then a2bBase64 text.toList 0 0 0 else none

def b64Alphabet : List Char :=
  "ABCDEFGHIJKLMNOPQRSTUVWXYZabcdefghijklmnopqrstuvwxyz0123456789+/".toList

def b64Char (v : ℕ) : Char := b64Alphabet.getD v '='

/-- `base64.b64encode(data)`. -/
def b64encode : Bytes → List Char
  | [] => []
  | [a] => [b64Char (a.toNat / 4), b64Char (a.toNat % 4 * 16), '=', '=']
  | [a, b] =>
    [b64Char (a.toNat / 4), b64Char (a.toNat % 4 * 16 + b.toNat / 16),
      b64Char (b.toNat % 16 * 4), '=']
  | a :: b :: c :: data =>
    b64Char (a.toNat / 4) :: b64Char (a.toNat % 4 * 16 + b.toNat / 16) ::
      b64Char (b.toNat % 16 * 4 + c.toNat / 64) :: b64Char (c.toNat % 64) :: b64encode data

/-- What `a2b_base64` does not skip. -/
def isB64 (c : Char) : Bool := c == '=' || (b64Value c).isSome

theorem b64Value_b64Char {v : ℕ} (h : v < 64) : b64Value (b64Char v) = some v := by
  have : ∀ i : Fin 64, b64Value (b64Char i.val) = some i.val := by decide +kernel
  exact this ⟨v, h⟩

theorem b64Char_ne_pad {v : ℕ} (h : v < 64) : b64Char v ≠ '=' := by
  have : ∀ i : Fin 64, b64Char i.val ≠ '=' := by decide +kernel
  exact this ⟨v, h⟩

/-- The high bits and the low ones of a byte. -/
theorem shiftLeft_or {hi lo k : ℕ} (h : lo < 2 ^ k) : hi <<< k ||| lo = hi * 2 ^ k + lo := by
  rw [← Nat.shiftLeft_add_eq_or_of_lt h, Nat.shiftLeft_eq]

section Read

variable {cs : List Char} {leftchar pads v : ℕ}

theorem a2bBase64_first (hv : v < 64) :
    a2bBase64 (b64Char v :: cs) 0 leftchar pads = a2bBase64 cs 1 v 0 := by
  rw [a2bBase64, if_neg (b64Char_ne_pad hv), b64Value_b64Char hv]
  rfl

theorem a2bBase64_second (hv : v < 64) :
    a2bBase64 (b64Char v :: cs) 1 leftchar pads =
      (a2bBase64 cs 2 (v % 16) 0).map (UInt8.ofNat (leftchar * 4 + v / 16) :: ·) := by
  have hand : v &&& 0x0F = v % 16 := Nat.and_two_pow_sub_one_eq_mod v 4
  have hor : leftchar <<< 2 ||| v >>> 4 = leftchar * 4 + v / 16 := by
    rw [Nat.shiftRight_eq_div_pow, shiftLeft_or (by omega)]
    norm_num
  rw [a2bBase64, if_neg (b64Char_ne_pad hv), b64Value_b64Char hv, ← hand, ← hor]
  rfl

theorem a2bBase64_third (hv : v < 64) :
    a2bBase64 (b64Char v :: cs) 2 leftchar pads =
      (a2bBase64 cs 3 (v % 4) 0).map (UInt8.ofNat (leftchar * 16 + v / 4) :: ·) := by
  have hand : v &&& 0x03 = v % 4 := Nat.and_two_pow_sub_one_eq_mod v 2
  have hor : leftchar <<< 4 ||| v >>> 2 = leftchar * 16 + v / 4 := by
    rw [Nat.shiftRight_eq_div_pow, shiftLeft_or (by omega)]
    norm_num
  rw [a2bBase64, if_neg (b64Char_ne_pad hv), b64Value_b64Char hv, ← hand, ← hor]
  rfl

theorem a2bBase64_fourth (hv : v < 64) :
    a2bBase64 (b64Char v :: cs) 3 leftchar pads =
      (a2bBase64 cs 0 0 0).map (UInt8.ofNat (leftchar * 64 + v) :: ·) := by
  have hor : leftchar <<< 6 ||| v = leftchar * 64 + v := shiftLeft_or hv
  rw [a2bBase64, if_neg (b64Char_ne_pad hv), b64Value_b64Char hv, ← hor]
  rfl

end Read

theorem a2bBase64_b64encode (data : Bytes) : a2bBase64 (b64encode data) 0 0 0 = some data := by
  induction data using b64encode.induct with
  | case1 => rfl
  | case2 a =>
    have ha := a.toNat_lt
    have hfirst : a.toNat / 4 * 4 + a.toNat % 4 * 16 / 16 = a.toNat := by omega
    rw [b64encode, a2bBase64_first (by omega), a2bBase64_second (by omega), hfirst,
      UInt8.ofNat_toNat]
    rfl
  | case3 a b =>
    have ha := a.toNat_lt
    have hb := b.toNat_lt
    have hfirst : a.toNat / 4 * 4 + (a.toNat % 4 * 16 + b.toNat / 16) / 16 = a.toNat := by omega
    have hsecond :
        (a.toNat % 4 * 16 + b.toNat / 16) % 16 * 16 + b.toNat % 16 * 4 / 4 = b.toNat := by
      omega
    rw [b64encode, a2bBase64_first (by omega), a2bBase64_second (by omega),
      a2bBase64_third (by omega), hfirst, hsecond, UInt8.ofNat_toNat, UInt8.ofNat_toNat]
    rfl
  | case4 a b c data ih =>
    have ha := a.toNat_lt
    have hb := b.toNat_lt
    have hc := c.toNat_lt
    have hfirst : a.toNat / 4 * 4 + (a.toNat % 4 * 16 + b.toNat / 16) / 16 = a.toNat := by omega
    have hsecond : (a.toNat % 4 * 16 + b.toNat / 16) % 16 * 16 +
        (b.toNat % 16 * 4 + c.toNat / 64) / 4 = b.toNat := by omega
    have hthird : (b.toNat % 16 * 4 + c.toNat / 64) % 4 * 64 + c.toNat % 64 = c.toNat := by omega
    rw [b64encode, a2bBase64_first (by omega), a2bBase64_second (by omega),
      a2bBase64_third (by omega), a2bBase64_fourth (by omega), hfirst, hsecond, hthird,
      UInt8.ofNat_toNat, UInt8.ofNat_toNat, UInt8.ofNat_toNat, ih]
    rfl

/-- Line breaks and the like do not matter. -/
theorem a2bBase64_filter (cs : List Char) (quadPos leftchar pads : ℕ) :
    a2bBase64 (cs.filter isB64) quadPos leftchar pads = a2bBase64 cs quadPos leftchar pads := by
  induction cs generalizing quadPos leftchar pads with
  | nil => rfl
  | cons c cs ih =>
    by_cases hpad : c = '='
    · subst hpad
      have hkeep : isB64 '=' = true := rfl
      rw [List.filter_cons_of_pos hkeep, a2bBase64, a2bBase64, if_pos rfl, if_pos rfl, ih, ih]
    · cases hvalue : b64Value c with
      | none =>
        have hskip : ¬ isB64 c = true := by simp [isB64, hpad, hvalue]
        rw [List.filter_cons_of_neg hskip, ih, a2bBase64, if_neg hpad, hvalue]
      | some v =>
        have hkeep : isB64 c = true := by simp [isB64, hvalue]
        rw [List.filter_cons_of_pos hkeep, a2bBase64, a2bBase64, if_neg hpad, if_neg hpad, hvalue]
        dsimp only
        split <;> rw [ih]

/-- A text with the characters of an encoding, and others of ASCII between them, decodes. -/
theorem b64decode_of_filter {text : String} {data : Bytes}
    (hascii : ∀ c ∈ text.toList, c.toNat < 128) (h : text.toList.filter isB64 = b64encode data) :
    b64decode text = some data := by
  rw [b64decode, if_pos (by simpa using hascii), ← a2bBase64_filter, h, a2bBase64_b64encode]

/-! ## Hex -/

def hexDigits (b : UInt8) : List Char :=
  [Nat.digitChar (b.toNat / 16), Nat.digitChar (b.toNat % 16)]

/-- `data.hex()`. -/
def hexText (data : Bytes) : String := String.ofList (data.flatMap hexDigits)

def hexDigit (c : Char) : Option ℕ :=
  if c.isDigit then some (c.toNat - 0x30)
  else if 'a' ≤ c ∧ c ≤ 'f' then some (c.toNat - 0x57)
  else if 'A' ≤ c ∧ c ≤ 'F' then some (c.toNat - 0x37)
  else none

/-- White space of ASCII, which `fromhex` skips between bytes. -/
def isHexSpace (c : Char) : Bool := c == ' ' || (0x09 ≤ c.toNat && c.toNat ≤ 0x0D)

def fromHexChars : List Char → Option Bytes
  | [] => some []
  | [c] => if isHexSpace c then some [] else none
  | c :: d :: cs =>
    if isHexSpace c then fromHexChars (d :: cs)
    else do
      let top ← hexDigit c
      let bot ← hexDigit d
      let data ← fromHexChars cs
      return UInt8.ofNat (top <<< 4 ||| bot) :: data

/-- `bytes.fromhex(text)`; `none` is a `ValueError`. -/
def fromHex (text : String) : Option Bytes := fromHexChars text.toList

theorem hexDigit_digitChar {d : ℕ} (h : d < 16) :
    isHexSpace (Nat.digitChar d) = false ∧ hexDigit (Nat.digitChar d) = some d := by
  have : ∀ i : Fin 16, isHexSpace (Nat.digitChar i.val) = false ∧
      hexDigit (Nat.digitChar i.val) = some i.val := by decide +kernel
  exact this ⟨d, h⟩

theorem fromHexChars_hexDigits (data : Bytes) :
    fromHexChars (data.flatMap hexDigits) = some data := by
  induction data with
  | nil => rfl
  | cons b data ih =>
    have hb := b.toNat_lt
    obtain ⟨hspace, htop⟩ := hexDigit_digitChar (d := b.toNat / 16) (by omega)
    obtain ⟨-, hbot⟩ := hexDigit_digitChar (d := b.toNat % 16) (by omega)
    have hbyte : (b.toNat / 16) <<< 4 ||| b.toNat % 16 = b.toNat := by
      rw [shiftLeft_or (by omega)]
      omega
    rw [List.flatMap_cons, hexDigits, List.cons_append, List.cons_append, List.nil_append,
      fromHexChars, hspace, if_neg Bool.false_ne_true, htop, hbot, ih]
    simp only [Option.bind_eq_bind, Option.bind_some, hbyte, UInt8.ofNat_toNat]
    rfl

theorem fromHex_hexText (data : Bytes) : fromHex (hexText data) = some data := by
  rw [fromHex, hexText, String.toList_ofList, fromHexChars_hexDigits]

end OrbitBhyve.Python
