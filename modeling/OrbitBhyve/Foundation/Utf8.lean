import OrbitBhyve.Foundation.Parsing

/-!
# UTF-8 with replacement

Decoding of arbitrary bytes in which every maximal ill-formed prefix becomes
one replacement character, the behaviour of `bytes.decode(errors="replace")`.
The bounds on the second byte of a sequence rule out overlong forms,
surrogates and code points above the last plane. Whatever was encoded from
characters is decoded to them.
-/

namespace OrbitBhyve.Foundation.Utf8

def replacement : Char := '\uFFFD'

/-- For a lead byte of a longer sequence: the bounds on its second byte and the
number of plain continuation bytes after that one. -/
def leadBounds (b : ℕ) : Option (ℕ × ℕ × ℕ) :=
  if b < 0xC2 then none
  else if b ≤ 0xDF then some (0x80, 0xBF, 0)
  else if b = 0xE0 then some (0xA0, 0xBF, 1)
  else if b = 0xED then some (0x80, 0x9F, 1)
  else if b ≤ 0xEF then some (0x80, 0xBF, 1)
  else if b = 0xF0 then some (0x90, 0xBF, 2)
  else if b ≤ 0xF3 then some (0x80, 0xBF, 2)
  else if b = 0xF4 then some (0x80, 0x8F, 2)
  else none

/-- Plain continuation bytes, folded into the code point read so far. -/
def continuations : ℕ → ℕ → List UInt8 → Option ℕ × List UInt8
  | 0, acc, rest => (some acc, rest)
  | _ + 1, _, [] => (none, [])
  | n + 1, acc, c :: rest =>
    if 0x80 ≤ c.toNat ∧ c.toNat ≤ 0xBF then continuations n (acc * 64 + (c.toNat - 0x80)) rest
    else (none, c :: rest)

/-- The value bits of a lead byte, by the number of continuation bytes after the second. -/
def leadBits (b : ℕ) : ℕ → ℕ
  | 0 => b - 0xC0
  | 1 => b - 0xE0
  | _ => b - 0xF0

/-- One character off the front; an ill-formed prefix is consumed as far as it was well formed. -/
def readChar : Parser UInt8 Char
  | [] => none
  | b :: rest =>
    if b.toNat < 0x80 then some (Char.ofNat b.toNat, rest)
    else
      match leadBounds b.toNat, rest with
      | none, rest => some (replacement, rest)
      | some _, [] => some (replacement, [])
      | some (lo, hi, n), c :: rest' =>
        if lo ≤ c.toNat ∧ c.toNat ≤ hi then
          match continuations n (leadBits b.toNat n * 64 + (c.toNat - 0x80)) rest' with
          | (some v, rest'') => some (Char.ofNat v, rest'')
          | (none, rest'') => some (replacement, rest'')
        else some (replacement, c :: rest')

def decodeReplace (data : List UInt8) : List Char := parseWhile readChar data

def encode (cs : List Char) : List UInt8 := cs.flatMap String.utf8EncodeChar

theorem continuations_length (n acc : ℕ) (data : List UInt8) :
    (continuations n acc data).2.length ≤ data.length := by
  induction n generalizing acc data with
  | zero => exact le_rfl
  | succ n ih =>
    cases data with
    | nil => exact le_rfl
    | cons c rest =>
      simp only [continuations]
      split_ifs
      · exact (ih _ rest).trans (Nat.le_succ _)
      · exact le_rfl

theorem readChar_consumes : Parser.Consumes readChar := by
  intro data a rest h
  cases data with
  | nil => simp [readChar] at h
  | cons b data =>
    simp only [readChar] at h
    split_ifs at h
    · simp only [Option.some.injEq, Prod.mk.injEq] at h
      simp [← h.2]
    · split at h
      · simp only [Option.some.injEq, Prod.mk.injEq] at h
        simp [← h.2]
      · simp only [Option.some.injEq, Prod.mk.injEq] at h
        simp [← h.2]
      · next lo hi n c data' _ =>
        split_ifs at h
        · have hlen := continuations_length n (leadBits b.toNat n * 64 + (c.toNat - 0x80)) data'
          split at h <;>
          · next heq =>
            simp only [Option.some.injEq, Prod.mk.injEq] at h
            simp only [heq] at hlen
            simp only [← h.2, List.length_cons]
            omega
        · simp only [Option.some.injEq, Prod.mk.injEq] at h
          simp [← h.2]

theorem toNat_ofNat {n : ℕ} (h : n < 256) : (UInt8.ofNat n).toNat = n := by
  simp [Nat.mod_eq_of_lt h]

theorem continuations_zero {acc v : ℕ} (h : acc = v) (data : List UInt8) :
    continuations 0 acc data = (some v, data) := by
  rw [h]
  rfl

theorem continuations_cons {n acc k : ℕ} (hk : k < 64) (rest : List UInt8) :
    continuations (n + 1) acc (UInt8.ofNat (k + 0x80) :: rest) =
      continuations n (acc * 64 + k) rest := by
  simp only [continuations, toNat_ofNat (show k + 0x80 < 256 by omega)]
  rw [if_pos (by omega), Nat.add_sub_cancel]

theorem readChar_of_bounds {b c : UInt8} {lo hi n v : ℕ} {data rest : List UInt8}
    (hb : 0x80 ≤ b.toNat) (hlead : leadBounds b.toNat = some (lo, hi, n)) (hlo : lo ≤ c.toNat)
    (hhi : c.toNat ≤ hi)
    (hcont : continuations n (leadBits b.toNat n * 64 + (c.toNat - 0x80)) data = (some v, rest)) :
    readChar (b :: c :: data) = some (Char.ofNat v, rest) := by
  simp only [readChar, hlead]
  rw [if_neg (by omega), if_pos ⟨hlo, hhi⟩, hcont]

theorem readChar_utf8EncodeChar (c : Char) (rest : List UInt8) :
    readChar (String.utf8EncodeChar c ++ rest) = some (c, rest) := by
  have hvalid : c.val.toNat < 0xD800 ∨ 0xDFFF < c.val.toNat ∧ c.val.toNat < 0x110000 := c.valid
  have hback : Char.ofNat c.val.toNat = c := Char.ofNat_toNat c
  unfold String.utf8EncodeChar
  generalize c.val.toNat = v at hvalid hback
  dsimp only
  split_ifs with h1 h2 h3
  · have hb : (UInt8.ofNat v).toNat = v := toNat_ofNat (by omega)
    simp only [List.cons_append, List.nil_append, readChar, hb]
    rw [if_pos (by omega), hback]
  · have hlead : (UInt8.ofNat (v / 64 % 0x20 + 0xC0)).toNat = v / 64 + 0xC0 := by
      rw [toNat_ofNat (by omega)]
      omega
    have hsnd : (UInt8.ofNat (v % 0x40 + 0x80)).toNat = v % 64 + 0x80 := toNat_ofNat (by omega)
    have hbounds : leadBounds (v / 64 + 0xC0) = some (0x80, 0xBF, 0) := by
      unfold leadBounds
      rw [if_neg (by omega), if_pos (by omega)]
    rw [← hback]
    simp only [List.cons_append, List.nil_append]
    refine readChar_of_bounds (by omega) (by rw [hlead, hbounds]) (by omega) (by omega) ?_
    have hbits : leadBits (v / 64 + 0xC0) 0 = v / 64 := Nat.add_sub_cancel _ _
    exact continuations_zero (by rw [hlead, hsnd, hbits]; omega) _
  · have hlead : (UInt8.ofNat (v / 4096 % 0x10 + 0xE0)).toNat = v / 4096 + 0xE0 := by
      rw [toNat_ofNat (by omega)]
      omega
    have hsnd : (UInt8.ofNat (v / 64 % 0x40 + 0x80)).toNat = v / 64 % 64 + 0x80 :=
      toNat_ofNat (by omega)
    have hbounds : ∃ lo hi, leadBounds (v / 4096 + 0xE0) = some (lo, hi, 1) ∧
        lo ≤ v / 64 % 64 + 0x80 ∧ v / 64 % 64 + 0x80 ≤ hi := by
      by_cases hE0 : v / 4096 = 0
      · exact ⟨0xA0, 0xBF, by rw [hE0]; rfl, by omega, by omega⟩
      by_cases hED : v / 4096 = 13
      · exact ⟨0x80, 0x9F, by rw [hED]; rfl, by omega, by omega⟩
      · refine ⟨0x80, 0xBF, ?_, by omega, by omega⟩
        unfold leadBounds
        rw [if_neg (by omega), if_neg (by omega), if_neg (by omega), if_neg (by omega),
          if_pos (by omega)]
    obtain ⟨lo, hi, hlb, hlo, hhi⟩ := hbounds
    rw [← hback]
    simp only [List.cons_append, List.nil_append]
    refine readChar_of_bounds (by omega) (by rw [hlead, hlb]) (by omega) (by omega) ?_
    rw [continuations_cons (by omega)]
    have hbits : leadBits (v / 4096 + 0xE0) 1 = v / 4096 := Nat.add_sub_cancel _ _
    exact continuations_zero (by rw [hlead, hsnd, hbits]; omega) _
  · have hlead : (UInt8.ofNat (v / 262144 % 0x08 + 0xF0)).toNat = v / 262144 + 0xF0 := by
      rw [toNat_ofNat (by omega)]
      omega
    have hsnd : (UInt8.ofNat (v / 4096 % 0x40 + 0x80)).toNat = v / 4096 % 64 + 0x80 :=
      toNat_ofNat (by omega)
    have hbounds : ∃ lo hi, leadBounds (v / 262144 + 0xF0) = some (lo, hi, 2) ∧
        lo ≤ v / 4096 % 64 + 0x80 ∧ v / 4096 % 64 + 0x80 ≤ hi := by
      by_cases hF0 : v / 262144 = 0
      · exact ⟨0x90, 0xBF, by rw [hF0]; rfl, by omega, by omega⟩
      by_cases hF4 : v / 262144 = 4
      · exact ⟨0x80, 0x8F, by rw [hF4]; rfl, by omega, by omega⟩
      · refine ⟨0x80, 0xBF, ?_, by omega, by omega⟩
        unfold leadBounds
        rw [if_neg (by omega), if_neg (by omega), if_neg (by omega), if_neg (by omega),
          if_neg (by omega), if_neg (by omega), if_pos (by omega)]
    obtain ⟨lo, hi, hlb, hlo, hhi⟩ := hbounds
    rw [← hback]
    simp only [List.cons_append, List.nil_append]
    refine readChar_of_bounds (by omega) (by rw [hlead, hlb]) (by omega) (by omega) ?_
    rw [continuations_cons (by omega), continuations_cons (by omega)]
    have hbits : leadBits (v / 262144 + 0xF0) 2 = v / 262144 := Nat.add_sub_cancel _ _
    exact continuations_zero (by rw [hlead, hsnd, hbits]; omega) _

theorem decodeReplace_encode (cs : List Char) : decodeReplace (encode cs) = cs := by
  have hinv : Parser.Inverts readChar String.utf8EncodeChar id (fun _ => True) :=
    fun c rest _ => readChar_utf8EncodeChar c rest
  have h := parseWhile_flatMap readChar_consumes hinv cs (fun _ _ => trivial)
  rw [List.map_id] at h
  exact h

end OrbitBhyve.Foundation.Utf8
