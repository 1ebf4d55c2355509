import OrbitBhyve.Foundation.Parsing
import Mathlib.Tactic

/-!
# Base-128 varints

`pbVarint` writes seven bits at a time, low group first, with a continuation
bit on every byte but the last; `readVarint` ORs the groups back in. Python
integers are unbounded, so neither direction has a width limit. The source
reads `data[i:]` by an index; here the unread rest is passed along instead.
-/

namespace OrbitBhyve.Wire

open Foundation

abbrev Bytes := List UInt8

/-- The loop of `_pb_varint` on a non-negative value. `fuel` bounds the number
of continuation bytes; every iteration divides the value by 128. -/
def pbVarintLoop : ℕ → ℕ → Bytes
  | 0, val => [UInt8.ofNat (val &&& 0x7F)]
  | fuel + 1, val =>
    if 0x7F < val then UInt8.ofNat ((val &&& 0x7F) ||| 0x80) :: pbVarintLoop fuel (val >>> 7)
    else [UInt8.ofNat (val &&& 0x7F)]

/-- `_pb_varint`. A negative argument never enters the loop, so its low seven
bits (Python's two's complement `val & 0x7F`) are written as one byte. -/
def pbVarint (val : ℤ) : Bytes :=
  if val < 0 then [UInt8.ofNat (val % 128).toNat] else pbVarintLoop val.toNat val.toNat

/-- The loop of `_read_varint` on the unread input. -/
def readVarintLoop (shift result : ℕ) : Bytes → Option (ℕ × Bytes)
  | [] => none
  | b :: rest =>
    let result := result ||| ((b.toNat &&& 0x7F) <<< shift)
    if b.toNat &&& 0x80 = 0 then some (result, rest) else readVarintLoop (shift + 7) result rest

/-- `_read_varint`: the value and the unread rest, or `none` at a truncated end. -/
def readVarint (data : Bytes) : Option (ℕ × Bytes) := readVarintLoop 0 0 data

theorem and_seven_bits (n : ℕ) : n &&& 0x7F = n % 128 :=
  Nat.and_two_pow_sub_one_eq_mod n 7

theorem or_continuation {n : ℕ} (h : n < 128) : n ||| 0x80 = n + 128 := by
  have hsum := Nat.two_pow_add_eq_or_of_lt (show n < 2 ^ 7 from h) 1
  calc n ||| 0x80 = 2 ^ 7 * 1 ||| n := Nat.or_comm _ _
    _ = n + 128 := by omega

theorem and_continuation {n : ℕ} (h : n < 256) : (n &&& 0x80 = 0) ↔ n < 128 := by
  have : ∀ i : Fin 256, (i.val &&& 0x80 = 0) ↔ i.val < 128 := by decide +kernel
  exact this ⟨n, h⟩

theorem pbVarintLoop_succ (fuel val : ℕ) :
    pbVarintLoop (fuel + 1) val =
      if val < 128 then [UInt8.ofNat val]
      else UInt8.ofNat (val % 128 + 128) :: pbVarintLoop fuel (val / 128) := by
  rw [pbVarintLoop, and_seven_bits, or_continuation (Nat.mod_lt _ (by decide)),
    Nat.shiftRight_eq_div_pow]
  by_cases h : val < 128
  · rw [if_neg (by omega), if_pos h, Nat.mod_eq_of_lt h]
  · rw [if_pos (by omega), if_neg h]

theorem pbVarintLoop_of_lt {val : ℕ} (h : val < 128) (fuel : ℕ) :
    pbVarintLoop fuel val = [UInt8.ofNat val] := by
  cases fuel with
  | zero => simp [pbVarintLoop, and_seven_bits, Nat.mod_eq_of_lt h]
  | succ fuel => rw [pbVarintLoop_succ, if_pos h]

/-- More fuel than the value itself is never used. -/
theorem pbVarintLoop_fuel : ∀ fuel val : ℕ, val ≤ fuel →
    pbVarintLoop fuel val = pbVarintLoop val val := by
  intro fuel
  induction fuel using Nat.strongRecOn with
  | ind fuel ih =>
    intro val h
    by_cases hs : val < 128
    · rw [pbVarintLoop_of_lt hs, pbVarintLoop_of_lt hs]
    · obtain ⟨f, rfl⟩ : ∃ f, fuel = f + 1 := ⟨fuel - 1, by omega⟩
      obtain ⟨v, rfl⟩ : ∃ v, val = v + 1 := ⟨val - 1, by omega⟩
      rw [pbVarintLoop_succ, pbVarintLoop_succ, if_neg hs, if_neg hs,
        ih f (by omega) _ (by omega), ih v (by omega) _ (by omega)]

theorem pbVarint_natCast (n : ℕ) : pbVarint n = pbVarintLoop n n := by
  simp [pbVarint]

theorem pbVarint_of_lt {n : ℕ} (h : n < 128) : pbVarint n = [UInt8.ofNat n] := by
  rw [pbVarint_natCast, pbVarintLoop_of_lt h]

theorem pbVarint_of_le {n : ℕ} (h : 128 ≤ n) :
    pbVarint n = UInt8.ofNat (n % 128 + 128) :: pbVarint (n / 128 : ℕ) := by
  obtain ⟨m, rfl⟩ : ∃ m, n = m + 1 := ⟨n - 1, by omega⟩
  rw [pbVarint_natCast, pbVarint_natCast, pbVarintLoop_succ, if_neg (by omega),
    pbVarintLoop_fuel m _ (by omega)]

/-- The value a reader finds where `_pb_varint` wrote an integer. -/
def wireInt (val : ℤ) : ℕ := if val < 0 then (val % 128).toNat else val.toNat

@[simp] theorem wireInt_natCast (n : ℕ) : wireInt n = n := by
  simp [wireInt]

theorem pbVarint_eq_wireInt (val : ℤ) : pbVarint val = pbVarint (wireInt val : ℕ) := by
  by_cases h : val < 0
  · have hmod := Int.emod_lt_of_pos val (show (0 : ℤ) < 128 by decide)
    have hnonneg := Int.emod_nonneg val (show (128 : ℤ) ≠ 0 by decide)
    have hlt : (val % 128).toNat < 128 := by omega
    rw [wireInt, if_pos h, pbVarint_of_lt hlt, pbVarint, if_pos h]
  · rw [wireInt, if_neg h, Int.toNat_of_nonneg (by omega)]

/-- `k` groups of seven bits hold every number below `128 ^ k`. -/
theorem length_pbVarint_le {n k : ℕ} (h : n < 128 ^ (k + 1)) : (pbVarint n).length ≤ k + 1 := by
  induction k generalizing n with
  | zero => simp [pbVarint_of_lt (show n < 128 by simpa using h)]
  | succ k ih =>
    by_cases hs : n < 128
    · simp [pbVarint_of_lt hs]
    · have hdiv : n / 128 < 128 ^ (k + 1) := by
        rw [Nat.div_lt_iff_lt_mul (by decide)]
        rwa [pow_succ] at h
      rw [pbVarint_of_le (by omega), List.length_cons]
      have := ih hdiv
      omega

theorem length_pbVarint_int_le {v : ℤ} {k : ℕ} (h : v < 128 ^ (k + 1)) :
    (pbVarint v).length ≤ k + 1 := by
  have hlow : 128 ≤ 128 ^ (k + 1) := Nat.le_self_pow (by omega) 128
  rw [pbVarint_eq_wireInt]
  refine length_pbVarint_le ?_
  unfold wireInt
  split_ifs with hneg
  · have hmod := Int.emod_lt_of_pos v (show (0 : ℤ) < 128 by decide)
    omega
  · zify
    rw [Int.toNat_of_nonneg (by omega)]
    exact h

theorem toNat_ofNat_of_lt {n : ℕ} (h : n < 256) : (UInt8.ofNat n).toNat = n := by
  simp [Nat.mod_eq_of_lt h]

/-- ORing a group in above the bits already read adds it at its weight. -/
theorem or_shift_eq_add {result shift : ℕ} (h : result < 2 ^ shift) (g : ℕ) :
    result ||| (g <<< shift) = result + g * 2 ^ shift := by
  rw [Nat.shiftLeft_eq, Nat.or_comm, Nat.mul_comm g,
    ← Nat.two_pow_add_eq_or_of_lt h, Nat.add_comm]

/-- The reader picks the written value up at any shift, above any bits read so far. -/
theorem readVarintLoop_pbVarint (n : ℕ) : ∀ (shift result : ℕ) (rest : Bytes),
    result < 2 ^ shift →
    readVarintLoop shift result (pbVarint n ++ rest) = some (result + n * 2 ^ shift, rest) := by
  induction n using Nat.strongRecOn with
  | ind n ih =>
    intro shift result rest hr
    by_cases h : n < 128
    · rw [pbVarint_of_lt h, List.singleton_append, readVarintLoop, toNat_ofNat_of_lt (by omega),
        and_seven_bits, Nat.mod_eq_of_lt h, or_shift_eq_add hr]
      simp [(and_continuation (show n < 256 by omega)).mpr h]
    · have hg : n % 128 < 128 := Nat.mod_lt _ (by decide)
      rw [pbVarint_of_le (by omega), List.cons_append, readVarintLoop,
        toNat_ofNat_of_lt (by omega), and_seven_bits,
        show (n % 128 + 128) % 128 = n % 128 by omega, or_shift_eq_add hr,
        if_neg (by rw [and_continuation (by omega)]; omega)]
      have hpow : 2 ^ (shift + 7) = 2 ^ shift * 128 := by rw [pow_add]; norm_num
      rw [ih (n / 128) (by omega) (shift + 7) _ rest (by rw [hpow]; nlinarith)]
      have hsplit : n = n / 128 * 128 + n % 128 := by omega
      congr 2
      rw [hpow]
      conv_rhs => rw [hsplit]
      ring

/-- A written varint is read back in front of any rest. -/
theorem readVarint_pbVarint (n : ℕ) (rest : Bytes) :
    readVarint (pbVarint n ++ rest) = some (n, rest) := by
  simpa [readVarint] using readVarintLoop_pbVarint n 0 0 rest (by simp)

theorem readVarintLoop_length {shift result v : ℕ} {data rest : Bytes}
    (h : readVarintLoop shift result data = some (v, rest)) : rest.length < data.length := by
  induction data generalizing shift result with
  | nil => simp [readVarintLoop] at h
  | cons b data ih =>
    simp only [readVarintLoop] at h
    split_ifs at h with hb
    · simp only [Option.some.injEq, Prod.mk.injEq] at h
      simp [← h.2]
    · exact (ih h).trans (by simp)

theorem readVarint_consumes : Parser.Consumes readVarint :=
  fun _ _ _ h => readVarintLoop_length h

theorem readVarint_inverts :
    Parser.Inverts readVarint (fun n : ℕ => pbVarint n) id (fun _ => True) :=
  fun n rest _ => readVarint_pbVarint n rest

end OrbitBhyve.Wire
