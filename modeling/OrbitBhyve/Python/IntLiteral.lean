import OrbitBhyve.Python.Text
import Mathlib.Data.Int.Notation

/-!
# Integer literals

`int(text, 0)` reads a number as the source of a program would write it: a sign,
a prefix for the base, and digits with single underscores between them.
-/

namespace OrbitBhyve.Python

/-- Every decimal digit counts as the ASCII one. -/
def asciiDecimal (c : Char) : Char :=
  match decimalDigit c with
  | some d => Char.ofNat (0x30 + d)
  | none => c

def digitValue (c : Char) : Option ℕ :=
  if c.isDigit then some (c.toNat - 0x30)
  else if c.isLower then some (c.toNat - 0x57)
  else if c.isUpper then some (c.toNat - 0x37)
  else none

def digitBelow (base : ℕ) (c : Char) : Option ℕ := (digitValue c).filter fun d => d < base

def ofNumerals (base : ℕ) (cs : List Char) : Option ℕ :=
  cs.foldl (fun acc c => acc.bind fun n => (digitBelow base c).map fun d => base * n + d) (some 0)

/-- Digits with single underscores between them. -/
def groupedNumber (base : ℕ) (cs : List Char) : Option ℕ :=
  if (cs.splitOn '_').any List.isEmpty then none else ofNumerals base (cs.filter fun c => c != '_')

/-- In base ten a number has at most 4300 digits. -/
def decimalLiteral (cs : List Char) : Option ℕ :=
  if 4300 < (cs.filter fun c => c != '_').length then none else groupedNumber 10 cs

/-- The base which a letter after a zero stands for. -/
def prefixBase (c : Char) : Option ℕ :=
  if c = 'x' ∨ c = 'X' then some 16
  else if c = 'o' ∨ c = 'O' then some 8
  else if c = 'b' ∨ c = 'B' then some 2
  else none

def natLiteral : List Char → Option ℕ
  | '0' :: c :: cs =>
    match prefixBase c with
    -- one underscore may follow the prefix
    | some base => groupedNumber base (if cs.head? = some '_' then cs.tail else cs)
    -- zeros may only start a zero
    | none => (decimalLiteral ('0' :: c :: cs)).filter fun n => n == 0
  | cs => decimalLiteral cs

/-- `int(text, 0)` on a text without outer whitespace; `none` is a `ValueError`. -/
def intLiteral (cs : List Char) : Option ℤ :=
  match cs.map asciiDecimal with
  | '-' :: cs => (natLiteral cs).map fun n : ℕ => -(n : ℤ)
  | '+' :: cs => (natLiteral cs).map fun n : ℕ => (n : ℤ)
  | cs => (natLiteral cs).map fun n : ℕ => (n : ℤ)

example : intLiteral "-0x_1f".toList = some (-31) := by decide +kernel
example : intLiteral "010".toList = none := by decide +kernel

/-! ## Numerals -/

/-- A numeral which Python writes: `str(n)`, or `0x` before `f"{n:x}"` or `f"{n:X}"`. -/
inductive NumeralStyle where
  | decimal
  | hex (capitals : Bool)

def hexLetter (capitals : Bool) (c : Char) : Char := if capitals then c.toUpper else c

def numeral : NumeralStyle → ℕ → List Char
  | .decimal, n => Nat.toDigits 10 n
  | .hex capitals, n => '0' :: 'x' :: (Nat.toDigits 16 n).map (hexLetter capitals)

theorem mem_toDigits {base n : ℕ} (hbase : 1 < base) {c : Char} (h : c ∈ Nat.toDigits base n) :
    ∃ d < base, c = Nat.digitChar d := by
  induction n using Nat.base_induction base hbase with
  | single m hm =>
    rw [Nat.toDigits_of_lt_base hm, List.mem_singleton] at h
    exact ⟨m, hm, h⟩
  | digit m k hk hm ih =>
    rw [← Nat.toDigits_append_toDigits hbase hm hk, List.mem_append,
      Nat.toDigits_of_lt_base hk, List.mem_singleton] at h
    rcases h with h | h
    · exact ih h
    · exact ⟨k, hk, h⟩

/-- Digits are read back, in whatever letters. -/
theorem ofNumerals_toDigits {base : ℕ} (hbase : 1 < base) {f : Char → Char}
    (hf : ∀ d < base, digitBelow base (f (Nat.digitChar d)) = some d) (n : ℕ) :
    ofNumerals base ((Nat.toDigits base n).map f) = some n := by
  unfold ofNumerals
  induction n using Nat.base_induction base hbase with
  | single m hm =>
    rw [Nat.toDigits_of_lt_base hm]
    simp [hf m hm]
  | digit m k hk hm ih =>
    rw [← Nat.toDigits_append_toDigits hbase hm hk, Nat.toDigits_of_lt_base hk, List.map_append,
      List.foldl_append, ih]
    simp [hf k hk]

theorem head_toDigits_ne {n : ℕ} (h : n ≠ 0) (cs : List Char) : Nat.toDigits 10 n ≠ '0' :: cs := by
  induction n using Nat.base_induction 10 (by decide) generalizing cs with
  | single m hm =>
    rw [Nat.toDigits_of_lt_base hm]
    intro heq
    obtain ⟨hzero, -⟩ := List.cons.inj heq
    have hall : ∀ m < 10, Nat.digitChar m = '0' → m = 0 := by decide
    exact h (hall m hm hzero)
  | digit m k hk hm ih =>
    rw [← Nat.toDigits_append_toDigits (by decide) hm hk]
    obtain ⟨c, ds, hds⟩ := List.exists_cons_of_ne_nil (@Nat.toDigits_ne_nil m 10)
    rw [hds, List.cons_append]
    intro heq
    obtain ⟨rfl, -⟩ := List.cons.inj heq
    exact ih hm.ne' ds hds

theorem forall_mem_numeral {P : Char → Prop} (hx : P 'x')
    (hdigit : ∀ capitals, ∀ d < 16, P (hexLetter capitals (Nat.digitChar d)))
    {style : NumeralStyle} {n : ℕ} : ∀ c ∈ numeral style n, P c := by
  cases style with
  | decimal =>
    intro c hc
    obtain ⟨d, hd, rfl⟩ := mem_toDigits (by decide) hc
    exact hdigit false d (hd.trans (by decide))
  | hex capitals =>
    have hzero : P '0' := hdigit false 0 (by decide)
    refine List.forall_mem_cons.mpr ⟨hzero, List.forall_mem_cons.mpr ⟨hx, fun c hc => ?_⟩⟩
    obtain ⟨c', hc', rfl⟩ := List.mem_map.mp hc
    obtain ⟨d, hd, rfl⟩ := mem_toDigits (by decide) hc'
    exact hdigit capitals d hd

/-- A character which is no mark of a literal or of a list of pairs. -/
structure Plain (c : Char) : Prop where
  ascii : asciiDecimal c = c
  noSpace : isSpace c = false
  noMark : c ∉ ['_', '-', '+', ',', '=']

instance (c : Char) : Decidable (Plain c) :=
  decidable_of_iff (asciiDecimal c = c ∧ isSpace c = false ∧ c ∉ ['_', '-', '+', ',', '='])
    ⟨fun h => ⟨h.1, h.2.1, h.2.2⟩, fun h => ⟨h.ascii, h.noSpace, h.noMark⟩⟩

theorem plain_of_mem_numeral {style : NumeralStyle} {n : ℕ} : ∀ c ∈ numeral style n, Plain c :=
  forall_mem_numeral (by decide +kernel) (by decide +kernel)

theorem notMem_numeral {style : NumeralStyle} {n : ℕ} {mark : Char}
    (h : mark ∈ ['_', '-', '+', ',', '=']) : mark ∉ numeral style n :=
  fun hmem => (plain_of_mem_numeral mark hmem).noMark h

theorem numeral_ne_nil {style : NumeralStyle} {n : ℕ} : numeral style n ≠ [] := by
  cases style with
  | decimal => exact Nat.toDigits_ne_nil
  | hex capitals => exact List.cons_ne_nil _ _

/-! ## Reading a numeral -/

theorem groupedNumber_of_notMem {base : ℕ} {cs : List Char} (hne : cs ≠ []) (h : '_' ∉ cs) :
    groupedNumber base cs = ofNumerals base cs := by
  have hfilter : cs.filter (fun c => c != '_') = cs := by
    rw [List.filter_eq_self]
    intro c hc
    exact bne_iff_ne.mpr fun heq => h (heq ▸ hc)
  have hempty : cs.isEmpty = false := List.isEmpty_eq_false_iff.mpr hne
  unfold groupedNumber
  rw [List.splitOn_eq_singleton h, hfilter, List.any_cons, hempty, List.any_nil, Bool.or_self,
    if_neg (by decide)]

theorem decimalLiteral_toDigits {n : ℕ} (h : (Nat.toDigits 10 n).length ≤ 4300) :
    decimalLiteral (Nat.toDigits 10 n) = some n := by
  have hplain : '_' ∉ Nat.toDigits 10 n := Nat.underscore_not_in_toDigits
  have hfilter := List.length_filter_le (fun c => c != '_') (Nat.toDigits 10 n)
  have hread := @ofNumerals_toDigits 10 (by decide) id (by decide) n
  rw [List.map_id] at hread
  rw [decimalLiteral, if_neg (by omega), groupedNumber_of_notMem Nat.toDigits_ne_nil hplain, hread]

/-- Without a prefix and a sign, `natLiteral` has to find no zero in front. -/
theorem natLiteral_toDigits {n : ℕ} (h : (Nat.toDigits 10 n).length ≤ 4300) :
    natLiteral (Nat.toDigits 10 n) = some n := by
  rcases eq_or_ne n 0 with rfl | hn
  · rfl
  · have hhead := head_toDigits_ne hn
    rw [← decimalLiteral_toDigits h]
    unfold natLiteral
    split
    · next heq => exact absurd heq (hhead _)
    · rfl

theorem natLiteral_hex {cs : List Char} (hne : cs ≠ []) (h : '_' ∉ cs) :
    natLiteral ('0' :: 'x' :: cs) = ofNumerals 16 cs := by
  have hhead : cs.head? ≠ some '_' := fun hhead => h (List.mem_of_mem_head? hhead)
  have hprefix : prefixBase 'x' = some 16 := by decide
  rw [natLiteral, hprefix]
  dsimp only
  rw [if_neg hhead, groupedNumber_of_notMem hne h]

theorem natLiteral_numeral {style : NumeralStyle} {n : ℕ}
    (h : (Nat.toDigits 10 n).length ≤ 4300) : natLiteral (numeral style n) = some n := by
  cases style with
  | decimal => exact natLiteral_toDigits h
  | hex capitals =>
    have hplain : '_' ∉ numeral (.hex capitals) n := notMem_numeral (by decide)
    have hdigits : '_' ∉ (Nat.toDigits 16 n).map (hexLetter capitals) := fun hmem =>
      hplain (List.mem_cons_of_mem _ (List.mem_cons_of_mem _ hmem))
    have hne : (Nat.toDigits 16 n).map (hexLetter capitals) ≠ [] := by simp
    have hvalue : ∀ capitals, ∀ d < 16,
        digitBelow 16 (hexLetter capitals (Nat.digitChar d)) = some d := by decide
    rw [numeral, natLiteral_hex hne hdigits, ofNumerals_toDigits (by decide) (hvalue capitals)]

/-- `int(text, 0)` reads what Python writes, up to 4300 digits. -/
theorem intLiteral_numeral {style : NumeralStyle} {n : ℕ}
    (h : (Nat.toDigits 10 n).length ≤ 4300) :
    intLiteral (numeral style n) = some (n : ℤ) := by
  have hmap : (numeral style n).map asciiDecimal = numeral style n :=
    (List.map_congr_left fun c hc => (plain_of_mem_numeral c hc).ascii).trans (List.map_id _)
  unfold intLiteral
  rw [hmap]
  split
  · next heq =>
    have hsign : '-' ∉ numeral style n := notMem_numeral (by decide)
    exact absurd (heq ▸ List.mem_cons_self) hsign
  · next heq =>
    have hsign : '+' ∉ numeral style n := notMem_numeral (by decide)
    exact absurd (heq ▸ List.mem_cons_self) hsign
  · rw [natLiteral_numeral h, Option.map_some]

end OrbitBhyve.Python
