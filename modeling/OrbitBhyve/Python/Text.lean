import Mathlib.Data.List.DropRight

/-!
# Text

The `str` methods behind the parsing of a start time, on lists of code points:
`strip`, `split`, `isdigit` and the `int` of a run of digits, by the character
classes of Unicode 15.1.
-/

namespace OrbitBhyve.Python

/-- The characters which `str.strip` takes off. -/
def isSpace (c : Char) : Bool :=
  let n := c.toNat
  (0x09 ≤ n && n ≤ 0x0D) || (0x1C ≤ n && n ≤ 0x20) || n == 0x85 || n == 0xA0 || n == 0x1680 ||
    (0x2000 ≤ n && n ≤ 0x200A) || n == 0x2028 || n == 0x2029 || n == 0x202F || n == 0x205F ||
    n == 0x3000

def strip (cs : List Char) : List Char := (cs.dropWhile isSpace).rdropWhile isSpace

/-- `strip` has nothing to do exactly if neither end is whitespace. -/
theorem strip_eq_self_iff {cs : List Char} :
    strip cs = cs ↔
      (∀ c, cs.head? = some c → isSpace c = false) ∧
        ∀ c, cs.getLast? = some c → isSpace c = false := by
  have hhead : cs.dropWhile isSpace = cs ↔ ∀ c, cs.head? = some c → isSpace c = false := by
    cases cs with
    | nil => simp
    | cons c cs => simp [List.dropWhile_eq_self_iff]
  have hlast : cs.rdropWhile isSpace = cs ↔ ∀ c, cs.getLast? = some c → isSpace c = false := by
    rw [List.rdropWhile_eq_self_iff]
    cases cs using List.reverseRecOn with
    | nil => simp
    | append_singleton cs c => simp
  rw [← hhead, ← hlast]
  constructor
  · intro h
    have hfront : cs.dropWhile isSpace = cs := by
      apply (List.dropWhile_suffix _).eq_of_length_le
      calc cs.length = (strip cs).length := by rw [h]
        _ ≤ (cs.dropWhile isSpace).length := (List.rdropWhile_prefix _ _).length_le
    refine ⟨hfront, ?_⟩
    rw [strip, hfront] at h
    exact h
  · rintro ⟨hfront, hback⟩
    rw [strip, hfront, hback]

/-- The zeros of the decimal digits, which come in runs of ten. -/
def zeros : List ℕ :=
  [0x30, 0x660, 0x6F0, 0x7C0, 0x966, 0x9E6, 0xA66, 0xAE6, 0xB66, 0xBE6, 0xC66, 0xCE6, 0xD66, 0xDE6,
    0xE50, 0xED0, 0xF20, 0x1040, 0x1090, 0x17E0, 0x1810, 0x1946, 0x19D0, 0x1A80, 0x1A90, 0x1B50,
    0x1BB0, 0x1C40, 0x1C50, 0xA620, 0xA8D0, 0xA900, 0xA9D0, 0xA9F0, 0xAA50, 0xABF0, 0xFF10, 0x104A0,
    0x10D30, 0x11066, 0x110F0, 0x11136, 0x111D0, 0x112F0, 0x11450, 0x114D0, 0x11650, 0x116C0,
    0x11730, 0x118E0, 0x11950, 0x11C50, 0x11D50, 0x11DA0, 0x11F50, 0x16A60, 0x16AC0, 0x16B50,
    0x1D7CE, 0x1D7D8, 0x1D7E2, 0x1D7EC, 0x1D7F6, 0x1E140, 0x1E2F0, 0x1E4F0, 0x1E950, 0x1FBF0]

/-- The digits which are not decimal: superscripts, circled and the like, as ranges. -/
def otherDigits : List (ℕ × ℕ) :=
  [(0xB2, 0xB3), (0xB9, 0xB9), (0x1369, 0x1371), (0x19DA, 0x19DA), (0x2070, 0x2070),
    (0x2074, 0x2079), (0x2080, 0x2089), (0x2460, 0x2468), (0x2474, 0x247C), (0x2488, 0x2490),
    (0x24EA, 0x24EA), (0x24F5, 0x24FD), (0x24FF, 0x24FF), (0x2776, 0x277E), (0x2780, 0x2788),
    (0x278A, 0x2792), (0x10A40, 0x10A43), (0x10E60, 0x10E68), (0x11052, 0x1105A), (0x1F100, 0x1F10A)]

def decimalDigit (c : Char) : Option ℕ :=
  (zeros.find? fun z => z ≤ c.toNat && c.toNat < z + 10).map fun z => c.toNat - z

def isDigitChar (c : Char) : Bool :=
  (decimalDigit c).isSome || otherDigits.any fun r => r.1 ≤ c.toNat && c.toNat ≤ r.2

/-- `str.isdigit`. -/
def isDigits (cs : List Char) : Bool := !cs.isEmpty && cs.all isDigitChar

/-- `int` on a run of digits: a digit which is not decimal, or more than 4300 of them,
is a `ValueError`. -/
def intOfDigits (cs : List Char) : Option ℕ :=
  if 4300 < cs.length then none
  else cs.foldl (fun acc c => acc.bind fun n => (decimalDigit c).map fun d => 10 * n + d) (some 0)

/-- `f"{n:02d}"`. -/
def twoDigits (n : ℕ) : String := if n < 10 then "0" ++ toString n else toString n

end OrbitBhyve.Python
