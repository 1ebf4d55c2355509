import OrbitBhyve.Wire.Protobuf

/-!
# Messages as their builders write them

A message body is a concatenation of builder calls. `pb_parse` finds one field
for each call. A negative `int32` or `int64` is found as the 64-bit number it was
sign-extended to, since the reader knows no schema.
-/

namespace OrbitBhyve.Wire

open Foundation

inductive FieldCall where
  | varint (num v : ℕ)
  | signed (num : ℕ) (v : ℤ)
  | blob (num : ℕ) (d : Bytes)

namespace FieldCall

def write : FieldCall → Bytes
  | varint num v => pbFieldVarint num v
  | signed num v => pbFieldVarintSigned num v
  | blob num d => pbFieldBytes num d

/-- A signed value is one of 64 bits. -/
def Fits : FieldCall → Prop
  | signed _ v => |v| < 2 ^ 63
  | varint _ _ | blob _ _ => True

/-- The field which the reader is to find. -/
def field : FieldCall → Field
  | varint num v => ⟨num, 0, .int v⟩
  | signed num v => ⟨num, 0, .int (if v < 0 then v + 2 ^ 64 else v).toNat⟩
  | blob num d => ⟨num, 2, .bytes d⟩

end FieldCall

theorem pbFieldVarintSigned_eq (num : ℕ) {v : ℤ} (h : |v| < 2 ^ 63) :
    pbFieldVarintSigned num v =
      pbFieldVarint num ((if v < 0 then v + 2 ^ 64 else v).toNat : ℕ) := by
  obtain ⟨hlow, hhigh⟩ := abs_lt.mp h
  have hwritten : (if v < 0 then v % 2 ^ 64 else v) =
      (((if v < 0 then v + 2 ^ 64 else v).toNat : ℕ) : ℤ) := by
    split_ifs with hneg
    · rw [Int.toNat_of_nonneg (by omega)]
      rw [← Int.add_emod_right, Int.emod_eq_of_lt (by omega) (by omega)]
    · rw [Int.toNat_of_nonneg (by omega)]
  unfold pbFieldVarintSigned pbFieldVarint
  rw [hwritten]

theorem readField_write : Parser.Inverts readField FieldCall.write FieldCall.field
    FieldCall.Fits := by
  intro call rest hfits
  cases call with
  | varint num v => exact readField_pbFieldVarint num v rest
  | signed num v =>
    dsimp only [FieldCall.write, FieldCall.field]
    rw [pbFieldVarintSigned_eq num hfits]
    exact readField_pbFieldVarint num _ rest
  | blob num d => exact readField_pbFieldBytes num d rest

/-- `pb_parse` finds what the builders wrote, in order. -/
theorem pbParse_calls (calls : List FieldCall) (h : ∀ call ∈ calls, call.Fits) :
    pbParse (calls.flatMap FieldCall.write) = some (calls.map FieldCall.field) :=
  parseMany_flatMap readField_consumes readField_write calls h

/-- The clock of a device in New York, in front of a value of more than 64 bits. -/
theorem pbParse_calls_newYork :
    pbParse (pbFieldVarint 1 1751328000 ++ pbFieldVarintSigned 2 (-14400) ++
        pbFieldBytes 3 [] ++ pbFieldVarint 4 (2 ^ 70 : ℕ)) =
      some [⟨1, 0, .int 1751328000⟩, ⟨2, 0, .int (2 ^ 64 - 14400)⟩, ⟨3, 2, .bytes []⟩,
        ⟨4, 0, .int (2 ^ 70)⟩] := by
  have hfits : ∀ call ∈ [FieldCall.varint 1 1751328000, .signed 2 (-14400), .blob 3 [],
      .varint 4 (2 ^ 70)], call.Fits := by
    intro call hcall
    fin_cases hcall
    · trivial
    · exact abs_lt.mpr ⟨by norm_num, by norm_num⟩
    · trivial
    · trivial
  have hparse := pbParse_calls _ hfits
  rw [List.flatMap_cons, List.flatMap_cons, List.flatMap_cons, List.flatMap_cons,
    List.flatMap_nil, List.append_nil, ← List.append_assoc, ← List.append_assoc] at hparse
  exact hparse

end OrbitBhyve.Wire
