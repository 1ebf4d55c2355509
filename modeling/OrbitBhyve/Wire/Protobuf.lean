import OrbitBhyve.Wire.Varint

/-!
# Protobuf fields

The field builders of `protobuf.py` and the schema-less reader of `status.py`.
A parsed value is untyped, as in the source: a varint yields an integer and
every other wire type yields its raw bytes. Parsing refuses the whole input on
a malformed tag, a truncated value or an unknown wire type.
-/

namespace OrbitBhyve.Wire

open Foundation

/-- What `pb_parse` stores as the third component of a field. -/
inductive PbVal where
  | int (n : ℕ)
  | bytes (b : Bytes)
  deriving DecidableEq, Repr

structure Field where
  num : ℕ
  wire : ℕ
  val : PbVal
  deriving DecidableEq, Repr

namespace PbVal

/-- Python's `bool(value)`. -/
def truthy : PbVal → Bool
  | int n => n != 0
  | bytes b => !b.isEmpty

/-- `isinstance(value, (bytes, bytearray))`. -/
def isBytes : PbVal → Bool
  | int _ => false
  | bytes _ => true

end PbVal

def Field.varint (num n : ℕ) : Field := ⟨num, 0, .int n⟩
def Field.blob (num : ℕ) (b : Bytes) : Field := ⟨num, 2, .bytes b⟩

@[simp] theorem Field.varint_num (num n : ℕ) : (Field.varint num n).num = num := rfl
@[simp] theorem Field.varint_val (num n : ℕ) : (Field.varint num n).val = .int n := rfl
@[simp] theorem Field.varint_wire (num n : ℕ) : (Field.varint num n).wire = 0 := rfl
@[simp] theorem Field.blob_num (num : ℕ) (b : Bytes) : (Field.blob num b).num = num := rfl
@[simp] theorem Field.blob_val (num : ℕ) (b : Bytes) : (Field.blob num b).val = .bytes b := rfl
@[simp] theorem Field.blob_wire (num : ℕ) (b : Bytes) : (Field.blob num b).wire = 2 := rfl

/-! ## Builders -/

def pbFieldVarint (f : ℕ) (v : ℤ) : Bytes := pbVarint ((f <<< 3 ||| 0 : ℕ) : ℤ) ++ pbVarint v

def pbFieldBytes (f : ℕ) (d : Bytes) : Bytes :=
  pbVarint ((f <<< 3 ||| 2 : ℕ) : ℤ) ++ pbVarint (d.length : ℤ) ++ d

/-- `_pb_field_varint_signed`: a negative value is sign-extended to 64 bits. -/
def pbFieldVarintSigned (f : ℕ) (v : ℤ) : Bytes :=
  pbVarint ((f <<< 3 ||| 0 : ℕ) : ℤ) ++ pbVarint (if v < 0 then v % 2 ^ 64 else v)

/-! ## Reader -/

/-- A fixed-width value of wire type 5 or 1. -/
def readFixed (field wire width : ℕ) (rest : Bytes) : Option (Field × Bytes) :=
  if rest.length < width then none
  else some (⟨field, wire, .bytes (rest.take width)⟩, rest.drop width)

/-- The body of the `pb_parse` loop: one field off the front of the unread input. -/
def readField (data : Bytes) : Option (Field × Bytes) :=
  match readVarint data with
  | none => none
  | some (tag, rest) =>
    let field := tag >>> 3
    let wire := tag &&& 7
    if wire = 0 then
      match readVarint rest with
      | none => none
      | some (val, rest) => some (⟨field, wire, .int val⟩, rest)
    else if wire = 2 then
      match readVarint rest with
      | none => none
      | some (ln, rest) =>
        if rest.length < ln then none
        else some (⟨field, wire, .bytes (rest.take ln)⟩, rest.drop ln)
    else if wire = 5 then readFixed field wire 4 rest
    else if wire = 1 then readFixed field wire 8 rest
    else none

def pbParse (data : Bytes) : Option (List Field) := parseMany readField data

/-- `_pb_field`: the first value stored under `num`; `None` fields hold nothing. -/
def pbField (fields : Option (List Field)) (num : ℕ) : Option PbVal :=
  ((fields.getD []).find? fun f => f.num == num).map Field.val

/-- `_pb_path`: walk nested submessages, then read the last field number. -/
def pbPath (fields : Option (List Field)) : List ℕ → Option PbVal
  | [] => none
  | [n] => pbField fields n
  | n :: m :: nums =>
    match pbField fields n with
    | some (.bytes blob) => pbPath (pbParse blob) (m :: nums)
    | _ => none

def pbSubfield (fields : Option (List Field)) (outer inner : ℕ) : Option PbVal :=
  pbPath fields [outer, inner]

/-! ## The reader inverts the builders -/

theorem tag_field (f : ℕ) {w : ℕ} (h : w < 8) : (f <<< 3 ||| w) >>> 3 = f := by
  rw [Nat.or_comm, or_shift_eq_add (show w < 2 ^ 3 from h), Nat.shiftRight_eq_div_pow]
  omega

theorem tag_wire (f : ℕ) {w : ℕ} (h : w < 8) : (f <<< 3 ||| w) &&& 7 = w := by
  rw [Nat.or_comm, or_shift_eq_add (show w < 2 ^ 3 from h),
    show (7 : ℕ) = 2 ^ 3 - 1 from rfl, Nat.and_two_pow_sub_one_eq_mod]
  omega

theorem readField_consumes : Parser.Consumes readField := by
  intro data a rest h
  unfold readField at h
  cases htag : readVarint data with
  | none => simp [htag] at h
  | some t =>
    have ht := readVarint_consumes _ _ _ htag
    have hfixed : ∀ {field wire width : ℕ}, readFixed field wire width t.2 = some (a, rest) →
        rest.length < data.length := by
      intro field wire width hf
      unfold readFixed at hf
      split_ifs at hf
      simp only [Option.some.injEq, Prod.mk.injEq] at hf
      rw [← hf.2, List.length_drop]
      omega
    simp only [htag] at h
    split_ifs at h with h0 h2 h5 h1
    · cases hv : readVarint t.2 with
      | none => simp [hv] at h
      | some v =>
        simp only [hv, Option.some.injEq, Prod.mk.injEq] at h
        exact h.2 ▸ (readVarint_consumes _ _ _ hv).trans ht
    · cases hl : readVarint t.2 with
      | none => simp [hl] at h
      | some l =>
        have hlt := readVarint_consumes _ _ _ hl
        simp only [hl] at h
        split_ifs at h
        simp only [Option.some.injEq, Prod.mk.injEq] at h
        rw [← h.2, List.length_drop]
        omega
    · exact hfixed h
    · exact hfixed h

theorem readField_pbFieldVarint (f n : ℕ) (rest : Bytes) :
    readField (pbFieldVarint f n ++ rest) = some (.varint f n, rest) := by
  simp only [readField, pbFieldVarint, List.append_assoc, readVarint_pbVarint,
    tag_wire f (show 0 < 8 by decide), tag_field f (show 0 < 8 by decide), if_true, Field.varint]

theorem readField_pbFieldBytes (f : ℕ) (d rest : Bytes) :
    readField (pbFieldBytes f d ++ rest) = some (.blob f d, rest) := by
  simp only [readField, pbFieldBytes, List.append_assoc, readVarint_pbVarint,
    tag_wire f (show 2 < 8 by decide), tag_field f (show 2 < 8 by decide)]
  simp [Field.blob]

/-- A field as one of the two builders writes it. -/
def encodeField (f : Field) : Bytes :=
  match f.val with
  | .int n => pbFieldVarint f.num n
  | .bytes d => pbFieldBytes f.num d

/-- The wire type agrees with the kind of value, as it does for every built field. -/
def Field.Built (f : Field) : Prop :=
  match f.val with
  | .int _ => f.wire = 0
  | .bytes _ => f.wire = 2

@[simp] theorem Field.varint_built (num n : ℕ) : (Field.varint num n).Built := rfl
@[simp] theorem Field.blob_built (num : ℕ) (b : Bytes) : (Field.blob num b).Built := rfl

@[simp] theorem encodeField_varint (num n : ℕ) :
    encodeField (.varint num n) = pbFieldVarint num n := rfl
@[simp] theorem encodeField_blob (num : ℕ) (b : Bytes) :
    encodeField (.blob num b) = pbFieldBytes num b := rfl

theorem readField_inverts : Parser.Inverts readField encodeField id Field.Built := by
  intro f rest hf
  obtain ⟨num, wire, val⟩ := f
  cases val with
  | int n =>
    have hw : wire = 0 := hf
    subst hw
    exact readField_pbFieldVarint num n rest
  | bytes d =>
    have hw : wire = 2 := hf
    subst hw
    exact readField_pbFieldBytes num d rest

/-- A message written field by field is read back as that list of fields. -/
theorem pbParse_flatMap_encodeField (fields : List Field) (h : ∀ f ∈ fields, f.Built) :
    pbParse (fields.flatMap encodeField) = some fields := by
  rw [pbParse, parseMany_flatMap readField_consumes readField_inverts fields h, List.map_id]

theorem pbParse_pbFieldBytes (f : ℕ) (d : Bytes) :
    pbParse (pbFieldBytes f d) = some [.blob f d] := by
  simpa using pbParse_flatMap_encodeField [.blob f d] (by simp)

theorem pbParse_pbFieldVarint (f n : ℕ) :
    pbParse (pbFieldVarint f n) = some [.varint f n] := by
  simpa using pbParse_flatMap_encodeField [.varint f n] (by simp)

/-- A negative integer is written as what a reader finds in its place. -/
theorem pbFieldVarint_eq_wireInt (f : ℕ) (v : ℤ) :
    pbFieldVarint f v = pbFieldVarint f (wireInt v : ℕ) := by
  rw [pbFieldVarint, pbFieldVarint, pbVarint_eq_wireInt v]

@[simp] theorem pbParse_nil : pbParse [] = some [] := rfl

@[simp] theorem pbField_none (num : ℕ) : pbField none num = none := rfl
@[simp] theorem pbField_nil (num : ℕ) : pbField (some []) num = none := rfl

@[simp] theorem pbField_cons (f : Field) (fields : List Field) (num : ℕ) :
    pbField (some (f :: fields)) num =
      if f.num = num then some f.val else pbField (some fields) num := by
  by_cases h : f.num = num <;> simp [pbField, h]

theorem pbField_append (fs gs : List Field) (num : ℕ) :
    pbField (some (fs ++ gs)) num = (pbField (some fs) num).or (pbField (some gs) num) := by
  induction fs with
  | nil => simp
  | cons f fs ih =>
    rw [List.cons_append, pbField_cons, pbField_cons, ih]
    split <;> simp

theorem pbField_eq_none {fields : List Field} {num : ℕ} (h : ∀ f ∈ fields, f.num ≠ num) :
    pbField (some fields) num = none := by
  induction fields with
  | nil => rfl
  | cons f fs ih =>
    rw [pbField_cons, if_neg (h f List.mem_cons_self)]
    exact ih fun g hg => h g (List.mem_cons_of_mem _ hg)

end OrbitBhyve.Wire
