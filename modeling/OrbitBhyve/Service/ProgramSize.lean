import OrbitBhyve.Connection.Atomic
import OrbitBhyve.Service.RoundTrip
import OrbitBhyve.Wire.Size

/-!
# The size of a program

A message takes a body of 253 bytes and a frame a message of 255, and the schema
bounds neither the start times nor the zones of a program. So a program which the
service accepts can be sent when its `#19` body is not longer than 243 bytes, and
raises otherwise, in `_build_message` or else in `encrypt`.
-/

namespace OrbitBhyve.Service

open Foundation Python Wire Devices Connection

/-! ## The parts of a body -/

/-- A field with a number below 16384: a start time or the budget. -/
def numberSize (n : ℕ) : ℕ := if n < 128 then 2 else 3

def zoneSize (sec : ℕ) : ℕ := if sec < 128 then 6 else if sec < 16384 then 7 else 8

/-- The anchor of an interval, absent when it is empty. -/
def anchorSize : Option String → ℕ
  | none => 0
  | some anchor =>
    if anchor = "" then 0
    else 1 + varintSize (encodeText anchor).length + (encodeText anchor).length

def dayModeSize (spec : ProgramSpec) : ℕ :=
  match spec.dayMode with
  | .weekdays => 4
  | .once => 4
  | .odd => 2
  | .even => 2
  | .interval =>
    1 + varintSize (2 + anchorSize spec.intervalAnchor) + (2 + anchorSize spec.intervalAnchor)

def nameSize (name : String) : ℕ := if name = "" then 0 else 3 + (encodeText name).length

def bodySize (spec : ProgramSpec) : ℕ :=
  2 + dayModeSize spec + (spec.startMins.map numberSize).sum +
    (spec.zones.map fun z => zoneSize z.2).sum + numberSize spec.budget + nameSize spec.name

variable {call : SetProgramCall} {spec : ProgramSpec} {f n : ℕ}

theorem varintSize_two (hlow : 128 ≤ n) (hhigh : n < 16384) : varintSize n = 2 :=
  varintSize_eq (k := 1) (by omega) (by omega)

theorem length_smallField (hf : f < 16) (hn : n < 128) : (pbFieldVarint f n).length = 2 := by
  rw [length_pbFieldVarint, varintSize_tag hf (by decide), varintSize_of_lt hn]

theorem length_numberField (hf : f < 16) (hn : n < 16384) :
    (pbFieldVarint f n).length = numberSize n := by
  rw [length_pbFieldVarint, varintSize_tag hf (by decide)]
  unfold numberSize
  split_ifs with hsmall
  · rw [varintSize_of_lt hsmall]
  · rw [varintSize_two (Nat.not_lt.mp hsmall) hn]

theorem length_zoneField {sid sec : ℕ} (hsid : sid < 128) (hsec : sec < 2097152) :
    (pbFieldBytes 9 (pbFieldVarint 1 sid ++ pbFieldVarint 2 sec)).length = zoneSize sec := by
  have hinner : (pbFieldVarint 1 (sid : ℤ) ++ pbFieldVarint 2 (sec : ℤ)).length =
      3 + varintSize sec := by
    rw [List.length_append, length_smallField (by decide) hsid, length_pbFieldVarint,
      varintSize_tag (by decide) (by decide)]
    omega
  rw [length_pbFieldBytes, varintSize_tag (by decide) (by decide), hinner]
  unfold zoneSize
  split_ifs with hsmall hmiddle
  · rw [varintSize_of_lt hsmall]
    rfl
  · rw [varintSize_two (Nat.not_lt.mp hsmall) hmiddle]
    rfl
  · have hthree : varintSize sec = 3 := varintSize_eq (k := 2) (by omega) (by omega)
    rw [hthree]
    rfl

/-! ## The values of a call -/

theorem weekdayMask_lt (days : List Weekday) : weekdayMask days < 128 := by
  apply Nat.lt_pow_two_of_testBit (n := 7)
  intro i hi
  rw [← Bool.not_eq_true, testBit_weekdayMask]
  rintro ⟨day, -, rfl⟩
  cases day <;> simp [Weekday.bit] at hi

theorem number_le (slot : ProgramSlot) : slot.number ≤ 6 := by
  cases slot <;> decide

theorem lt_of_parseStarts {toks : List String} {ms : List ℕ} (h : parseStarts toks = .ok ms) :
    ∀ m ∈ ms, m < 1440 := by
  induction toks generalizing ms with
  | nil =>
    cases h
    intro m hm
    cases hm
  | cons tok toks ih =>
    obtain ⟨first, rest, hfirst, hrest, rfl⟩ := parseStarts_cons_eq_ok h
    intro m hm
    rcases List.mem_cons.mp hm with rfl | hmem
    · obtain ⟨hour, minute, -, hhour, hminute, rfl⟩ := parseStartMinutes_eq_ok hfirst
      omega
    · exact ih hrest m hmem

theorem name_le_of_specFromCall (h : specFromCall call = .ok spec) :
    (encodeText spec.name).length ≤ MAX_PROGRAM_NAME_BYTES := by
  obtain ⟨hsame, hfits⟩ := validateProgramName_eq_ok (of_specFromCall h).2
  rw [hsame]
  exact hfits

/-! ## The size of the body -/

theorem length_buildDayMode (h : specFromCall call = .ok spec) :
    (buildDayMode spec).length = dayModeSize spec := by
  have hcall := fromCall_of_specFromCall h
  have hblock : ∀ {f n : ℕ}, f < 16 → n < 128 →
      (pbFieldBytes f (pbFieldVarint 1 n)).length = 4 := by
    intro f n hf hn
    have htwo : (pbFieldVarint 1 (n : ℤ)).length = 2 := length_smallField (by decide) hn
    rw [length_pbFieldBytes, varintSize_tag hf (by decide), htwo]
    rfl
  have hempty : ∀ {f : ℕ}, f < 16 → (pbFieldBytes f []).length = 2 := by
    intro f hf
    rw [length_pbFieldBytes, varintSize_tag hf (by decide)]
    rfl
  unfold buildDayMode dayModeSize
  cases hmode : spec.dayMode with
  | weekdays =>
    have hmask : spec.weekdayMask.getD 0 < 128 := by
      have haccepted := hcall.mask
      unfold callWeekdayMask at haccepted
      rw [← hcall.dayMode, hmode] at haccepted
      dsimp only at haccepted
      split_ifs at haccepted
      rw [← Except.ok.inj haccepted]
      exact weekdayMask_lt _
    exact hblock (by decide) hmask
  | interval =>
    have hdays : (if spec.intervalDays.getD 0 = 0 then 1 else spec.intervalDays.getD 0) < 128 := by
      split_ifs with hzero
      · decide
      · rw [hcall.intervalDays] at hzero ⊢
        cases hcalldays : call.intervalDays with
        | none => decide
        | some days =>
          have hrange := call.interval_range days hcalldays
          exact lt_of_le_of_lt hrange.2 (by decide)
    dsimp only
    generalize (if spec.intervalDays.getD 0 = 0 then 1 else spec.intervalDays.getD 0) = days at *
    have hfield : (pbFieldVarint 1 (days : ℤ)).length = 2 := length_smallField (by decide) hdays
    rw [length_pbFieldBytes, varintSize_tag (by decide) (by decide)]
    cases spec.intervalAnchor with
    | none =>
      dsimp only [anchorSize]
      rw [hfield]
    | some anchor =>
      dsimp only [anchorSize]
      split_ifs
      · rw [hfield]
      · rw [List.length_append, hfield, length_pbFieldBytes, varintSize_tag (by decide) (by decide)]
  | odd => exact hempty (by decide)
  | even => exact hempty (by decide)
  | once =>
    have hbit : 1 <<< (spec.slot - 1) < 128 := by
      rw [hcall.slot]
      cases call.slot <;> decide
    exact hblock (by decide) hbit

theorem length_nameField (h : (encodeText spec.name).length ≤ MAX_PROGRAM_NAME_BYTES) :
    (if spec.name = "" then [] else pbFieldBytes 17 (encodeText spec.name)).length =
      nameSize spec.name := by
  have htag : varintSize (17 <<< 3 ||| 2) = 2 := varintSize_two (by decide) (by decide)
  have hlength : varintSize (encodeText spec.name).length = 1 :=
    varintSize_of_lt (lt_of_le_of_lt h (by decide))
  unfold nameSize
  split_ifs
  · rfl
  · rw [length_pbFieldBytes, htag, hlength]

theorem length_buildProgramBody (h : specFromCall call = .ok spec) :
    (buildProgramBody spec).length = bodySize spec := by
  have hcall := fromCall_of_specFromCall h
  have hslot : (pbFieldVarint 1 (spec.slot : ℤ)).length = 2 := by
    apply length_smallField (by decide)
    rw [hcall.slot]
    exact lt_of_le_of_lt (number_le call.slot) (by decide)
  have hstarts : (spec.startMins.flatMap fun m : ℕ => pbFieldVarint 8 m).length =
      (spec.startMins.map numberSize).sum := by
    rw [List.length_flatMap]
    congr 1
    apply List.map_congr_left
    intro m hm
    have hday := lt_of_parseStarts hcall.starts m hm
    exact length_numberField (by decide) (by omega)
  have hzones : (spec.zones.flatMap fun z =>
        pbFieldBytes 9 (pbFieldVarint 1 z.1 ++ pbFieldVarint 2 z.2)).length =
      (spec.zones.map fun z => zoneSize z.2).sum := by
    rw [List.length_flatMap]
    congr 1
    apply List.map_congr_left
    intro z hz
    rw [hcall.zones] at hz
    obtain ⟨entry, -, rfl⟩ := List.mem_map.mp hz
    have hzone := entry.zone_range
    have hminutes := entry.minutes_range
    exact length_zoneField (by omega) (by omega)
  have hbudget : (pbFieldVarint 10 (spec.budget : ℤ)).length = numberSize spec.budget := by
    apply length_numberField (by decide)
    rw [hcall.budget]
    exact lt_of_le_of_lt call.budget_le (by decide)
  unfold buildProgramBody bodySize
  rw [List.length_append, List.length_append, List.length_append, List.length_append,
    List.length_append, hslot, length_buildDayMode h, hstarts, hzones, hbudget,
    length_nameField (name_le_of_specFromCall h)]

/-! ## What can be sent -/

/-- The program goes into a message, and the message into one frame of the session. -/
def Sendable (aes : AesBlock) (c : BleConnection) (spec : ProgramSpec) : Prop :=
  ∃ msg frame, buildMessage (buildProgramPb spec) = .ok msg ∧ (c.encrypt aes msg).1 = .ok frame

theorem length_of_buildMessage {pb msg : Bytes} (h : buildMessage pb = .ok msg) :
    pb.length ≤ 253 ∧ msg.length = pb.length + 8 := by
  have hfits : pb.length ≤ 253 := by
    by_contra hlong
    unfold buildMessage at h
    rw [if_pos (by omega)] at h
    cases h
  have hframe := Body.buildMessage_eq ⟨pb, hfits⟩
  rw [hframe] at h
  cases h
  exact ⟨hfits, Body.length_frame ⟨pb, hfits⟩⟩

/-- A `#19` of 247 bytes is the longest which can be sent. -/
theorem sendable_iff_length {aes : AesBlock} {c : BleConnection} {iv : Iv} (hiv : c.iv = some iv) :
    Sendable aes c spec ↔ (buildProgramPb spec).length ≤ 247 := by
  constructor
  · rintro ⟨msg, frame, hbuild, hframe⟩
    obtain ⟨-, hlength⟩ := length_of_buildMessage hbuild
    by_contra hlong
    rw [BleConnection.encrypt_too_long hiv (by omega)] at hframe
    cases hframe
  · intro hfits
    obtain ⟨msg, hmsg⟩ : ∃ msg, buildMessage (buildProgramPb spec) = .ok msg :=
      ⟨_, Body.buildMessage_eq ⟨buildProgramPb spec, by omega⟩⟩
    obtain ⟨-, hlength⟩ := length_of_buildMessage hmsg
    exact ⟨msg, _, hmsg, congrArg Prod.fst (BleConnection.encrypt_eq_sealFrame hiv (by omega))⟩

theorem length_buildProgramPb_le_iff (h : specFromCall call = .ok spec) :
    (buildProgramPb spec).length ≤ 247 ↔ bodySize spec ≤ 243 := by
  have htag : varintSize (19 <<< 3 ||| 2) = 2 := varintSize_two (by decide) (by decide)
  unfold buildProgramPb
  rw [length_pbFieldBytes, htag, length_buildProgramBody h]
  by_cases hsmall : bodySize spec < 128
  · rw [varintSize_of_lt hsmall]
    omega
  · by_cases hmiddle : bodySize spec < 16384
    · rw [varintSize_two (Nat.not_lt.mp hsmall) hmiddle]
      omega
    · omega

/-- A program which the service accepts can be sent exactly when its body is no longer than
243 bytes. -/
theorem program_sendable_iff (aes : AesBlock) (h : specFromCall call = .ok spec)
    {c : BleConnection} {iv : Iv} (hiv : c.iv = some iv) :
    Sendable aes c spec ↔ bodySize spec ≤ 243 := by
  rw [sendable_iff_length hiv]
  exact length_buildProgramPb_le_iff h

def freshSession : BleConnection := .afterHandshake (Vector.replicate 12 0) 0 0 none

theorem program_sendable_iff_monday : Sendable (fun block => block) freshSession mondaySpec := by
  have haccepted : specFromCall mondayCall = .ok mondaySpec := by decide +kernel
  exact (program_sendable_iff (fun block => block) haccepted rfl).mpr (by decide +kernel)

/-! ### Too many start times -/

def midnights (n : ℕ) : SetProgramCall :=
  { mondayCall with
    dayMode := .odd
    weekdays := none
    startTimes := List.replicate n "00:00"
    zones := [] }

def midnightsSpec (n : ℕ) : ProgramSpec where
  slot := 1
  slot_pos := Nat.one_pos
  dayMode := .odd
  startMins := List.replicate n 0

theorem parseStarts_replicate {tok : String} {m : ℕ} (h : parseStartMinutes tok = .ok m) (n : ℕ) :
    parseStarts (List.replicate n tok) = .ok (List.replicate n m) := by
  induction n with
  | zero => rfl
  | succ n ih =>
    rw [List.replicate_succ, parseStarts, h, ih]
    rfl

theorem specFromCall_midnights (n : ℕ) : specFromCall (midnights n) = .ok (midnightsSpec n) := by
  have hmask : callWeekdayMask (midnights n) = .ok none := rfl
  have hstarts : parseStarts (midnights n).startTimes = .ok (List.replicate n 0) :=
    parseStarts_replicate (by decide +kernel) n
  have hname : validateProgramName (midnights n).name = .ok "" := by
    change validateProgramName "" = .ok ""
    decide +kernel
  unfold specFromCall
  rw [hmask, hstarts, hname]
  rfl

/-- Both limits raise: 120 start times in `encrypt`, and 130 in `_build_message`. -/
theorem long_program_raises :
    specFromCall (midnights 120) = .ok (midnightsSpec 120) ∧
      (∃ msg, buildMessage (buildProgramPb (midnightsSpec 120)) = .ok msg ∧
        (freshSession.encrypt (fun block => block) msg).1 = .error .valueError) ∧
      specFromCall (midnights 130) = .ok (midnightsSpec 130) ∧
      buildMessage (buildProgramPb (midnightsSpec 130)) = .error .valueError ∧
      ¬ Sendable (fun block => block) freshSession (midnightsSpec 120) ∧
      ¬ Sendable (fun block => block) freshSession (midnightsSpec 130) := by
  have hlength : (buildProgramPb (midnightsSpec 120)).length = 250 := by decide +kernel
  have hlength' : (buildProgramPb (midnightsSpec 130)).length = 270 := by decide +kernel
  obtain ⟨msg, hmsg⟩ : ∃ msg, buildMessage (buildProgramPb (midnightsSpec 120)) = .ok msg :=
    ⟨_, Body.buildMessage_eq ⟨buildProgramPb (midnightsSpec 120), by omega⟩⟩
  have hlong : 255 < msg.length := by
    rw [(length_of_buildMessage hmsg).2, hlength]
    decide
  have hraises : freshSession.encrypt (fun block => block) msg = _ :=
    BleConnection.encrypt_too_long rfl hlong
  have hrefused : buildMessage (buildProgramPb (midnightsSpec 130)) = .error .valueError := by
    unfold buildMessage
    rw [if_pos (by omega)]
  refine ⟨specFromCall_midnights 120, ⟨msg, hmsg, congrArg Prod.fst hraises⟩,
    specFromCall_midnights 130, hrefused, ?_, ?_⟩
  · rintro ⟨msg', frame, hbuild, hframe⟩
    rw [hmsg] at hbuild
    cases hbuild
    rw [hraises] at hframe
    cases hframe
  · rintro ⟨msg', frame, hbuild, -⟩
    rw [hrefused] at hbuild
    cases hbuild

end OrbitBhyve.Service
