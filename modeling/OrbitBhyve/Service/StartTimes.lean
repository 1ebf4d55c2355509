import OrbitBhyve.Service.RoundTrip

/-!
# Start times and times of day

`parse_start_minutes` splits a token, asks for digits in every part, and checks
the ranges of the hour and the minute. The seconds are dropped unread, and `int`
refuses a number of more than 4300 digits.
-/

namespace OrbitBhyve.Service

open Foundation Python

/-! ## Times of day -/

/-- The number which decimal digits write, over any length. -/
def decimalValue (cs : List Char) : Option ℕ :=
  cs.foldl (fun acc c => acc.bind fun n => (decimalDigit c).map fun d => 10 * n + d) (some 0)

def decimalNumber (part : List Char) : Option ℕ := if part.isEmpty then none else decimalValue part

def clockMinutes (hour minute : List Char) : Option ℕ := do
  let h ← decimalNumber hour
  let m ← decimalNumber minute
  if h ≤ 23 ∧ m ≤ 59 then some (h * 60 + m) else none

def isSeconds (part : List Char) : Bool := (decimalNumber part).any fun s => s ≤ 59

/-- The minutes of a token which is `H:M` or `H:M:S` within its outer whitespace. -/
def timeOfDay (tok : String) : Option ℕ :=
  match clockParts tok with
  | [hour, minute] => clockMinutes hour minute
  | [hour, minute, second] => if isSeconds second then clockMinutes hour minute else none
  | _ => none

/-- A time of day is returned, and any other token raises. -/
def ReadsTimeOfDay (tok : String) : Prop :=
  match timeOfDay tok with
  | some m => parseStartMinutes tok = .ok m
  | none => ∃ e, parseStartMinutes tok = .error e

/-! ## Digits -/

theorem intOfDigits_eq_some {cs : List Char} {n : ℕ} :
    intOfDigits cs = some n ↔ cs.length ≤ 4300 ∧ decimalValue cs = some n := by
  unfold intOfDigits
  split_ifs with hlong
  · simp [Nat.not_le.mpr hlong]
  · exact (and_iff_right (Nat.not_lt.mp hlong)).symm

theorem all_isDigitChar_of_decimalValue {cs : List Char} {n : ℕ} (h : decimalValue cs = some n) :
    cs.all isDigitChar = true := by
  unfold decimalValue at h
  induction cs using List.reverseRecOn generalizing n with
  | nil => rfl
  | append_singleton cs c ih =>
    rw [List.foldl_append, List.foldl_cons, List.foldl_nil] at h
    obtain ⟨m, hm, hd⟩ := Option.bind_eq_some_iff.mp h
    obtain ⟨d, hdigit, -⟩ := Option.map_eq_some_iff.mp hd
    rw [List.all_append, ih hm]
    simp [isDigitChar, hdigit]

theorem isDigits_and_intOfDigits {cs : List Char} {n : ℕ} :
    isDigits cs = true ∧ intOfDigits cs = some n ↔
      cs.length ≤ 4300 ∧ decimalNumber cs = some n := by
  rw [intOfDigits_eq_some]
  unfold isDigits decimalNumber
  cases hempty : cs.isEmpty with
  | true => simp
  | false =>
    have hall : decimalValue cs = some n → cs.all isDigitChar = true :=
      all_isDigitChar_of_decimalValue
    simp only [Bool.not_false, Bool.true_and, Bool.false_eq_true, if_false]
    tauto

theorem clockMinutes_eq_some {hour minute : List Char} {t : ℕ} :
    clockMinutes hour minute = some t ↔ ∃ h m, decimalNumber hour = some h ∧
      decimalNumber minute = some m ∧ h ≤ 23 ∧ m ≤ 59 ∧ t = h * 60 + m := by
  unfold clockMinutes
  cases decimalNumber hour with
  | none => simp
  | some h =>
    cases decimalNumber minute with
    | none => simp
    | some m =>
      by_cases hrange : h ≤ 23 ∧ m ≤ 59
      · simp [hrange, eq_comm]
      · simp only [Option.bind_eq_bind, Option.bind_some, if_neg hrange, Option.some.injEq]
        constructor
        · intro h
          cases h
        · rintro ⟨_, _, rfl, rfl, hh, hm, -⟩
          exact absurd ⟨hh, hm⟩ hrange

/-! ## What is accepted -/

/-- `int` reads the hour and the minute. -/
def Readable (hour minute : List Char) : Prop := hour.length ≤ 4300 ∧ minute.length ≤ 4300

theorem readable_and_clockMinutes {hour minute : List Char} {t : ℕ} :
    Readable hour minute ∧ clockMinutes hour minute = some t ↔
      ∃ h m, (isDigits hour = true ∧ intOfDigits hour = some h) ∧
        (isDigits minute = true ∧ intOfDigits minute = some m) ∧ h ≤ 23 ∧ m ≤ 59 ∧
        t = h * 60 + m := by
  simp only [isDigits_and_intOfDigits, clockMinutes_eq_some]
  constructor
  · rintro ⟨⟨hhour, hminute⟩, h, m, hh, hm, hrest⟩
    exact ⟨h, m, ⟨hhour, hh⟩, ⟨hminute, hm⟩, hrest⟩
  · rintro ⟨h, m, ⟨hhour, hh⟩, ⟨hminute, hm⟩, hrest⟩
    exact ⟨⟨hhour, hminute⟩, h, m, hh, hm, hrest⟩

theorem clock_eq_ok {tok : String} {hour minute : List Char} {t : ℕ} :
    (do
        let h ← readInt hour
        let m ← readInt minute
        if h ≤ 23 ∧ m ≤ 59 then .ok (h * 60 + m) else .error (.outOfRange tok)) =
      (.ok t : Except CallError ℕ) ↔
      ∃ h m, intOfDigits hour = some h ∧ intOfDigits minute = some m ∧ h ≤ 23 ∧ m ≤ 59 ∧
        t = h * 60 + m := by
  unfold readInt
  cases intOfDigits hour with
  | none => simp [bind, Except.bind]
  | some h =>
    cases intOfDigits minute with
    | none => simp [bind, Except.bind]
    | some m =>
      by_cases hrange : h ≤ 23 ∧ m ≤ 59
      · simp [bind, Except.bind, hrange, eq_comm]
      · simp only [bind, Except.bind, if_neg hrange]
        constructor
        · intro hok
          cases hok
        · rintro ⟨_, _, ⟨⟩, ⟨⟩, hh, hm, -⟩
          exact absurd ⟨hh, hm⟩ hrange

/-- A token of two or three parts is accepted for its hour and its minute, as long as the rest
is digits. -/
theorem parseStartMinutes_of_parts {tok : String} {hour minute : List Char}
    {rest : List (List Char)} (hparts : clockParts tok = hour :: minute :: rest)
    (hrest : rest.length ≤ 1) {t : ℕ} :
    parseStartMinutes tok = .ok t ↔ rest.all isDigits = true ∧ Readable hour minute ∧
      clockMinutes hour minute = some t := by
  have hlength : ¬ ((hour :: minute :: rest).length ≠ 2 ∧ (hour :: minute :: rest).length ≠ 3) := by
    rw [List.length_cons, List.length_cons]
    omega
  rw [readable_and_clockMinutes]
  unfold parseStartMinutes
  dsimp only
  rw [hparts]
  split_ifs with hbad
  · have hdigits := hbad.resolve_left hlength
    constructor
    · intro hok
      cases hok
    · rintro ⟨hrest, h, m, ⟨hhour, -⟩, ⟨hminute, -⟩, -⟩
      rw [List.all_cons, List.all_cons, hhour, hminute, hrest] at hdigits
      cases hdigits
  · obtain ⟨-, hdigits⟩ := not_or.mp hbad
    simp only [List.all_cons, Bool.not_eq_false, Bool.and_eq_true] at hdigits
    obtain ⟨hhour, hminute, hrest⟩ := hdigits
    refine clock_eq_ok.trans ?_
    simp only [List.getD_cons_zero, List.getD_cons_succ, hhour, hminute, hrest, true_and]

theorem parseStartMinutes_of_length {tok : String}
    (h : (clockParts tok).length ≠ 2 ∧ (clockParts tok).length ≠ 3) :
    parseStartMinutes tok = .error (.notATime tok) := by
  unfold parseStartMinutes
  dsimp only
  rw [if_pos (.inl h)]

/-! ## What is accepted and is no time of day -/

/-- The hour or the minute is not in its range, or both have at most 4300 digits, exactly if the
seconds, where there are any, are in theirs. -/
def ChecksSuffice (tok : String) : Prop :=
  match clockParts tok with
  | [hour, minute] => (clockMinutes hour minute).isSome → Readable hour minute
  | [hour, minute, second] => (clockMinutes hour minute).isSome → isDigits second = true →
      (Readable hour minute ↔ isSeconds second = true)
  | _ => True

theorem readsTimeOfDay_iff {tok : String} :
    ReadsTimeOfDay tok ↔ ∀ t, parseStartMinutes tok = .ok t ↔ timeOfDay tok = some t := by
  unfold ReadsTimeOfDay
  cases timeOfDay tok with
  | none =>
    cases parseStartMinutes tok with
    | error e => simp
    | ok t => simp
  | some m =>
    constructor
    · intro h t
      rw [h]
      simp
    · intro h
      exact (h m).mpr rfl

theorem isDigits_of_isSeconds {part : List Char} (h : isSeconds part = true) :
    isDigits part = true := by
  unfold isSeconds decimalNumber at h
  unfold isDigits
  cases hempty : part.isEmpty with
  | true => simp [hempty] at h
  | false =>
    rw [hempty, if_neg (by decide)] at h
    obtain ⟨s, hs, -⟩ := (Option.any_eq_true _ _).mp h
    exact all_isDigitChar_of_decimalValue hs

/-- `parse_start_minutes` accepts exactly the times of day where its checks are enough. -/
theorem parseStartMinutes_exact_iff (tok : String) : ReadsTimeOfDay tok ↔ ChecksSuffice tok := by
  rw [readsTimeOfDay_iff]
  unfold ChecksSuffice timeOfDay
  match hparts : clockParts tok with
  | [hour, minute] =>
    simp only [parseStartMinutes_of_parts hparts (Nat.zero_le 1)]
    cases clockMinutes hour minute with
    | none => simp
    | some m => simp
  | [hour, minute, second] =>
    simp only [parseStartMinutes_of_parts hparts le_rfl]
    cases clockMinutes hour minute with
    | none => simp
    | some m =>
      cases hsecond : isSeconds second with
      | true => simp [isDigits_of_isSeconds hsecond]
      | false => simp
  | [] => simp [parseStartMinutes_of_length, hparts]
  | [_] => simp [parseStartMinutes_of_length, hparts]
  | _ :: _ :: _ :: _ :: _ => simp [parseStartMinutes_of_length, hparts]

/-- A minute has no ninety-ninth second. -/
theorem wild_seconds_accepted :
    timeOfDay "12:30:99" = none ∧ parseStartMinutes "12:30:99" = .ok 750 ∧
      ¬ ReadsTimeOfDay "12:30:99" := by
  have htime : timeOfDay "12:30:99" = none := by decide +kernel
  have hparse : parseStartMinutes "12:30:99" = .ok 750 := by decide +kernel
  refine ⟨htime, hparse, ?_⟩
  unfold ReadsTimeOfDay
  rw [htime, hparse]
  rintro ⟨e, ⟨⟩⟩

end OrbitBhyve.Service
