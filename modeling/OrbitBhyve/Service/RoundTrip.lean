import OrbitBhyve.Service.ProgramCall

/-!
# A program set is a program got

What `set_program` accepts comes back from `get_program` as the same program:
the conversions of the call, of the message and of the answer cancel, for
either wire form of the start times.
-/

namespace OrbitBhyve.Service

open Foundation Python Wire Devices

/-! ## Start times -/

def clockOf (tok : String) : Option (ℕ × ℕ) :=
  match clockParts tok with
  | hour :: minute :: _ =>
    match intOfDigits hour, intOfDigits minute with
    | some h, some m => some (h, m)
    | _, _ => none
  | _ => none

/-- A token as `HH:MM`. -/
def normalTime (tok : String) : Option String :=
  (clockOf tok).map fun t => twoDigits t.1 ++ ":" ++ twoDigits t.2

theorem readInt_eq_ok {digits : List Char} {n : ℕ} (h : readInt digits = .ok n) :
    intOfDigits digits = some n := by
  unfold readInt at h
  split at h
  · next m hm =>
    cases h
    exact hm
  · cases h

theorem parseStartMinutes_eq_ok {tok : String} {m : ℕ} (h : parseStartMinutes tok = .ok m) :
    ∃ hour minute, clockOf tok = some (hour, minute) ∧ hour ≤ 23 ∧ minute ≤ 59 ∧
      m = hour * 60 + minute := by
  unfold parseStartMinutes at h
  dsimp only at h
  split_ifs at h with hparts
  obtain ⟨hlen, -⟩ := not_or.mp hparts
  obtain ⟨p, q, rest, hsplit⟩ : ∃ p q rest, clockParts tok = p :: q :: rest := by
    cases hp : clockParts tok with
    | nil => simp [hp] at hlen
    | cons p ps =>
      cases ps with
      | nil => simp [hp] at hlen
      | cons q rest => exact ⟨p, q, rest, rfl⟩
  rw [hsplit] at h
  simp only [List.getD_cons_zero, List.getD_cons_succ] at h
  cases hhour : readInt p with
  | error e =>
    rw [hhour] at h
    cases h
  | ok hour =>
    cases hminute : readInt q with
    | error e =>
      rw [hhour, hminute] at h
      cases h
    | ok minute =>
      rw [hhour, hminute] at h
      dsimp only [bind, Except.bind] at h
      split_ifs at h with hrange
      cases h
      refine ⟨hour, minute, ?_, hrange.1, hrange.2, rfl⟩
      rw [clockOf, hsplit]
      simp only [readInt_eq_ok hhour, readInt_eq_ok hminute]

/-- The minutes of an accepted token are shown as the token's hour and minute. -/
theorem clockText_of_parse {tok : String} {m : ℕ} (h : parseStartMinutes tok = .ok m) :
    some (clockText m) = normalTime tok := by
  obtain ⟨hour, minute, hclock, -, hminute, rfl⟩ := parseStartMinutes_eq_ok h
  have hdiv : (hour * 60 + minute) / 60 = hour := by omega
  have hmod : (hour * 60 + minute) % 60 = minute := by omega
  rw [normalTime, hclock, clockText, hdiv, hmod]
  rfl

theorem parseStarts_cons_eq_ok {tok : String} {toks : List String} {ms : List ℕ}
    (h : parseStarts (tok :: toks) = .ok ms) :
    ∃ m rest, parseStartMinutes tok = .ok m ∧ parseStarts toks = .ok rest ∧ ms = m :: rest := by
  rw [parseStarts] at h
  cases hfirst : parseStartMinutes tok with
  | error e =>
    rw [hfirst] at h
    cases h
  | ok m =>
    cases hrest : parseStarts toks with
    | error e =>
      rw [hfirst, hrest] at h
      cases h
    | ok rest =>
      rw [hfirst, hrest] at h
      cases h
      exact ⟨m, rest, rfl, rfl, rfl⟩

theorem clockTexts_of_parse {toks : List String} {ms : List ℕ} (h : parseStarts toks = .ok ms) :
    (ms.map clockText).map some = toks.map normalTime := by
  induction toks generalizing ms with
  | nil =>
    cases h
    rfl
  | cons tok toks ih =>
    obtain ⟨m, rest, hfirst, hrest, rfl⟩ := parseStarts_cons_eq_ok h
    rw [List.map_cons, List.map_cons, List.map_cons, clockText_of_parse hfirst, ih hrest]

/-! ## Weekdays -/

theorem testBit_foldl_weekdays (days : List Weekday) (mask i : ℕ) :
    (days.foldl (fun mask d => mask ||| 1 <<< d.bit) mask).testBit i = true ↔
      mask.testBit i = true ∨ ∃ d ∈ days, d.bit = i := by
  induction days generalizing mask with
  | nil => simp
  | cons d days ih =>
    rw [List.foldl_cons, ih, Nat.testBit_or, Nat.one_shiftLeft, Nat.testBit_two_pow]
    simp [or_assoc]

theorem testBit_weekdayMask (days : List Weekday) (i : ℕ) :
    (weekdayMask days).testBit i = true ↔ ∃ d ∈ days, d.bit = i := by
  rw [weekdayMask, testBit_foldl_weekdays]
  simp

/-! ## The round trip -/

/-- The answer gives exactly what the call asked for. -/
structure Answers (call : SetProgramCall) (answer : ProgramAnswer) : Prop where
  slot : answer.slot = .letter call.slot
  dayMode : answer.dayMode = some call.dayMode
  weekdayMask : answer.weekdayMask =
    if call.dayMode = .weekdays then some (.int (weekdayMask (call.weekdays.getD []))) else none
  intervalDays : answer.intervalDays =
    if call.dayMode = .interval then call.intervalDays.map .int else none
  intervalAnchor : answer.intervalAnchor =
    if call.dayMode = .interval then call.intervalAnchor.filter (· ≠ "") else none
  startTimes : answer.startTimes.map some = call.startTimes.map normalTime
  zones : answer.zones = call.zones.map fun z => ⟨z.zone, .hundredths (100 * z.minutes)⟩
  budget : answer.budget = some (.int call.budget)
  name : answer.name = if call.name = "" then none else some (.text call.name)

theorem slotLabel_number (slot : ProgramSlot) :
    slotLabel (some (.int slot.number)) = .letter slot := by
  cases slot <;> rfl

theorem zonesMinutes_of_call (zones : List ZoneEntry) :
    zonesMinutes (zones.map fun z =>
      (some (.int (z.zone - 1)), some (.int (z.minutes * 60)))) =
        .ok (zones.map fun z => ⟨z.zone, .hundredths (100 * z.minutes)⟩) := by
  induction zones with
  | nil => rfl
  | cons z zones ih =>
    have hzone : z.zone - 1 + 1 = z.zone := by
      have := z.zone_range
      omega
    have hminutes : roundHalfEven (z.minutes * 60 * 100) 60 = 100 * z.minutes := by
      have hdiv : z.minutes * 60 * 100 / 60 = 100 * z.minutes := by omega
      have hmod : z.minutes * 60 * 100 % 60 = 0 := by omega
      rw [roundHalfEven, hdiv, hmod]
      rfl
    have hfloat : z.minutes * 60 < 60 * floatLimit := by
      have := z.minutes_range
      have hlimit : 1440 < floatLimit := lt_floatLimit (show 1440 < 2 ^ 11 by decide) (by decide)
      omega
    rw [List.map_cons, zonesMinutes, ih, zoneMinutes, if_pos hfloat, hzone, hminutes]
    simp [bind, Except.bind]

structure FromCall (call : SetProgramCall) (spec : ProgramSpec) : Prop where
  mask : callWeekdayMask call = .ok spec.weekdayMask
  starts : parseStarts call.startTimes = .ok spec.startMins
  slot : spec.slot = call.slot.number
  dayMode : spec.dayMode = call.dayMode
  intervalDays : spec.intervalDays = call.intervalDays
  intervalAnchor : spec.intervalAnchor = call.intervalAnchor
  zones : spec.zones = call.zones.map fun z => (z.zone - 1, z.minutes * 60)
  name : spec.name = call.name
  budget : spec.budget = call.budget

theorem validateProgramName_eq_ok {name name' : String}
    (h : validateProgramName name = .ok name') :
    name' = name ∧ (encodeText name).length ≤ MAX_PROGRAM_NAME_BYTES := by
  unfold validateProgramName at h
  split_ifs at h with hlong
  cases h
  exact ⟨rfl, Nat.not_lt.mp hlong⟩

theorem of_specFromCall {call : SetProgramCall} {spec : ProgramSpec}
    (h : specFromCall call = .ok spec) :
    FromCall call spec ∧ validateProgramName call.name = .ok spec.name := by
  unfold specFromCall at h
  cases hmask : callWeekdayMask call with
  | error e =>
    rw [hmask] at h
    cases h
  | ok mask =>
    cases hstarts : parseStarts call.startTimes with
    | error e =>
      rw [hmask, hstarts] at h
      cases h
    | ok startMins =>
      cases hname : validateProgramName call.name with
      | error e =>
        rw [hmask, hstarts, hname] at h
        cases h
      | ok name =>
        rw [hmask, hstarts, hname] at h
        cases h
        refine ⟨?_, rfl⟩
        exact {
          mask := hmask
          starts := hstarts
          slot := rfl
          dayMode := rfl
          intervalDays := rfl
          intervalAnchor := rfl
          zones := rfl
          name := (validateProgramName_eq_ok hname).1
          budget := rfl }

theorem fromCall_of_specFromCall {call : SetProgramCall} {spec : ProgramSpec}
    (h : specFromCall call = .ok spec) : FromCall call spec :=
  (of_specFromCall h).1

theorem weekdayMask_of_call {call : SetProgramCall} {mask : Option ℕ}
    (h : callWeekdayMask call = .ok mask) :
    (if call.dayMode = .weekdays then some (PbVal.int (mask.getD 0)) else none) =
      if call.dayMode = .weekdays then some (.int (weekdayMask (call.weekdays.getD []))) else none := by
  split_ifs with hmode
  · unfold callWeekdayMask at h
    rw [hmode] at h
    dsimp only at h
    split_ifs at h
    cases h
    rfl
  · rfl

theorem intervalDays_of_call {call : SetProgramCall} {mask : Option ℕ}
    (h : callWeekdayMask call = .ok mask) (hmode : call.dayMode = .interval) :
    ∃ days, call.intervalDays = some days ∧ days ≠ 0 := by
  unfold callWeekdayMask at h
  rw [hmode] at h
  dsimp only at h
  split_ifs at h with hdays
  cases hcall : call.intervalDays with
  | none =>
    rw [hcall] at hdays
    exact absurd rfl hdays
  | some days =>
    rw [hcall] at hdays
    exact ⟨days, rfl, hdays⟩

/-- The summary of an accepted call is answered with the call's program. -/
theorem summaryToDict_summary {call : SetProgramCall} {spec : ProgramSpec}
    (h : specFromCall call = .ok spec) :
    ∃ answer, summaryToDict spec.summary = .ok (.stored answer) ∧ Answers call answer := by
  have hcall := fromCall_of_specFromCall h
  have hzones : zonesMinutes spec.summary.zones =
      .ok (call.zones.map fun z => ⟨z.zone, .hundredths (100 * z.minutes)⟩) := by
    have hsummary : spec.summary.zones =
        spec.zones.map fun z => (some (.int z.1), some (.int z.2)) := rfl
    rw [hsummary, hcall.zones, List.map_map, ← zonesMinutes_of_call]
    rfl
  have hdict : summaryToDict spec.summary = .ok (.stored {
      slot := slotLabel (some (.int spec.slot))
      enabled := none
      name := if spec.name = "" then none else some (.text spec.name)
      dayMode := some spec.dayMode
      weekdayMask :=
        if spec.dayMode = .weekdays then some (.int (spec.weekdayMask.getD 0)) else none
      intervalDays := if spec.dayMode = .interval then some (.int spec.writtenInterval) else none
      intervalAnchor := if spec.dayMode = .interval then spec.writtenAnchor else none
      startTimes := spec.startMins.map clockText
      zones := call.zones.map fun z => ⟨z.zone, .hundredths (100 * z.minutes)⟩
      budget := some (.int spec.budget) }) := by
    have hempty : spec.summary.empty = false := rfl
    rw [summaryToDict, hempty, hzones]
    rfl
  refine ⟨_, hdict, ?_⟩
  exact {
    slot := by rw [hcall.slot, slotLabel_number]
    dayMode := congrArg some hcall.dayMode
    weekdayMask := by
      dsimp only
      rw [hcall.dayMode]
      exact weekdayMask_of_call hcall.mask
    intervalDays := by
      dsimp only
      rw [hcall.dayMode]
      split_ifs with hmode
      · obtain ⟨days, hdays, hne⟩ := intervalDays_of_call hcall.mask hmode
        rw [ProgramSpec.writtenInterval, hcall.intervalDays, hdays, Option.getD_some, if_neg hne,
          Option.map_some]
      · rfl
    intervalAnchor := by
      dsimp only
      rw [hcall.dayMode, ProgramSpec.writtenAnchor, hcall.intervalAnchor]
    startTimes := clockTexts_of_parse hcall.starts
    zones := rfl
    budget := by rw [hcall.budget]
    name := by rw [hcall.name] }

/-- A program which the service accepts is read back as the same program, from the body as
it was written and from the body as the device echoes it. -/
theorem setProgram_reads_back (call : SetProgramCall) {spec : ProgramSpec}
    (h : specFromCall call = .ok spec) {pb : Bytes}
    (hpb : pb = buildProgramPb spec ∨ pb = pbFieldBytes 19 spec.packedBody) :
    ∃ body sch answer, pbField (pbParse pb) 19 = some (.bytes body) ∧
      parseProgramBody body = some sch ∧ summaryToDict sch = .ok (.stored answer) ∧
      Answers call answer := by
  obtain ⟨answer, hdict, hanswer⟩ := summaryToDict_summary h
  have hfield : ∀ body, pbField (pbParse (pbFieldBytes 19 body)) 19 = some (.bytes body) := by
    intro body
    rw [pbParse_pbFieldBytes, pbField_cons, Field.blob_num, if_pos rfl, Field.blob_val]
  rcases hpb with rfl | rfl
  · exact ⟨buildProgramBody spec, spec.summary, answer, hfield _,
      spec.parseProgramBody_buildProgramBody, hdict, hanswer⟩
  · exact ⟨spec.packedBody, spec.summary, answer, hfield _, spec.parseProgramBody_packedBody, hdict,
      hanswer⟩

/-- Mondays at 18:00 in slot A, zone 1 for five minutes. -/
def mondayCall : SetProgramCall where
  slot := .A
  dayMode := .weekdays
  weekdays := some [.mon]
  startTimes := ["18:00", "06:30:15"]
  zones := [{ zone := 1, minutes := 5, zone_range := by decide, minutes_range := by decide }]
  interval_range := by simp
  budget_le := by decide

example : (normalTime "18:00", normalTime " 6:30:15") = (some "18:00", some "06:30") := by
  decide +kernel

def mondaySpec : ProgramSpec where
  slot := 1
  slot_pos := Nat.one_pos
  dayMode := .weekdays
  weekdayMask := some 2
  startMins := [1080, 390]
  zones := [(0, 300)]

theorem setProgram_reads_back_monday :
    ∃ body sch answer, pbField (pbParse (buildProgramPb mondaySpec)) 19 = some (.bytes body) ∧
      parseProgramBody body = some sch ∧ summaryToDict sch = .ok (.stored answer) ∧
      Answers mondayCall answer :=
  setProgram_reads_back mondayCall (by decide +kernel) (.inl rfl)

end OrbitBhyve.Service
