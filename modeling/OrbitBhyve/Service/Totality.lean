import OrbitBhyve.Devices.DumpOrder
import OrbitBhyve.Service.ProgramCall

/-!
# Which messages the decoders get through

The readers of fields refuse what is malformed and never raise. What raises is
done with the values afterwards: the fault flags are combined, the minutes of a
delay compared, the mask shifted and masked, and the zones of a program turned
into an answer. Each of them has its condition on the types, and together the
conditions say exactly when a status and a dump are decoded and answered.
-/

namespace OrbitBhyve.Service

open Foundation Python Wire Devices

/-! ## Shifts -/

/-- `bool(active_mask & (1 << (sid - 1)))` where the interpreter shifts by at most `limit`
places: past that it raises a `MemoryError` or an `OverflowError`. -/
def enabledBitOn (limit : ℕ) (mask : PbVal) : PbVal → Except PyErr Bool
  | .int (n + 1) => if n ≤ limit then enabledBit mask (.int (n + 1)) else .error .other
  | sid => enabledBit mask sid

def fillEnabledOn (limit : ℕ) (mask : PbVal) : ProgramTable → Except PyErr ProgramTable
  | [] => .ok []
  | (sid, sch) :: rest => do
    let on ← enabledBitOn limit mask sid
    let rest ← fillEnabledOn limit mask rest
    .ok ((sid, { sch with enabled := some on }) :: rest)

def parseSyncDumpOn (limit : ℕ) (stream : Bytes) : Except PyErr SyncDump :=
  parseSyncMessagesBy (fillEnabledOn limit) (splitInnerMessages stream)

/-- The mask is a number, and so is the slot, which counts from 1. -/
def Shiftable (limit : ℕ) (mask sid : PbVal) : Prop :=
  (∃ m, mask = .int m) ∧ ∃ n, sid = .int (n + 1) ∧ n ≤ limit

theorem enabledBitOn_ok_iff {limit : ℕ} {mask sid : PbVal} :
    (∃ on, enabledBitOn limit mask sid = .ok on) ↔ Shiftable limit mask sid := by
  unfold Shiftable
  rcases sid with n | b
  · cases n with
    | zero => simp [enabledBitOn, enabledBit]
    | succ n =>
      rw [enabledBitOn]
      split_ifs with hle
      · cases mask <;> simp [enabledBit, hle]
      · simp [hle]
  · simp [enabledBitOn, enabledBit]

theorem enabledBitOn_eq {limit : ℕ} {mask sid : PbVal} (h : Shiftable limit mask sid) :
    enabledBitOn limit mask sid = enabledBit mask sid := by
  obtain ⟨-, n, rfl, hle⟩ := h
  exact if_pos hle

theorem fillEnabledOn_ok_iff {limit : ℕ} {mask : PbVal} {table : ProgramTable} :
    (∃ table', fillEnabledOn limit mask table = .ok table') ↔
      ∀ e ∈ table, Shiftable limit mask e.1 := by
  induction table with
  | nil => simp [fillEnabledOn]
  | cons e table ih =>
    rw [List.forall_mem_cons, ← ih, ← enabledBitOn_ok_iff, fillEnabledOn]
    cases enabledBitOn limit mask e.1 with
    | error err => simp [bind, Except.bind]
    | ok on => cases fillEnabledOn limit mask table <;> simp [bind, Except.bind]

/-- Where all shifts fit the flags are those of an interpreter without a limit. -/
theorem fillEnabledOn_eq {limit : ℕ} {mask : PbVal} {table : ProgramTable}
    (h : ∀ e ∈ table, Shiftable limit mask e.1) :
    fillEnabledOn limit mask table = fillEnabled mask table := by
  induction table with
  | nil => rfl
  | cons e table ih =>
    rw [List.forall_mem_cons] at h
    rw [fillEnabledOn, fillEnabled, enabledBitOn_eq h.1, ih h.2]

theorem forall_fillEnabled {mask : PbVal} {table table' : ProgramTable}
    (h : fillEnabled mask table = .ok table') {P : ProgramSummary → Prop}
    (hP : ∀ sch on, P { sch with enabled := on } ↔ P sch) :
    (∀ e ∈ table', P e.2) ↔ ∀ e ∈ table, P e.2 := by
  rw [fillEnabled_eq_map h, List.forall_mem_map]
  exact forall₂_congr fun e _ => hP e.2 _

/-! ## Answers -/

/-- A zone of a program has its station and a run time which is a float in minutes. -/
def ZoneTyped (z : Option PbVal × Option PbVal) : Prop :=
  ∃ sid sec, z = (some (.int sid), some (.int sec)) ∧ sec < 60 * floatLimit

theorem zoneMinutes_ok_iff {z : Option PbVal × Option PbVal} :
    (∃ m, zoneMinutes z = .ok m) ↔ ZoneTyped z := by
  obtain ⟨sid, sec⟩ := z
  unfold ZoneTyped
  rcases sid with _ | sid | b <;> rcases sec with _ | sec | c <;> simp only [zoneMinutes] <;>
    try simp
  split_ifs with h <;> simp [h]

theorem zonesMinutes_ok_iff {zones : List (Option PbVal × Option PbVal)} :
    (∃ ms, zonesMinutes zones = .ok ms) ↔ ∀ z ∈ zones, ZoneTyped z := by
  induction zones with
  | nil => simp [zonesMinutes]
  | cons z zones ih =>
    rw [List.forall_mem_cons, ← ih, ← zoneMinutes_ok_iff, zonesMinutes]
    cases zoneMinutes z with
    | error err => simp [bind, Except.bind]
    | ok m => cases zonesMinutes zones <;> simp [bind, Except.bind]

/-- The zones of a program are typed unless its slot is empty. -/
def Renders (sch : ProgramSummary) : Prop := sch.empty = false → ∀ z ∈ sch.zones, ZoneTyped z

theorem summaryToDict_ok_iff {sch : ProgramSummary} :
    (∃ answer, summaryToDict sch = .ok answer) ↔ Renders sch := by
  unfold Renders
  rw [← zonesMinutes_ok_iff, summaryToDict]
  cases sch.empty with
  | true => simp
  | false =>
    cases zonesMinutes sch.zones <;> simp [bind, Except.bind]

/-- What a body lists for a slot can be answered: it is marked as not set, or each of its zones
is typed. -/
def ProgramTyped (f : Option (List Field)) : Prop :=
  (∀ mark, pbField f 2 ≠ some (.bytes mark)) → ∀ field ∈ f.getD [], field.num = 9 →
    ∀ zone, field.val = .bytes zone → ZoneTyped (pbField (pbParse zone) 1, pbField (pbParse zone) 2)

theorem renders_programSummary {f : List Field} :
    Renders (programSummary f) ↔ ProgramTyped (some f) := by
  have hempty : (programSummary f).empty = false ↔
      ∀ mark, pbField (some f) 2 ≠ some (.bytes mark) := by
    rw [programSummary]
    rcases pbField (some f) 2 with _ | n | mark <;> simp [PbVal.isBytes]
  have hzones : (∀ z ∈ (programSummary f).zones, ZoneTyped z) ↔
      ∀ field ∈ f, field.num = 9 → ∀ zone, field.val = .bytes zone →
        ZoneTyped (pbField (pbParse zone) 1, pbField (pbParse zone) 2) := by
    rw [programSummary]
    simp only [List.forall_mem_flatMap]
    refine forall₂_congr fun field _ => ?_
    unfold zoneOf
    cases field.val with
    | int n => simp
    | bytes zone => by_cases hnum : field.num = 9 <;> simp [hnum]
  unfold Renders ProgramTyped
  rw [hempty, hzones]
  rfl

/-! ## Dumps -/

/-- The messages of a stream from which a dump is read and answered. -/
structure DumpTyped (limit : ℕ) (messages : List Bytes) : Prop where
  status : ∀ pb ∈ messages, StatusTyped pb
  /-- Every listed slot has its place in the last mask. -/
  mask : ∀ mask, lastSaid saidMask messages = some (some mask) →
    ∀ pb ∈ messages, ∀ key, listedSlot pb = some key → Shiftable limit mask key
  /-- What is listed for a slot last can be answered. -/
  program : ∀ before pb after key, messages = before ++ pb :: after → listedSlot pb = some key →
    (∀ later ∈ after, listedSlot later ≠ some key) → ProgramTyped (programFields pb)

variable {limit : ℕ} {messages : List Bytes}

theorem forall_renders_iff :
    (∀ e ∈ (listMessages messages).programs, Renders e.2) ↔
      ∀ before pb after key, messages = before ++ pb :: after → listedSlot pb = some key →
        (∀ later ∈ after, listedSlot later ≠ some key) → ProgramTyped (programFields pb) := by
  constructor
  · intro h before pb after key hsplit hslot hafter
    obtain ⟨f, hf, -⟩ := listedAs_of_listedSlot hslot
    have hmem : (key, programSummary f) ∈ (listMessages messages).programs :=
      mem_listMessages_iff.mpr ⟨before, pb, after, f, hsplit, hslot, hafter, hf, rfl⟩
    rw [hf]
    exact renders_programSummary.mp (h _ hmem)
  · rintro h ⟨key, sch⟩ hmem
    obtain ⟨before, pb, after, f, hsplit, hslot, hafter, hf, rfl⟩ := mem_listMessages_iff.mp hmem
    have htyped := h before pb after key hsplit hslot hafter
    rw [hf] at htyped
    exact renders_programSummary.mpr htyped

theorem forall_shiftable_iff {mask : PbVal} :
    (∀ e ∈ (listMessages messages).programs, Shiftable limit mask e.1) ↔
      ∀ pb ∈ messages, ∀ key, listedSlot pb = some key → Shiftable limit mask key := by
  constructor
  · intro h pb hpb key hslot
    obtain ⟨sch, hmem⟩ := exists_mem_of_listedSlot hpb hslot
    exact h _ hmem
  · intro h e he
    obtain ⟨pb, hpb, hslot⟩ := listedSlot_of_mem he
    exact h pb hpb e.1 hslot

/-- A dump is read, and all its programs can be answered. -/
def Answered (limit : ℕ) (stream : Bytes) : Prop :=
  ∃ dump, parseSyncDumpOn limit stream = .ok dump ∧
    ∀ e ∈ dump.programs, ∃ answer, summaryToDict e.2 = .ok answer

theorem answered_iff {stream : Bytes} :
    Answered limit stream ↔ DumpTyped limit (splitInnerMessages stream) := by
  unfold Answered parseSyncDumpOn
  set messages := splitInnerMessages stream
  simp only [summaryToDict_ok_iff, parseSyncMessagesBy_eq_ok, extractStatus_ok_iff]
  have hlast : (listMessages messages).mask = (lastSaid saidMask messages).getD none :=
    mask_foldl_listMessage {} messages
  cases hmask : (listMessages messages).mask with
  | none =>
    have hfree : ∀ mask, lastSaid saidMask messages ≠ some (some mask) := by
      intro mask hsome
      rw [hsome, hmask] at hlast
      cases hlast
    constructor
    · rintro ⟨dump, ⟨hstatus, rfl⟩, hrenders⟩
      exact ⟨hstatus, fun mask hsome => absurd hsome (hfree mask), forall_renders_iff.mp hrenders⟩
    · intro h
      exact ⟨_, ⟨h.status, rfl⟩, forall_renders_iff.mpr h.program⟩
  | some mask =>
    have hsome : lastSaid saidMask messages = some (some mask) := by
      rw [hmask] at hlast
      cases hsaid : lastSaid saidMask messages with
      | none =>
        rw [hsaid] at hlast
        cases hlast
      | some v =>
        rw [hsaid] at hlast
        rw [hlast]
        rfl
    constructor
    · rintro ⟨dump, ⟨hstatus, table, hfill, rfl⟩, hrenders⟩
      have hshift := fillEnabledOn_ok_iff.mp ⟨table, hfill⟩
      rw [fillEnabledOn_eq hshift] at hfill
      refine ⟨hstatus, ?_, forall_renders_iff.mp ((forall_fillEnabled hfill ?_).mp hrenders)⟩
      · intro mask' hmask'
        rw [hsome, Option.some.injEq, Option.some.injEq] at hmask'
        exact hmask' ▸ forall_shiftable_iff.mp hshift
      · exact fun sch on => Iff.rfl
    · intro h
      have hshift := forall_shiftable_iff.mpr (h.mask mask hsome)
      obtain ⟨table, hfill⟩ := fillEnabledOn_ok_iff.mpr hshift
      refine ⟨_, ⟨h.status, table, hfill, rfl⟩, ?_⟩
      rw [fillEnabledOn_eq hshift] at hfill
      exact (forall_fillEnabled hfill fun sch on => Iff.rfl).mpr (forall_renders_iff.mpr h.program)

/-- The decoders get through a message and a stream, and the answers can be given. -/
def DecodersTotal (limit : ℕ) (protobuf stream : Bytes) : Prop :=
  (∃ st, extractStatus protobuf = .ok st) ∧ Answered limit stream

/-- They do exactly on what has the types they combine, compare, shift and divide. -/
theorem decodersTotal_iff (limit : ℕ) (protobuf stream : Bytes) :
    DecodersTotal limit protobuf stream ↔
      StatusTyped protobuf ∧ DumpTyped limit (splitInnerMessages stream) :=
  and_congr extractStatus_ok_iff answered_iff

/-- A program of slot 0 next to a mask. -/
def slotZeroDump : Bytes :=
  [⟨pbFieldBytes 19 (pbFieldVarint 1 0), by decide⟩,
    ⟨pbFieldBytes 20 (pbFieldVarint 1 1), by decide⟩].flatMap Body.frame

/-- `1 << (sid - 1)` is a negative shift there. -/
theorem slotZero_raises : ¬∀ limit protobuf stream, DecodersTotal limit protobuf stream := by
  intro hall
  obtain ⟨-, dump, hdump, -⟩ := hall 5 [] slotZeroDump
  have hraises : parseSyncDumpOn 5 slotZeroDump = .error .valueError := by decide +kernel
  rw [hraises] at hdump
  cases hdump

end OrbitBhyve.Service
