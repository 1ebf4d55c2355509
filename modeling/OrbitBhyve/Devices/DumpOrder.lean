import OrbitBhyve.Devices.SyncDump

/-!
# A sync dump in any order

`extract_status` raises in two places, where it combines the two halves of the
fault flags and where it compares the minutes of a rain delay. A dump of
messages which pass both, name each slot once, and carry one mask and one
status at most, is read the same in any order.
-/

namespace OrbitBhyve.Devices

open Foundation Python Wire

/-! ## Statuses which decode -/

/-- A value for which `value or 0` is a number. -/
def NumberOrEmpty (v : Option PbVal) : Prop := ∀ b, v = some (.bytes b) → b = []

/-- Both halves of the station fault flags can be combined. -/
def FaultsTyped (s : Option (List Field)) : Prop :=
  ∀ flt, pbField s 7 = some (.bytes flt) →
    NumberOrEmpty (pbField (pbParse flt) 2) ∧ NumberOrEmpty (pbField (pbParse flt) 3)

/-- The minutes of a rain delay can be compared where nothing says that it is enabled. -/
def RainTyped (s : Option (List Field)) : Prop :=
  ∀ rd, pbField s 13 = some (.bytes rd) → pbField (pbParse rd) 4 = none →
    ∀ b, pbField (pbParse rd) 1 ≠ some (.bytes b)

/-- The `#16` block of a message, where it has one, has the types which are combined or compared. -/
def StatusTyped (pb : Bytes) : Prop :=
  ∀ status, pbField (pbParse pb) 16 = some (.bytes status) →
    FaultsTyped (pbParse status) ∧ RainTyped (pbParse status)

theorem orZero_int_iff {v : Option PbVal} : (∃ n, orZero v = .int n) ↔ NumberOrEmpty v := by
  unfold NumberOrEmpty
  rcases v with _ | n | b
  · simp [orZero]
  · cases n <;> simp [orZero, PbVal.truthy]
  · cases b <;> simp [orZero, PbVal.truthy]

theorem stationFaultFlags_ok_iff {lo hi : Option PbVal} :
    (∃ n, stationFaultFlags lo hi = .ok n) ↔ NumberOrEmpty lo ∧ NumberOrEmpty hi := by
  rw [← orZero_int_iff, ← orZero_int_iff]
  unfold stationFaultFlags
  cases orZero lo <;> cases orZero hi <;> simp

theorem faultsOf_ok_iff {s : Option (List Field)} :
    (∃ f, faultsOf s = .ok f) ↔ FaultsTyped s := by
  unfold faultsOf FaultsTyped
  rcases pbField s 7 with _ | n | flt
  · simp
  · simp
  · have hflags := @stationFaultFlags_ok_iff (pbField (pbParse flt) 2) (pbField (pbParse flt) 3)
    simp only [Option.some.injEq, PbVal.bytes.injEq, forall_eq']
    rw [← hflags, faultBlock]
    cases stationFaultFlags (pbField (pbParse flt) 2) (pbField (pbParse flt) 3) <;>
      simp [bind, Except.bind, Except.map]

theorem rainDelayOf_ok_iff {s : Option (List Field)} :
    (∃ r, rainDelayOf s = .ok r) ↔ RainTyped s := by
  unfold rainDelayOf RainTyped
  rcases pbField s 13 with _ | n | rd
  · simp
  · simp
  · simp only [Option.some.injEq, PbVal.bytes.injEq, forall_eq']
    unfold rainDelayEnabled
    rcases pbField (pbParse rd) 4 with _ | e
    · rcases pbField (pbParse rd) 1 with _ | m | b <;> simp [bind, Except.bind]
    · simp [bind, Except.bind]

theorem extractStatus_ok_iff {pb : Bytes} : (∃ st, extractStatus pb = .ok st) ↔ StatusTyped pb := by
  by_cases hblock : ∃ status, pbField (pbParse pb) 16 = some (.bytes status)
  · obtain ⟨status, hstatus⟩ := hblock
    obtain ⟨top, htop⟩ := pbParse_of_pbField hstatus
    have hblock : (∃ st, extractStatus pb = .ok st) ↔
        ∃ st, statusBlock (pbParse status) = .ok st := by
      unfold extractStatus
      rw [htop] at hstatus ⊢
      simp only [extractTop_eq_ok, statusOf, hstatus]
      constructor
      · rintro ⟨-, block, hok, -⟩
        exact ⟨block, hok⟩
      · rintro ⟨block, hok⟩
        exact ⟨_, block, hok, rfl⟩
    have htyped : StatusTyped pb ↔ FaultsTyped (pbParse status) ∧ RainTyped (pbParse status) := by
      unfold StatusTyped
      simp [hstatus]
    rw [hblock, htyped, ← faultsOf_ok_iff, ← rainDelayOf_ok_iff, statusBlock]
    cases faultsOf (pbParse status) <;> cases rainDelayOf (pbParse status) <;>
      simp [bind, Except.bind]
  · rw [not_exists] at hblock
    exact iff_of_true (extractStatus_of_no_block hblock)
      fun status hstatus => absurd hstatus (hblock status)

/-! ## What a message lists -/

def programFields (pb : Bytes) : Option (List Field) :=
  match pbField (pbParse pb) 19 with
  | some (.bytes p19) => pbParse p19
  | _ => none

def listedSlot (pb : Bytes) : Option PbVal := pbField (programFields pb) 1

theorem listedAs_eq (key : PbVal) (pb : Bytes) :
    listedAs key pb =
      if listedSlot pb = some key then (programFields pb).map programSummary else none := by
  unfold listedAs listedProgram listedSlot programFields
  rcases pbField (pbParse pb) 19 with _ | n | p19
  · rfl
  · rfl
  · simp only [parseProgramBody]
    cases pbParse p19 with
    | none => rfl
    | some f =>
      simp only [Option.map_some, programSummary]
      cases pbField (some f) 1 with
      | none => rfl
      | some slot => simp

theorem listedSlot_of_listedAs {key : PbVal} {pb : Bytes} {sch : ProgramSummary}
    (h : listedAs key pb = some sch) : listedSlot pb = some key := by
  rw [listedAs_eq] at h
  split_ifs at h with hslot
  exact hslot

theorem listedAs_of_listedSlot {key : PbVal} {pb : Bytes} (h : listedSlot pb = some key) :
    ∃ f, programFields pb = some f ∧ listedAs key pb = some (programSummary f) := by
  cases hfields : programFields pb with
  | none => simp [listedSlot, hfields] at h
  | some f => exact ⟨f, rfl, by rw [listedAs_eq, if_pos h, hfields, Option.map_some]⟩

theorem distinct_listMessages (messages : List Bytes) :
    (listMessages messages).programs.Distinct := by
  suffices h : ∀ acc : SyncDump, acc.programs.Distinct →
      (messages.foldl listMessage acc).programs.Distinct from h {} trivial
  induction messages with
  | nil => exact fun acc h => h
  | cons pb messages ih =>
    intro acc hacc
    rw [List.foldl_cons]
    apply ih
    unfold listMessage
    cases listedProgram pb with
    | none => exact hacc
    | some e => exact ProgramTable.distinct_set hacc e.1 e.2

theorem mem_listMessages_iff {messages : List Bytes} {key : PbVal} {sch : ProgramSummary} :
    (key, sch) ∈ (listMessages messages).programs ↔
      ∃ before pb after f, messages = before ++ pb :: after ∧ listedSlot pb = some key ∧
        (∀ later ∈ after, listedSlot later ≠ some key) ∧ programFields pb = some f ∧
        sch = programSummary f := by
  have hnone : ∀ pb, listedAs key pb = none ↔ listedSlot pb ≠ some key := by
    intro pb
    constructor
    · intro hpb hslot
      obtain ⟨f, -, hf⟩ := listedAs_of_listedSlot hslot
      rw [hpb] at hf
      cases hf
    · intro hslot
      rw [listedAs_eq, if_neg hslot]
  rw [ProgramTable.mem_iff_get (distinct_listMessages messages), listMessages,
    get_foldl_listMessage, ProgramTable.get_nil, Option.or_none, lastSaid_eq_some]
  constructor
  · rintro ⟨before, pb, after, hsplit, hpb, hafter⟩
    have hslot := listedSlot_of_listedAs hpb
    obtain ⟨f, hf, hlisted⟩ := listedAs_of_listedSlot hslot
    exact ⟨before, pb, after, f, hsplit, hslot, fun later hl => (hnone later).mp (hafter later hl),
      hf, Option.some.inj (hpb.symm.trans hlisted)⟩
  · rintro ⟨before, pb, after, f, hsplit, hslot, hafter, hf, rfl⟩
    refine ⟨before, pb, after, hsplit, ?_, fun later hl => (hnone later).mpr (hafter later hl)⟩
    rw [listedAs_eq, if_pos hslot, hf, Option.map_some]

theorem listedSlot_of_mem {messages : List Bytes} {e : PbVal × ProgramSummary}
    (h : e ∈ (listMessages messages).programs) : ∃ pb ∈ messages, listedSlot pb = some e.1 := by
  obtain ⟨before, pb, after, -, hsplit, hslot, -⟩ := mem_listMessages_iff.mp h
  exact ⟨pb, by simp [hsplit], hslot⟩

theorem exists_mem_of_listedSlot {messages : List Bytes} {pb : Bytes} {key : PbVal}
    (hpb : pb ∈ messages) (hslot : listedSlot pb = some key) :
    ∃ sch, (key, sch) ∈ (listMessages messages).programs := by
  have hsaid : lastSaid (listedAs key) messages ≠ none := by
    intro hnone
    obtain ⟨f, -, hf⟩ := listedAs_of_listedSlot hslot
    rw [lastSaid_eq_none.mp hnone pb hpb] at hf
    cases hf
  obtain ⟨sch, hsch⟩ := Option.ne_none_iff_exists'.mp hsaid
  refine ⟨sch, (ProgramTable.mem_iff_get (distinct_listMessages messages)).mpr ?_⟩
  rw [listMessages, get_foldl_listMessage, hsch, Option.some_or]

/-! ## Dumps -/

/-- A message of a dump: a program has one of the six slots, a mask carries its `#1`, a status
decodes. -/
structure WellFormed (pb : Bytes) : Prop where
  fits : pb.length ≤ 253
  slot : ∀ key, listedSlot pb = some key → ∃ n, key = .int (n + 1) ∧ n < 6
  mask : ∀ v, saidMask pb = some v → ∃ m, v = some (.int m)
  status : StatusTyped pb

/-- The messages of a dump: no slot is named twice, and there is one mask and one status at
most. -/
structure DumpMessages (bodies : List Bytes) : Prop where
  wellFormed : ∀ pb ∈ bodies, WellFormed pb
  slots : bodies.Pairwise fun a b => listedSlot a = none ∨ listedSlot a ≠ listedSlot b
  mask : SaysOnce saidMask bodies
  status : SaysOnce saidStatus bodies

/-- The same results: the tables are equal as dictionaries. -/
structure SameDump (dump dump' : SyncDump) : Prop where
  programs : ∀ key, dump'.programs.get key = dump.programs.get key
  mask : dump'.mask = dump.mask
  status : dump'.status = dump.status

def fillFlag (mask : Option PbVal) (key : PbVal) (sch : ProgramSummary) : ProgramSummary :=
  match mask with
  | none => sch
  | some mask => { sch with enabled := (enabledBit mask key).toOption }

/-- Bit `n` of a mask, and nothing without one. -/
def flagOf (mask : Option PbVal) (n : ℕ) : Option Bool :=
  match mask with
  | some (.int m) => some (m.testBit n)
  | _ => none

/-- The messages say this, wherever in the dump they stand: the program of a slot is the one
whose `#19` names it, its flag is the slot's bit of the mask, and mask and status are those
of the `#20` and the `#16`. -/
structure SaidBy (bodies : List Bytes) (dump : SyncDump) : Prop where
  programs : ∀ key sch, dump.programs.get key = some sch ↔
    ∃ pb ∈ bodies, ∃ p19 f n, pbField (pbParse pb) 19 = some (.bytes p19) ∧
      pbParse p19 = some f ∧ pbField (some f) 1 = some (.int (n + 1)) ∧ key = .int (n + 1) ∧
        sch = { programSummary f with enabled := flagOf dump.mask n }
  mask : ∀ v, dump.mask = some v ↔ ∃ m, v = .int m ∧
    ∃ pb ∈ bodies, ∃ p20, pbField (pbParse pb) 20 = some (.bytes p20) ∧
      pbField (pbParse p20) 1 = some (.int m)
  status : ∀ st, dump.status = some st ↔
    ∃ pb ∈ bodies, ∃ p16, pbField (pbParse pb) 16 = some (.bytes p16) ∧ extractStatus pb = .ok st

theorem programFields_eq_some {pb : Bytes} {f : List Field} :
    programFields pb = some f ↔
      ∃ p19, pbField (pbParse pb) 19 = some (.bytes p19) ∧ pbParse p19 = some f := by
  unfold programFields
  rcases pbField (pbParse pb) 19 with _ | n | p19 <;> simp

theorem listedAs_iff {key : PbVal} {pb : Bytes} {sch : ProgramSummary} :
    listedAs key pb = some sch ↔ ∃ p19 f, pbField (pbParse pb) 19 = some (.bytes p19) ∧
      pbParse p19 = some f ∧ pbField (some f) 1 = some key ∧ sch = programSummary f := by
  rw [listedAs_eq, listedSlot]
  constructor
  · intro hlist
    split_ifs at hlist with hslot
    obtain ⟨f, hf, rfl⟩ := Option.map_eq_some_iff.mp hlist
    obtain ⟨p19, h19, hparse⟩ := programFields_eq_some.mp hf
    rw [hf] at hslot
    exact ⟨p19, f, h19, hparse, hslot, rfl⟩
  · rintro ⟨p19, f, h19, hparse, hslot, rfl⟩
    rw [programFields_eq_some.mpr ⟨p19, h19, hparse⟩, if_pos hslot, Option.map_some]

theorem saidMask_iff {pb : Bytes} {v : PbVal} :
    saidMask pb = some (some v) ↔ ∃ p20, pbField (pbParse pb) 20 = some (.bytes p20) ∧
      pbField (pbParse p20) 1 = some v := by
  unfold saidMask
  rcases pbField (pbParse pb) 20 with _ | n | p20 <;> simp

theorem saidStatus_iff {pb : Bytes} {st : DeviceStatus} :
    saidStatus pb = some (some st) ↔
      ∃ p16, pbField (pbParse pb) 16 = some (.bytes p16) ∧ extractStatus pb = .ok st := by
  unfold saidStatus
  rcases pbField (pbParse pb) 16 with _ | n | p16
  · simp
  · simp
  · cases extractStatus pb <;> simp [Except.toOption]

theorem fillFlag_programSummary {mask : Option PbVal}
    (hmask : mask = none ∨ ∃ m, mask = some (.int m)) (f : List Field) (n : ℕ) :
    fillFlag mask (.int (n + 1)) (programSummary f) =
      { programSummary f with enabled := flagOf mask n } := by
  rcases hmask with rfl | ⟨m, rfl⟩
  · rfl
  · rfl

namespace DumpMessages

variable {bodies bodies' : List Bytes}

theorem saysOnce_listedAs (h : DumpMessages bodies) (key : PbVal) :
    SaysOnce (listedAs key) bodies := by
  refine h.slots.imp ?_
  intro a b hab
  rw [listedAs_eq, listedAs_eq]
  by_cases ha : listedSlot a = some key
  · right
    rw [if_neg]
    intro hb
    rcases hab with hnone | hne
    · rw [hnone] at ha
      cases ha
    · exact hne (ha.trans hb.symm)
  · left
    rw [if_neg ha]

theorem perm (h : DumpMessages bodies) (hperm : bodies.Perm bodies') : DumpMessages bodies' where
  wellFormed := fun pb hpb => h.wellFormed pb (hperm.mem_iff.mpr hpb)
  slots := by
    refine (hperm.pairwise_iff ?_).mp h.slots
    rintro a b (hnone | hne)
    · by_cases hb : listedSlot b = none
      · exact Or.inl hb
      · exact Or.inr fun hba => hb (hba.trans hnone)
    · exact Or.inr hne.symm
  mask := h.mask.perm hperm
  status := h.status.perm hperm

theorem mask_listMessages (h : DumpMessages bodies) :
    (listMessages bodies).mask = none ∨ ∃ m, (listMessages bodies).mask = some (.int m) := by
  rw [listMessages, mask_foldl_listMessage]
  cases hsaid : lastSaid saidMask bodies with
  | none => exact Or.inl rfl
  | some v =>
    obtain ⟨before, pb, after, hsplit, hpb, -⟩ := lastSaid_eq_some.mp hsaid
    exact Or.inr ((h.wellFormed pb (by simp [hsplit])).mask v hpb)

theorem enabledBit_ok (h : DumpMessages bodies) (m : ℕ) {e : PbVal × ProgramSummary}
    (he : e ∈ (listMessages bodies).programs) :
    ∃ n, e.1 = .int (n + 1) ∧ enabledBit (.int m) e.1 = .ok (m.testBit n) := by
  obtain ⟨pb, hpb, hslot⟩ := listedSlot_of_mem he
  obtain ⟨n, hn, -⟩ := (h.wellFormed pb hpb).slot e.1 hslot
  exact ⟨n, hn, by rw [hn]; rfl⟩

/-- A dump is read through: the flags are filled into the table which its messages list. -/
theorem exists_parse (h : DumpMessages bodies) :
    ∃ dump, parseSyncMessages bodies = .ok dump ∧ dump.mask = (listMessages bodies).mask ∧
      dump.status = (listMessages bodies).status ∧
      ∀ key, dump.programs.get key = ((listMessages bodies).programs.get key).map
        (fillFlag (listMessages bodies).mask key) := by
  have hdecodes : ∀ pb ∈ bodies, ∃ st, extractStatus pb = .ok st :=
    fun pb hpb => extractStatus_ok_iff.mpr (h.wellFormed pb hpb).status
  rcases h.mask_listMessages with hmask | ⟨m, hmask⟩
  · refine ⟨listMessages bodies, ?_, rfl, rfl, ?_⟩
    · rw [parseSyncMessages_eq_ok, hmask]
      exact ⟨hdecodes, rfl⟩
    · intro key
      rw [hmask]
      exact Option.map_id'.symm
  · obtain ⟨table, hfill⟩ := fillEnabled_ok_iff.mpr fun e he =>
      (h.enabledBit_ok m he).imp' (fun n => m.testBit n) fun n hn => hn.2
    refine ⟨{ listMessages bodies with programs := table }, ?_, rfl, rfl, ?_⟩
    · rw [parseSyncMessages_eq_ok, hmask]
      exact ⟨hdecodes, table, hfill, rfl⟩
    · intro key
      rw [hmask]
      exact fillEnabled_eq_ok hfill key

theorem listMessages_perm (h : DumpMessages bodies) (hperm : bodies.Perm bodies') :
    SameDump (listMessages bodies) (listMessages bodies') where
  programs := by
    intro key
    rw [listMessages, listMessages, get_foldl_listMessage, get_foldl_listMessage,
      (h.saysOnce_listedAs key).lastSaid_perm hperm]
  mask := by
    rw [listMessages, listMessages, mask_foldl_listMessage, mask_foldl_listMessage,
      h.mask.lastSaid_perm hperm]
  status := by
    rw [listMessages, listMessages, status_foldl_listMessage, status_foldl_listMessage,
      h.status.lastSaid_perm hperm]

theorem get_listMessages_iff (h : DumpMessages bodies) {key : PbVal} {sch : ProgramSummary} :
    (listMessages bodies).programs.get key = some sch ↔
      ∃ pb ∈ bodies, listedAs key pb = some sch := by
  rw [listMessages, get_foldl_listMessage, ProgramTable.get_nil, Option.or_none]
  exact (h.saysOnce_listedAs key).lastSaid_eq_some

theorem saidBy (h : DumpMessages bodies) {dump : SyncDump}
    (hmask : dump.mask = (listMessages bodies).mask)
    (hstatus : dump.status = (listMessages bodies).status)
    (hget : ∀ key, dump.programs.get key = ((listMessages bodies).programs.get key).map
      (fillFlag (listMessages bodies).mask key)) : SaidBy bodies dump where
  programs := by
    intro key sch
    rw [hget, Option.map_eq_some_iff, hmask]
    constructor
    · rintro ⟨listed, hlisted, rfl⟩
      obtain ⟨pb, hpb, hlist⟩ := h.get_listMessages_iff.mp hlisted
      obtain ⟨p19, f, h19, hf, hslot, rfl⟩ := listedAs_iff.mp hlist
      obtain ⟨n, rfl, -⟩ := (h.wellFormed pb hpb).slot key (listedSlot_of_listedAs hlist)
      exact ⟨pb, hpb, p19, f, n, h19, hf, hslot, rfl,
        fillFlag_programSummary h.mask_listMessages f n⟩
    · rintro ⟨pb, hpb, p19, f, n, h19, hf, hslot, rfl, rfl⟩
      have hlist : listedAs (.int (n + 1)) pb = some (programSummary f) :=
        listedAs_iff.mpr ⟨p19, f, h19, hf, hslot, rfl⟩
      exact ⟨programSummary f, h.get_listMessages_iff.mpr ⟨pb, hpb, hlist⟩,
        fillFlag_programSummary h.mask_listMessages f n⟩
  mask := by
    intro v
    rw [hmask, listMessages, mask_foldl_listMessage, h.mask.getD_lastSaid_eq_some]
    constructor
    · rintro ⟨pb, hpb, hsaid⟩
      obtain ⟨m, hm⟩ := (h.wellFormed pb hpb).mask (some v) hsaid
      cases hm
      exact ⟨m, rfl, pb, hpb, saidMask_iff.mp hsaid⟩
    · rintro ⟨m, rfl, pb, hpb, hsaid⟩
      exact ⟨pb, hpb, saidMask_iff.mpr hsaid⟩
  status := by
    intro st
    rw [hstatus, listMessages, status_foldl_listMessage, h.status.getD_lastSaid_eq_some]
    simp only [saidStatus_iff]

end DumpMessages

/-- A dump is read the same in every order, as what its messages say. -/
theorem parseSyncDump_perm (bodies bodies' : List Bytes) (h : DumpMessages bodies)
    (hperm : bodies.Perm bodies') :
    ∃ frames frames' dump dump', bodies.mapM buildMessage = .ok frames ∧
      bodies'.mapM buildMessage = .ok frames' ∧ parseSyncDump frames.flatten = .ok dump ∧
      parseSyncDump frames'.flatten = .ok dump' ∧ SameDump dump dump' ∧ SaidBy bodies dump ∧
      SaidBy bodies' dump' := by
  have h' := h.perm hperm
  obtain ⟨frames, hframes, hsplit⟩ := splitInnerMessages_built fun b hb => (h.wellFormed b hb).fits
  obtain ⟨frames', hframes', hsplit'⟩ :=
    splitInnerMessages_built fun b hb => (h'.wellFormed b hb).fits
  obtain ⟨dump, hparse, hmask, hstatus, hget⟩ := h.exists_parse
  obtain ⟨dump', hparse', hmask', hstatus', hget'⟩ := h'.exists_parse
  have hsame := h.listMessages_perm hperm
  refine ⟨frames, frames', dump, dump', hframes, hframes', ?_, ?_, ⟨?_, ?_, ?_⟩,
    h.saidBy hmask hstatus hget, h'.saidBy hmask' hstatus' hget'⟩
  · rw [parseSyncDump, hsplit, hparse]
  · rw [parseSyncDump, hsplit', hparse']
  · intro key
    rw [hget, hget', hsame.programs, hsame.mask]
  · rw [hmask, hmask', hsame.mask]
  · rw [hstatus, hstatus', hsame.status]

theorem statusTyped_of_saidStatus {pb : Bytes} (h : saidStatus pb = none) : StatusTyped pb := by
  intro status hstatus
  simp [saidStatus, hstatus] at h

/-- A mask with two enabled slots, and the programs of both. -/
def twoSlotDump : List Bytes :=
  [pbFieldBytes 20 (pbFieldVarint 1 3), pbFieldBytes 19 (pbFieldVarint 1 1),
    pbFieldBytes 19 (pbFieldVarint 1 2)]

theorem twoSlotDump_says : twoSlotDump.map (fun pb => (listedSlot pb, saidMask pb, saidStatus pb)) =
    [(none, some (some (.int 3)), none), (some (.int 1), none, none),
      (some (.int 2), none, none)] := by
  decide +kernel

theorem dumpMessages_twoSlotDump : DumpMessages twoSlotDump := by
  have hsays := twoSlotDump_says
  simp only [twoSlotDump, List.map_cons, List.map_nil, List.cons.injEq, Prod.mk.injEq] at hsays
  obtain ⟨⟨hs₁, hm₁, ht₁⟩, ⟨hs₂, hm₂, ht₂⟩, ⟨hs₃, hm₃, ht₃⟩, -⟩ := hsays
  refine ⟨?_, ?_, ?_, ?_⟩
  · simp only [twoSlotDump, List.forall_mem_cons]
    refine ⟨⟨by decide, by simp [hs₁], by simp [hm₁], statusTyped_of_saidStatus ht₁⟩,
      ⟨by decide, ?_, by simp [hm₂], statusTyped_of_saidStatus ht₂⟩,
      ⟨by decide, ?_, by simp [hm₃], statusTyped_of_saidStatus ht₃⟩, by simp⟩
    · rintro key hkey
      exact ⟨0, Option.some.inj (hkey.symm.trans hs₂), by decide⟩
    · rintro key hkey
      exact ⟨1, Option.some.inj (hkey.symm.trans hs₃), by decide⟩
  · simp [twoSlotDump, hs₁, hs₂, hs₃]
  · simp [twoSlotDump, SaysOnce, hm₂, hm₃]
  · simp [twoSlotDump, SaysOnce, ht₁, ht₂, ht₃]

/-- Read backwards. -/
theorem parseSyncDump_perm_twoSlots :
    ∃ frames frames' dump dump', twoSlotDump.mapM buildMessage = .ok frames ∧
      twoSlotDump.reverse.mapM buildMessage = .ok frames' ∧
      parseSyncDump frames.flatten = .ok dump ∧ parseSyncDump frames'.flatten = .ok dump' ∧
      SameDump dump dump' ∧ SaidBy twoSlotDump dump ∧ SaidBy twoSlotDump.reverse dump' :=
  parseSyncDump_perm twoSlotDump twoSlotDump.reverse dumpMessages_twoSlotDump
    (List.reverse_perm _).symm

end OrbitBhyve.Devices
