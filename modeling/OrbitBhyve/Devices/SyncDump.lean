import OrbitBhyve.Foundation.LastWriter
import OrbitBhyve.Devices.Traffic

/-!
# Reading the program table

What `parse_sync_dump` finds comes from the messages of the burst, and
`_read_programs` merges it into the table which HA knows.
-/

namespace OrbitBhyve.Devices

open Foundation Python Wire

def listedProgram (pb : Bytes) : Option (PbVal × ProgramSummary) :=
  match pbField (pbParse pb) 19 with
  | some (.bytes p19) =>
    match parseProgramBody p19 with
    | some sch => sch.slot.map fun slot => (slot, sch)
    | none => none
  | _ => none

theorem listedProgram_eq_some {pb : Bytes} {slot : PbVal} {sch : ProgramSummary}
    (h : listedProgram pb = some (slot, sch)) :
    ∃ body, pbField (pbParse pb) 19 = some (.bytes body) ∧ parseProgramBody body = some sch ∧
      sch.slot = some slot := by
  unfold listedProgram at h
  split at h
  · next body h19 =>
    split at h
    · next listed hparse =>
      obtain ⟨key, hkey, hpair⟩ := Option.map_eq_some_iff.mp h
      cases hpair
      exact ⟨body, h19, hparse, hkey⟩
    · cases h
  · cases h

theorem syncProgram_eq (pb : Bytes) (programs : ProgramTable) :
    syncProgram (pbParse pb) programs =
      match listedProgram pb with
      | some (slot, sch) => programs.set slot sch
      | none => programs := by
  unfold syncProgram listedProgram
  cases pbField (pbParse pb) 19 with
  | none => rfl
  | some v =>
    cases v with
    | int n => rfl
    | bytes p19 =>
      dsimp only
      cases parseProgramBody p19 with
      | none => rfl
      | some sch => cases h : sch.slot <;> simp [h]

/-- The mask which a message carries; a `#20` without its `#1` wipes what was known. -/
def saidMask (pb : Bytes) : Option (Option PbVal) :=
  match pbField (pbParse pb) 20 with
  | some (.bytes p20) => some (pbField (pbParse p20) 1)
  | _ => none

def saidStatus (pb : Bytes) : Option (Option DeviceStatus) :=
  match pbField (pbParse pb) 16 with
  | some (.bytes _) => some (extractStatus pb).toOption
  | _ => none

def listedAs (key : PbVal) (pb : Bytes) : Option ProgramSummary :=
  (listedProgram pb).bind fun e => if e.1 = key then some e.2 else none

def listMessage (acc : SyncDump) (pb : Bytes) : SyncDump where
  programs :=
    match listedProgram pb with
    | some (slot, sch) => acc.programs.set slot sch
    | none => acc.programs
  mask := (saidMask pb).getD acc.mask
  status := (saidStatus pb).getD acc.status

theorem syncMask_eq (pb : Bytes) (mask : Option PbVal) :
    syncMask (pbParse pb) mask = (saidMask pb).getD mask := by
  unfold syncMask saidMask
  cases pbField (pbParse pb) 20 with
  | none => rfl
  | some v => cases v <;> rfl

theorem extractStatus_of_no_block {pb : Bytes}
    (h : ∀ block, pbField (pbParse pb) 16 ≠ some (.bytes block)) :
    ∃ st, extractStatus pb = .ok st := by
  unfold extractStatus
  cases hparse : pbParse pb with
  | none => exact ⟨_, rfl⟩
  | some top =>
    rw [hparse] at h
    have hstatus : statusOf (some top) = .ok {} := by
      unfold statusOf
      split
      · next block hblock => exact absurd hblock (h block)
      · rfl
    exact ⟨_, extractTop_eq_ok.mpr ⟨{}, hstatus, rfl⟩⟩

theorem syncStatus_eq (pb : Bytes) (status : Option DeviceStatus) :
    syncStatus (pbParse pb) pb status =
      (extractStatus pb).map fun _ => (saidStatus pb).getD status := by
  unfold syncStatus saidStatus
  by_cases hblock : ∃ block, pbField (pbParse pb) 16 = some (.bytes block)
  · obtain ⟨block, hblock⟩ := hblock
    rw [hblock]
    cases extractStatus pb <;> rfl
  · obtain ⟨st, hst⟩ := extractStatus_of_no_block (not_exists.mp hblock)
    rw [hst]
    rcases hv : pbField (pbParse pb) 16 with _ | n | block
    · rfl
    · rfl
    · exact absurd ⟨block, hv⟩ hblock

theorem syncMessage_eq (acc : SyncDump) (pb : Bytes) :
    syncMessage acc pb = (extractStatus pb).map fun _ => listMessage acc pb := by
  have hlist : listMessage acc pb = {
      programs := syncProgram (pbParse pb) acc.programs
      mask := syncMask (pbParse pb) acc.mask
      status := (saidStatus pb).getD acc.status } := by
    rw [syncProgram_eq, syncMask_eq]
    rfl
  have hstatus := syncStatus_eq pb acc.status
  unfold syncMessage
  cases hparse : pbParse pb with
  | none =>
    have hsaid : saidStatus pb = none := by
      unfold saidStatus
      rw [hparse]
      rfl
    rw [hlist, hsaid, hparse, extractStatus, hparse]
    rfl
  | some top =>
    rw [hparse] at hlist hstatus
    dsimp only
    rw [hstatus, hlist]
    cases extractStatus pb <;> rfl

/-! ## Messages which say one thing -/

/-- The fields of a message which a sync dump looks at: program, mask and status. -/
def syncFields (pb : Bytes) : Option PbVal × Option PbVal × Option PbVal :=
  (pbField (pbParse pb) 19, pbField (pbParse pb) 20, pbField (pbParse pb) 16)

theorem syncFields_pbFieldBytes (f : ℕ) (block : Bytes) :
    syncFields (pbFieldBytes f block) =
      (if f = 19 then some (.bytes block) else none,
        if f = 20 then some (.bytes block) else none,
        if f = 16 then some (.bytes block) else none) := by
  rw [syncFields, pbParse_pbFieldBytes, pbField_cons, pbField_cons, pbField_cons]
  rfl

section SyncFields

variable {pb body block : Bytes}

theorem pbParse_of_pbField {num : ℕ} {v : PbVal} (h : pbField (pbParse pb) num = some v) :
    ∃ top, pbParse pb = some top := by
  cases hparse : pbParse pb with
  | none => simp [hparse] at h
  | some top => exact ⟨top, rfl⟩

theorem listedProgram_of_syncFields {v w : Option PbVal}
    (h : syncFields pb = (some (.bytes body), v, w)) {sch : ProgramSummary} {slot : PbVal}
    (hparse : parseProgramBody body = some sch) (hslot : sch.slot = some slot) :
    listedProgram pb = some (slot, sch) := by
  rw [syncFields, Prod.mk.injEq] at h
  rw [listedProgram, h.1]
  simp only [hparse, hslot, Option.map_some]

theorem syncMessage_of_program (h : syncFields pb = (some (.bytes body), none, none))
    {sch : ProgramSummary} {slot : PbVal} (hparse : parseProgramBody body = some sch)
    (hslot : sch.slot = some slot) (acc : SyncDump) :
    syncMessage acc pb = .ok { acc with programs := acc.programs.set slot sch } := by
  have hlist := listedProgram_of_syncFields h hparse hslot
  simp only [syncFields, Prod.mk.injEq] at h
  obtain ⟨h19, h20, h16⟩ := h
  have hprogram := syncProgram_eq pb acc.programs
  obtain ⟨top, htop⟩ := pbParse_of_pbField h19
  rw [hlist, htop] at hprogram
  rw [htop] at h20 h16
  rw [syncMessage, htop]
  simp only [syncStatus, syncMask, h20, h16, hprogram]
  rfl

theorem syncMessage_of_mask (h : syncFields pb = (none, some (.bytes block), none))
    (acc : SyncDump) : syncMessage acc pb = .ok { acc with mask := pbField (pbParse block) 1 } := by
  simp only [syncFields, Prod.mk.injEq] at h
  obtain ⟨h19, h20, h16⟩ := h
  obtain ⟨top, htop⟩ := pbParse_of_pbField h20
  rw [htop] at h19 h20 h16
  rw [syncMessage, htop]
  simp only [syncProgram, syncStatus, syncMask, h19, h20, h16]
  rfl

theorem syncMessage_of_status (h : syncFields pb = (none, none, some (.bytes block)))
    {st : DeviceStatus} (hst : extractStatus pb = .ok st) (acc : SyncDump) :
    syncMessage acc pb = .ok { acc with status := some st } := by
  simp only [syncFields, Prod.mk.injEq] at h
  obtain ⟨h19, h20, h16⟩ := h
  obtain ⟨top, htop⟩ := pbParse_of_pbField h16
  rw [htop] at h19 h20 h16
  rw [syncMessage, htop]
  simp only [syncProgram, syncStatus, syncMask, h19, h20, h16, hst]
  rfl

end SyncFields

/-! ## What a dump finds -/

/-- A burst is read through exactly if the statuses in it decode. -/
theorem syncMessages_eq_ok {acc dump : SyncDump} {messages : List Bytes} :
    syncMessages acc messages = .ok dump ↔
      (∀ pb ∈ messages, ∃ st, extractStatus pb = .ok st) ∧
        dump = messages.foldl listMessage acc := by
  induction messages generalizing acc with
  | nil => simp [syncMessages, eq_comm]
  | cons pb messages ih =>
    rw [syncMessages, syncMessage_eq]
    cases hst : extractStatus pb with
    | error e =>
      constructor
      · intro h
        cases h
      · rintro ⟨hall, -⟩
        obtain ⟨st, hst'⟩ := hall pb List.mem_cons_self
        rw [hst] at hst'
        cases hst'
    | ok st =>
      simp only [Except.map, bind, Except.bind, ih, List.forall_mem_cons, hst, List.foldl_cons,
        Except.ok.injEq, exists_eq', true_and]

theorem listedAs_eq_some {key : PbVal} {pb : Bytes} {sch : ProgramSummary} :
    listedAs key pb = some sch ↔ listedProgram pb = some (key, sch) := by
  unfold listedAs
  rw [Option.bind_eq_some_iff]
  constructor
  · rintro ⟨⟨slot, listed⟩, hlist, hkey⟩
    split_ifs at hkey with heq
    cases hkey
    rw [hlist, ← heq]
  · intro hlist
    exact ⟨(key, sch), hlist, if_pos rfl⟩

theorem get_listMessage (acc : SyncDump) (pb : Bytes) (key : PbVal) :
    (listMessage acc pb).programs.get key =
      ((listedAs key pb).map some).getD (acc.programs.get key) := by
  unfold listMessage listedAs
  cases listedProgram pb with
  | none => rfl
  | some e =>
    dsimp only [Option.bind_some]
    rw [ProgramTable.get_set]
    by_cases hkey : e.1 = key
    · rw [if_pos hkey.symm, if_pos hkey]
      rfl
    · rw [if_neg (fun h => hkey h.symm), if_neg hkey]
      rfl

/-- A slot of the table is what the last message that lists it says, the mask and the status
are those of the last message which carries them. -/
theorem get_foldl_listMessage (acc : SyncDump) (messages : List Bytes) (key : PbVal) :
    (messages.foldl listMessage acc).programs.get key =
      (lastSaid (listedAs key) messages).or (acc.programs.get key) := by
  induction messages generalizing acc with
  | nil => rfl
  | cons pb messages ih =>
    rw [List.foldl_cons, ih, get_listMessage, lastSaid_cons]
    cases lastSaid (listedAs key) messages <;> cases listedAs key pb <;> rfl

theorem mask_foldl_listMessage (acc : SyncDump) (messages : List Bytes) :
    (messages.foldl listMessage acc).mask = (lastSaid saidMask messages).getD acc.mask :=
  @foldl_register _ _ _ saidMask listMessage SyncDump.mask (fun _ _ => rfl) messages acc

theorem status_foldl_listMessage (acc : SyncDump) (messages : List Bytes) :
    (messages.foldl listMessage acc).status = (lastSaid saidStatus messages).getD acc.status :=
  @foldl_register _ _ _ saidStatus listMessage SyncDump.status (fun _ _ => rfl) messages acc

theorem fillEnabled_eq_map {mask : PbVal} {table table' : ProgramTable}
    (h : fillEnabled mask table = .ok table') :
    table' = table.map fun e => (e.1, { e.2 with enabled := (enabledBit mask e.1).toOption }) := by
  induction table generalizing table' with
  | nil =>
    cases h
    rfl
  | cons e table ih =>
    rw [fillEnabled] at h
    cases hbit : enabledBit mask e.1 with
    | error err =>
      rw [hbit] at h
      cases h
    | ok on =>
      cases hrest : fillEnabled mask table with
      | error err =>
        rw [hbit, hrest] at h
        cases h
      | ok rest =>
        rw [hbit, hrest] at h
        cases h
        rw [List.map_cons, hbit, ← ih hrest]
        rfl

theorem fillEnabled_eq_ok {mask : PbVal} {table table' : ProgramTable}
    (h : fillEnabled mask table = .ok table') (key : PbVal) :
    table'.get key = (table.get key).map fun sch =>
      { sch with enabled := (enabledBit mask key).toOption } := by
  rw [fillEnabled_eq_map h]
  exact ProgramTable.get_map
    (fun key sch => { sch with enabled := (enabledBit mask key).toOption }) table key

/-- The flags are filled in exactly if every key of the table has its bit. -/
theorem fillEnabled_ok_iff {mask : PbVal} {table : ProgramTable} :
    (∃ table', fillEnabled mask table = .ok table') ↔
      ∀ e ∈ table, ∃ on, enabledBit mask e.1 = .ok on := by
  induction table with
  | nil => simp [fillEnabled]
  | cons e table ih =>
    rw [List.forall_mem_cons, ← ih, fillEnabled]
    cases enabledBit mask e.1 with
    | error err => simp [bind, Except.bind]
    | ok on => cases fillEnabled mask table <;> simp [bind, Except.bind]

/-- The results before the enable flags are filled in. -/
def listMessages (messages : List Bytes) : SyncDump := messages.foldl listMessage {}

/-- `parse_sync_dump` on the inner messages, with the loop over the enable flags given. -/
def parseSyncMessagesBy (fill : PbVal → ProgramTable → Except PyErr ProgramTable)
    (messages : List Bytes) : Except PyErr SyncDump := do
  let dump ← syncMessages {} messages
  match dump.mask with
  | some mask => do
    let programs ← fill mask dump.programs
    .ok { dump with programs := programs }
  | none => .ok dump

theorem parseSyncMessagesBy_eq_ok {fill : PbVal → ProgramTable → Except PyErr ProgramTable}
    {messages : List Bytes} {dump : SyncDump} :
    parseSyncMessagesBy fill messages = .ok dump ↔
      (∀ pb ∈ messages, ∃ st, extractStatus pb = .ok st) ∧
        match (listMessages messages).mask with
        | none => dump = listMessages messages
        | some mask => ∃ table, fill mask (listMessages messages).programs = .ok table ∧
            dump = { listMessages messages with programs := table } := by
  unfold parseSyncMessagesBy
  cases hmsgs : syncMessages {} messages with
  | error e =>
    constructor
    · intro h
      cases h
    · rintro ⟨hall, -⟩
      rw [syncMessages_eq_ok.mpr ⟨hall, rfl⟩] at hmsgs
      cases hmsgs
  | ok raw =>
    obtain ⟨hall, rfl⟩ := syncMessages_eq_ok.mp hmsgs
    rw [← listMessages, and_iff_right hall]
    dsimp only [bind, Except.bind]
    cases (listMessages messages).mask with
    | none => simp [eq_comm]
    | some mask =>
      cases hfill : fill mask (listMessages messages).programs with
      | error e => simp [hfill]
      | ok table => simp [hfill, eq_comm]

theorem parseSyncMessages_eq_ok {messages : List Bytes} {dump : SyncDump} :
    parseSyncMessages messages = .ok dump ↔
      (∀ pb ∈ messages, ∃ st, extractStatus pb = .ok st) ∧
        match (listMessages messages).mask with
        | none => dump = listMessages messages
        | some mask => ∃ table, fillEnabled mask (listMessages messages).programs = .ok table ∧
            dump = { listMessages messages with programs := table } :=
  parseSyncMessagesBy_eq_ok

/-- A program which `parse_sync_dump` finds is one that a message of the burst lists, up to
its enable flag. -/
theorem get_parseSyncDump {stream : Bytes} {dump : SyncDump} (h : parseSyncDump stream = .ok dump)
    {key : PbVal} {sch : ProgramSummary} (hget : dump.programs.get key = some sch) :
    ∃ pb ∈ splitInnerMessages stream, ∃ listed on,
      listedProgram pb = some (key, listed) ∧ sch = { listed with enabled := on } := by
  obtain ⟨-, hfilled⟩ := parseSyncMessages_eq_ok.mp h
  set messages := splitInnerMessages stream
  have hfound : ∀ listed, (listMessages messages).programs.get key = some listed →
      ∃ pb ∈ messages, listedProgram pb = some (key, listed) := by
    intro listed hl
    rw [listMessages, get_foldl_listMessage] at hl
    obtain ⟨before, pb, after, hsplit, hpb, -⟩ :=
      lastSaid_eq_some.mp (by simpa using hl : lastSaid (listedAs key) messages = some listed)
    exact ⟨pb, by simp [hsplit], listedAs_eq_some.mp hpb⟩
  cases hmask : (listMessages messages).mask with
  | none =>
    rw [hmask] at hfilled
    rw [hfilled] at hget
    obtain ⟨pb, hmem, hlist⟩ := hfound sch hget
    exact ⟨pb, hmem, sch, sch.enabled, hlist, rfl⟩
  | some mask =>
    rw [hmask] at hfilled
    obtain ⟨table, hfill, rfl⟩ := hfilled
    dsimp only at hget
    rw [fillEnabled_eq_ok hfill, Option.map_eq_some_iff] at hget
    obtain ⟨listed, hraw, rfl⟩ := hget
    obtain ⟨pb, hmem, hlist⟩ := hfound listed hraw
    exact ⟨pb, hmem, listed, _, hlist, rfl⟩

/-! ## `_read_programs` -/

section Read

variable {replies : ℕ → Reply} {utcOffset : UtcOffset} {w w' : World ProtobufDevice}

theorem fixed_foldl_hears (ns : List Notice) (w : World ProtobufDevice) :
    (ns.foldl (World.hears (protobufRadio replies utcOffset)) w).dev.fixed = w.dev.fixed := by
  induction ns generalizing w with
  | nil => rfl
  | cons n ns ih => rw [List.foldl_cons, ih, dev_hears, fixed_observe]

theorem fixed_exchanged (w : World ProtobufDevice) (pt : Bytes) :
    (w.exchanged (protobufRadio replies utcOffset) pt).dev.fixed = w.dev.fixed := by
  have hopened : (w.opened (protobufRadio replies utcOffset)).dev.fixed = w.dev.fixed :=
    fixed_foldl_hears _ { w with tick := w.tick + 1 }
  have hdrained : (w.exchanged (protobufRadio replies utcOffset) pt).dev.fixed =
      (w.written (protobufRadio replies utcOffset) pt).dev.fixed := fixed_foldl_hears _ _
  rw [hdrained]
  exact hopened

theorem programs_exchanged (w : World ProtobufDevice) (pt : Bytes) :
    (w.exchanged (protobufRadio replies utcOffset) pt).dev.state.programs = w.dev.state.programs :=
  congrArg Prod.fst (fixed_exchanged w pt)

theorem exists_syncRequest : ∃ msg, buildMessage buildSyncRequestPb = .ok msg ∧ msg.length ≤ 255 :=
  ⟨_, Body.buildMessage_eq ⟨buildSyncRequestPb, by decide⟩, by decide⟩

/-- A read which returns has merged what its stream holds into the known table. -/
theorem run_readPrograms_eq_ok {read : ProgramTable × Option PbVal}
    (h : readPrograms (protobufRadio replies utcOffset) w = .ok read w') :
    ∃ dump, parseSyncDump (replies w.tick).stream = .ok dump ∧
      read = ((mergeDump dump w.dev.state.programs).2, dump.mask) ∧
      w'.dev.state.programs = (mergeDump dump w.dev.state.programs).1 ∧ w'.tick = w.tick + 1 := by
  obtain ⟨msg, w₁, hbuild, h₁⟩ := run_bind_eq_ok.mp h
  obtain ⟨-, rfl⟩ := run_raising_eq_ok.mp hbuild
  obtain ⟨stream, w₂, hsend, h₂⟩ := run_bind_eq_ok.mp h₁
  obtain ⟨r, w₃, hex, hstream⟩ := run_bind_eq_ok.mp hsend
  obtain ⟨rfl, rfl, -⟩ := Radio.run_exchange_eq_ok hex
  rw [run_pure] at hstream
  cases hstream
  obtain ⟨dump, w₄, hparse, h₃⟩ := run_bind_eq_ok.mp h₂
  obtain ⟨hdump, rfl⟩ := run_raising_eq_ok.mp hparse
  obtain ⟨d, w₅, hdev, h₄⟩ := run_bind_eq_ok.mp h₃
  obtain ⟨rfl, rfl⟩ := run_getDev_eq_ok hdev
  obtain ⟨_, w₆, hmod, h₅⟩ := run_bind_eq_ok.mp h₄
  rw [run_modState] at hmod
  cases hmod
  cases h₅
  exact ⟨dump, hdump, by rw [programs_exchanged], by rw [programs_exchanged],
    Radio.tick_exchanged msg w₁⟩

theorem run_readPrograms (hrel : (protobufRadio replies utcOffset).Reliable) {dump : SyncDump}
    (hdump : parseSyncDump (replies w.tick).stream = .ok dump) :
    ∃ w', readPrograms (protobufRadio replies utcOffset) w =
        .ok ((mergeDump dump w.dev.state.programs).2, dump.mask) w' ∧
      w'.dev.state.programs = (mergeDump dump w.dev.state.programs).1 ∧ w'.tick = w.tick + 1 := by
  obtain ⟨msg, hbuild, hfits⟩ := exists_syncRequest
  set R := protobufRadio replies utcOffset
  have hsend : R.sendStream msg w = .ok (replies w.tick).stream (w.exchanged R msg) :=
    run_bind_ok (hrel.run_exchange hfits w)
  have hprograms : (w.exchanged R msg).dev.state.programs = w.dev.state.programs :=
    programs_exchanged w msg
  rw [readPrograms, run_bind_ok (run_raising_ok hbuild w), run_bind_ok hsend,
    run_bind_ok (run_raising_ok hdump _), run_bind_ok (run_getDev _),
    run_bind_ok (run_modState _ _), run_pure, hprograms]
  exact ⟨_, rfl, rfl, Radio.tick_exchanged msg w⟩

end Read

theorem get_carryEnabled (known table : ProgramTable) (key : PbVal) :
    (carryEnabled known table).get key = (table.get key).map fun sch =>
      match sch.enabled, known.get key with
      | none, some prev => { sch with enabled := prev.enabled }
      | _, _ => sch :=
  ProgramTable.get_map (fun sid sch =>
    match sch.enabled, known.get sid with
    | none, some prev => { sch with enabled := prev.enabled }
    | _, _ => sch) table key

/-- A slot which a read confirms as stored was found in its burst, not empty. -/
theorem get_of_storedOk {dump : SyncDump} {known : ProgramTable} {slot : ℕ}
    (h : storedOk (mergeDump dump known).2 slot = true) :
    ∃ sch, dump.programs.get (.int slot) = some sch ∧ sch.empty = false := by
  unfold storedOk at h
  split at h
  · next stored hget =>
    have hstored : stored.empty = false := by simpa using h
    unfold mergeDump at hget
    split_ifs at hget with hempty hframe hmask
    · cases hget
    · cases hget
    · dsimp only at hget
      rw [get_carryEnabled, Option.map_eq_some_iff] at hget
      obtain ⟨sch, hsch, rfl⟩ := hget
      refine ⟨sch, hsch, ?_⟩
      split at hstored <;> exact hstored
    · exact ⟨stored, hget, hstored⟩
  · cases h

end OrbitBhyve.Devices
