import Mathlib.Data.Nat.Bitwise
import OrbitBhyve.Devices.Schedule
import OrbitBhyve.Devices.SyncDump

/-!
# What a confirmed store rests on

`set_program` confirms a store by reading the slot back and finding it not
empty. The device may have rejected the `#19` and kept the slot as it was, so
the confirmation is right exactly when the kept program does not read back as a
program, or is the one which was sent.
-/

namespace OrbitBhyve.Devices

open Foundation Python Wire

/-- The `#19` body of a slot; one a device holds fits a message. -/
structure SlotBody where
  pb : Bytes
  fits : (pbFieldBytes 19 pb).length ≤ 253

/-- The device has taken the sent body, and echoes its start times packed or not. -/
def Took (spec : ProgramSpec) (content : Option SlotBody) : Prop :=
  ∃ body, content = some body ∧ (body.pb = buildProgramBody spec ∨ body.pb = spec.packedBody)

/-- Whatever a burst lists for the slot is the content of the slot. -/
def Lists (slot : ℕ) (content : Option SlotBody) (stream : Bytes) : Prop :=
  ∀ pb ∈ splitInnerMessages stream, ∀ sch, listedProgram pb = some (.int slot, sch) →
    ∃ body, content = some body ∧ parseProgramBody body.pb = some sch

def DecodesTo (spec : ProgramSpec) (content : Option SlotBody) : Prop :=
  ∃ body, content = some body ∧ parseProgramBody body.pb = some spec.summary

def ReadsAsProgram (slot : ℕ) (content : Option SlotBody) : Prop :=
  ∃ body sch, content = some body ∧ parseProgramBody body.pb = some sch ∧
    sch.slot = some (.int slot) ∧ sch.empty = false

def Storable (spec : ProgramSpec) : Prop :=
  ∃ msg, buildMessage (buildProgramPb spec) = .ok msg ∧ msg.length ≤ 255

/-- A confirmed store with this content read back is the one that was sent. -/
def StoreHonest (replies : ℕ → Reply) (utcOffset : UtcOffset) (spec : ProgramSpec)
    (content : Option SlotBody) (w : World ProtobufDevice) : Prop :=
  ∀ w', setProgram (protobufRadio replies utcOffset) spec w = .ok true w' → DecodesTo spec content

theorem decodesTo_of_took {spec : ProgramSpec} {content : Option SlotBody} (h : Took spec content) :
    DecodesTo spec content := by
  obtain ⟨body, hcontent, hbody | hbody⟩ := h
  · exact ⟨body, hcontent, by rw [hbody, spec.parseProgramBody_buildProgramBody]⟩
  · exact ⟨body, hcontent, by rw [hbody, spec.parseProgramBody_packedBody]⟩

/-! ## What a confirmation shows -/

section Confirmed

variable {replies : ℕ → Reply} {utcOffset : UtcOffset} {spec : ProgramSpec}
  {w w' : World ProtobufDevice}

theorem tick_of_sendMessage {R : Radio ProtobufDevice} {pb : Bytes}
    (h : sendMessage_ R pb w = .ok () w') :
    w'.tick = w.tick + 1 ∧ ∃ msg, buildMessage pb = .ok msg ∧ msg.length ≤ 255 := by
  obtain ⟨n, w₁, hsend, h₁⟩ := run_bind_eq_ok.mp h
  cases h₁
  obtain ⟨msg, w₂, hbuild, hsend₁⟩ := run_bind_eq_ok.mp hsend
  obtain ⟨hmsg, rfl⟩ := run_raising_eq_ok.mp hbuild
  obtain ⟨r, w₃, hex, hsend₂⟩ := run_bind_eq_ok.mp hsend₁
  cases hsend₂
  obtain ⟨-, rfl, hfits⟩ := Radio.run_exchange_eq_ok hex
  exact ⟨Radio.tick_exchanged msg w₂, msg, hmsg, hfits⟩

/-- A confirmed store sent its body and found the slot in the read-back, not empty. -/
theorem stored_of_setProgram (hoff : spec.enabled = false)
    (h : setProgram (protobufRadio replies utcOffset) spec w = .ok true w') :
    w.dev.hasConnection = true ∧ Storable spec ∧
      ∃ dump sch, parseSyncDump (replies (w.tick + 2)).stream = .ok dump ∧
        dump.programs.get (.int spec.slot) = some sch ∧ sch.empty = false := by
  obtain ⟨hconn, w₁, hbody, -⟩ := guardedSession_eq_ok_true.mp h
  refine ⟨hconn, ?_⟩
  rw [setProgramBody] at hbody
  obtain ⟨read, w₂, hread, h₂⟩ := run_bind_eq_ok.mp hbody
  obtain ⟨-, -, -, -, htick₂⟩ := run_readPrograms_eq_ok hread
  obtain ⟨mask, w₃, hmask, h₃⟩ := run_bind_eq_ok.mp h₂
  obtain ⟨d, w₄, hdev, hmask₁⟩ := run_bind_eq_ok.mp hmask
  obtain ⟨-, rfl⟩ := run_getDev_eq_ok hdev
  obtain ⟨-, rfl⟩ := run_raising_eq_ok.mp hmask₁
  obtain ⟨_, w₅, hsend, h₅⟩ := run_bind_eq_ok.mp h₃
  obtain ⟨htick₅, hstorable⟩ := tick_of_sendMessage hsend
  obtain ⟨_, w₆, hstamp, h₆⟩ := run_bind_eq_ok.mp h₅
  rw [run_stampCommand] at hstamp
  cases hstamp
  obtain ⟨readBack, w₇, hback, h₇⟩ := run_bind_eq_ok.mp h₆
  obtain ⟨dump, hdump, rfl, -, -⟩ := run_readPrograms_eq_ok hback
  obtain ⟨bit, w₈, hbit, h₈⟩ := run_bind_eq_ok.mp h₇
  rw [if_neg (by simp [hoff])] at h₈
  obtain ⟨flags, w₉, -, h₉⟩ := run_bind_eq_ok.mp h₈
  obtain ⟨_, w₁₀, -, h₁₀⟩ := run_bind_eq_ok.mp h₉
  obtain ⟨_, w₁₁, -, h₁₁⟩ := run_bind_eq_ok.mp h₁₀
  rw [run_pure] at h₁₁
  have hstored := (EStateM.Result.ok.inj h₁₁).1
  obtain ⟨sch, hget, hempty⟩ := get_of_storedOk hstored
  rw [show w₅.tick = w.tick + 2 by omega] at hdump
  exact ⟨hstorable, dump, sch, hdump, hget, hempty⟩

/-- With an honest slot in the read-back, a confirmation shows that the slot reads back. -/
theorem readsAsProgram_of_setProgram (hoff : spec.enabled = false) {content : Option SlotBody}
    (hlists : Lists spec.slot content (replies (w.tick + 2)).stream)
    (h : setProgram (protobufRadio replies utcOffset) spec w = .ok true w') :
    ReadsAsProgram spec.slot content := by
  obtain ⟨-, -, dump, sch, hdump, hget, hempty⟩ := stored_of_setProgram hoff h
  obtain ⟨pb, hmem, listed, on, hlist, rfl⟩ := get_parseSyncDump hdump hget
  obtain ⟨body, hcontent, hparse⟩ := hlists pb hmem listed hlist
  obtain ⟨-, -, -, hown⟩ := listedProgram_eq_some hlist
  exact ⟨body, listed, hcontent, hparse, hown, hempty⟩

end Confirmed

/-! ## A rejected program which is confirmed -/

section Rejected

/-- The dump of a device with one program, which is off. -/
def slotDump (body : SlotBody) : Bytes :=
  Body.frame ⟨pbFieldBytes 19 body.pb, body.fits⟩ ++
    Body.frame ⟨buildSetActiveProgramsPb 0, by decide⟩

theorem splitInnerMessages_slotDump (body : SlotBody) :
    splitInnerMessages (slotDump body) =
      [pbFieldBytes 19 body.pb, buildSetActiveProgramsPb 0] := by
  have := splitInnerMessages_frames
    [⟨pbFieldBytes 19 body.pb, body.fits⟩, ⟨buildSetActiveProgramsPb 0, by decide⟩]
  simpa [slotDump] using this

def slotRead (slot : ℕ) (sch : ProgramSummary) : SyncDump where
  programs := [(.int slot, { sch with enabled := some false })]
  mask := some (.int 0)

theorem parseSyncDump_slotDump {slot : ℕ} (hslot : 0 < slot) {body : SlotBody}
    {sch : ProgramSummary} (hparse : parseProgramBody body.pb = some sch)
    (hown : sch.slot = some (.int slot)) :
    parseSyncDump (slotDump body) = .ok (slotRead slot sch) := by
  obtain ⟨n, rfl⟩ : ∃ n, slot = n + 1 := ⟨slot - 1, by omega⟩
  have hprogram := syncMessage_of_program (syncFields_pbFieldBytes 19 body.pb) hparse hown {}
  have hmask := syncMessage_of_mask (syncFields_pbFieldBytes 20 (pbFieldVarint 1 (0 : ℕ)))
    { programs := [(.int (n + 1), sch)] }
  simp only [pbParse_pbFieldVarint, pbField_cons, Field.varint_num, Field.varint_val, if_true]
    at hmask
  rw [parseSyncDump, splitInnerMessages_slotDump, parseSyncMessages, syncMessages, hprogram]
  simp only [bind, Except.bind, ProgramTable.set]
  rw [syncMessages, buildSetActiveProgramsPb, hmask]
  simp [bind, Except.bind, syncMessages, fillEnabled, enabledBit, slotRead]

theorem storedOk_slotRead (slot : ℕ) {sch : ProgramSummary} (h : sch.empty = false)
    (known : ProgramTable) : storedOk (mergeDump (slotRead slot sch) known).2 slot = true := by
  rw [storedOk, mergeDump]
  simpa [slotRead, ProgramTable.get_cons] using h

/-- A device which takes part in the session from operation `k` on, answers its two reads
with this dump and everything else with silence. -/
def keptReplies (body : SlotBody) (k j : ℕ) : Reply :=
  if j = k ∨ j = k + 2 then
    { frames := [⟨slotDump body, DateTime.epoch⟩], clock := DateTime.epoch }
  else { clock := DateTime.epoch }

theorem reliable_keptReplies (body : SlotBody) (k : ℕ) (utcOffset : UtcOffset) :
    (protobufRadio (keptReplies body k) utcOffset).Reliable := by
  intro j
  unfold protobufRadio keptReplies
  dsimp only
  split_ifs <;> exact ⟨rfl, rfl⟩

theorem stream_keptReplies {body : SlotBody} {k j : ℕ} (h : j = k ∨ j = k + 2) :
    (keptReplies body k j).stream = slotDump body := by
  rw [keptReplies, if_pos h]
  simp [Reply.stream]

theorem lists_slotDump {slot : ℕ} (body : SlotBody) :
    Lists slot (some body) (slotDump body) := by
  intro pb hmem sch hlist
  obtain ⟨p19, h19, hparse, -⟩ := listedProgram_eq_some hlist
  rw [splitInnerMessages_slotDump, List.mem_cons, List.mem_singleton] at hmem
  rcases hmem with rfl | rfl
  · rw [pbParse_pbFieldBytes, pbField_cons, Field.blob_num, if_pos rfl] at h19
    cases h19
    exact ⟨body, rfl, hparse⟩
  · rw [buildSetActiveProgramsPb, pbParse_pbFieldBytes] at h19
    simp at h19

/-- A device which keeps its old program has the new one confirmed. -/
theorem run_setProgram_kept {spec : ProgramSpec} (hoff : spec.enabled = false)
    (hstorable : Storable spec) {body : SlotBody} {sch : ProgramSummary}
    (hparse : parseProgramBody body.pb = some sch) (hown : sch.slot = some (.int spec.slot))
    (hempty : sch.empty = false) (utcOffset : UtcOffset) {w : World ProtobufDevice}
    (hconn : w.dev.hasConnection = true) :
    ∃ w', setProgram (protobufRadio (keptReplies body w.tick) utcOffset) spec w = .ok true w' := by
  set R := protobufRadio (keptReplies body w.tick) utcOffset
  have hrel : R.Reliable := reliable_keptReplies body w.tick utcOffset
  have hdump := parseSyncDump_slotDump spec.slot_pos hparse hown
  -- the read before the write
  obtain ⟨w₁, hread, -, htick₁⟩ := run_readPrograms (w := w) hrel
    (by rw [stream_keptReplies (.inl rfl)]; exact hdump)
  -- the write, which the device rejects
  obtain ⟨msg, hmsg, hfits⟩ := hstorable
  have hsend := run_sendMessage_of_reliable hrel hmsg hfits w₁
  have htick₂ : (w₁.exchanged R msg).tick = w₁.tick + 1 := Radio.tick_exchanged msg w₁
  set w₂ := w₁.exchanged R msg
  have hstamp := run_stampCommand ("program set " ++ slotLetter spec.slot) 0 w₂
  set w₃ : World ProtobufDevice :=
    { w₂ with dev := { w₂.dev with state := stampedState _ 0 w₂.clock w₂.dev.state } }
  have htick₃ : w₃.tick = w₂.tick := rfl
  -- the read-back
  obtain ⟨w₄, hback, -, -⟩ := run_readPrograms (w := w₃) hrel
    (by rw [stream_keptReplies (.inr (by omega))]; exact hdump)
  have hstored := storedOk_slotRead spec.slot hempty w₃.dev.state.programs
  -- the mask without the slot, and auto mode
  have hbit := slotBit_of_pos spec.slot_pos
  set bit := 2 ^ (spec.slot - 1)
  obtain ⟨w₅, hmask⟩ : ∃ w₅, sendMessage_ R (buildSetActiveProgramsPb 0) w₄ = .ok () w₅ :=
    ⟨_, run_sendMessage_of_reliable hrel
      (Body.buildMessage_eq ⟨buildSetActiveProgramsPb 0, by decide⟩) (by decide) w₄⟩
  obtain ⟨w₆, hauto⟩ : ∃ w₆, sendMessage_ R (buildSetTimerModePb 1) w₅ = .ok () w₆ :=
    ⟨_, run_sendMessage_of_reliable hrel
      (Body.buildMessage_eq ⟨buildSetTimerModePb 1, by decide⟩) (by decide) w₅⟩
  have htail : storeOnly R (.int 0) bit true w₄ = .ok true w₆ := by
    have hzero : Nat.ldiff 0 bit = 0 := Nat.eq_of_testBit_eq (by simp [Nat.testBit_ldiff])
    have hflags : maskWithout (.int 0) bit = .ok 0 := congrArg Except.ok hzero
    rw [storeOnly, run_bind_ok (run_raising_ok hflags w₄), writeMask, run_bind_ok hmask, autoMode,
      run_bind_ok hauto, run_pure]
  have hbody : setProgramBody R spec w = .ok true w₆ := by
    have hcurrent : currentMask (slotRead spec.slot sch).mask w₁ = .ok (.int 0) w₁ := rfl
    rw [setProgramBody, run_bind_ok hread, run_bind_ok hcurrent, run_bind_ok hsend,
      run_bind_ok hstamp, run_bind_ok hback, run_bind_ok (run_raising_ok hbit w₄), hstored, hoff,
      if_neg (by simp), htail]
  exact ⟨w₆.opened R, guardedSession_eq_ok_true.mpr ⟨hconn, w₆, hbody, rfl⟩⟩

end Rejected

/-- A store-only `set_program` confirms nothing but what it sent, whether the device takes
or rejects the body, exactly when it cannot write, or the slot held the same schedule
before, or what it held does not read back as a program. The read-back is the third
operation of the session. -/
theorem store_confirms_iff (utcOffset : UtcOffset) (spec : ProgramSpec)
    (hoff : spec.enabled = false) (old : Option SlotBody) (w : World ProtobufDevice) :
    (∀ content, content = old ∨ Took spec content → ∀ replies : ℕ → Reply,
        Lists spec.slot content (replies (w.tick + 2)).stream →
          StoreHonest replies utcOffset spec content w) ↔
      w.dev.hasConnection = false ∨ ¬ Storable spec ∨ DecodesTo spec old ∨
        ¬ ReadsAsProgram spec.slot old := by
  constructor
  · intro hall
    by_contra hcond
    simp only [not_or, not_not, Bool.not_eq_false] at hcond
    obtain ⟨hconn, hstorable, hother, body, sch, rfl, hparse, hown, hempty⟩ := hcond
    obtain ⟨w', hrun⟩ := run_setProgram_kept hoff hstorable hparse hown hempty utcOffset hconn
    refine hother (hall _ (.inl rfl) (keptReplies body w.tick) ?_ w' hrun)
    rw [stream_keptReplies (.inr rfl)]
    exact lists_slotDump body
  · rintro hcond content (rfl | htook) replies hlists w' hrun
    · obtain ⟨hconn, hstorable, -⟩ := stored_of_setProgram hoff hrun
      rcases hcond with h | h | h | h
      · rw [h] at hconn
        cases hconn
      · exact absurd hstorable h
      · exact h
      · exact absurd (readsAsProgram_of_setProgram hoff hlists hrun) h
    · exact decodesTo_of_took htook

/-- Every odd day at six. -/
def oddDays : ProgramSpec where
  slot := 1
  slot_pos := Nat.one_pos
  dayMode := .odd
  startMins := [360]
  zones := [(0, 600)]

/-- Every even day at seven. -/
def evenDays : ProgramSpec := { oddDays with dayMode := .even, startMins := [420] }

def oddDaysBody : SlotBody where
  pb := buildProgramBody oddDays
  fits := by decide +kernel

/-- The even days are rejected, the odd days stay, and the store is confirmed. -/
theorem store_confirms_rejected :
    Lists evenDays.slot (some oddDaysBody) (keptReplies oddDaysBody 0 2).stream ∧
      ¬ StoreHonest (keptReplies oddDaysBody 0) .utc evenDays (some oddDaysBody)
        { dev := {}, clock := DateTime.epoch } := by
  have hparse := oddDays.parseProgramBody_buildProgramBody
  have hstorable : Storable evenDays :=
    ⟨_, Body.buildMessage_eq ⟨buildProgramPb evenDays, by decide +kernel⟩, by
      rw [Body.length_frame]
      decide +kernel⟩
  refine ⟨?_, fun hhonest => ?_⟩
  · rw [stream_keptReplies (.inr rfl)]
    exact lists_slotDump oddDaysBody
  · have hkept : ∃ w', setProgram (protobufRadio (keptReplies oddDaysBody 0) .utc) evenDays
        { dev := {}, clock := DateTime.epoch } = .ok true w' :=
      run_setProgram_kept rfl hstorable hparse rfl rfl .utc
        (w := { dev := {}, clock := DateTime.epoch }) rfl
    obtain ⟨w', hrun⟩ := hkept
    obtain ⟨body, hbody, hsame⟩ := hhonest w' hrun
    cases hbody
    rw [oddDaysBody, hparse] at hsame
    exact absurd (Option.some.inj hsame) (by decide)

/-- An empty slot: whatever is confirmed was taken. -/
theorem store_confirms_iff_empty :
    (∀ content, content = none ∨ Took evenDays content → ∀ replies : ℕ → Reply,
        Lists evenDays.slot content (replies 2).stream →
          StoreHonest replies .utc evenDays content { dev := {}, clock := DateTime.epoch }) ↔
      (({} : ProtobufDevice).hasConnection = false ∨ ¬ Storable evenDays ∨
        DecodesTo evenDays none ∨ ¬ ReadsAsProgram evenDays.slot none) :=
  store_confirms_iff .utc evenDays rfl none { dev := {}, clock := DateTime.epoch }

end OrbitBhyve.Devices
