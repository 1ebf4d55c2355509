import OrbitBhyve.Devices.RainConfirmation

/-!
# What a confirmed mode and a confirmed program rest on

`set_controller_mode` and the enable handshake of `set_program` write, read the
status back and compare a field of the state with what was wanted. Neither looks
at whether the read-back decoded anything, so a field which showed the wanted
value before the write confirms a silent device.
-/

namespace OrbitBhyve.Devices

open Foundation Python Wire

/-! ## From the last write on -/

def LogEntry.carries {δ : Type} (num : ℕ) : LogEntry δ → Bool
  | .wrote pt => (writtenField num pt).isSome
  | .heard _ _ => false

def sinceLastWrite {δ : Type} (num : ℕ) (log : List (LogEntry δ)) : List (LogEntry δ) :=
  (log.reverse.takeWhile fun e => !e.carries num).reverse

theorem sinceLastWrite_append {δ : Type} {num : ℕ} {msg : Bytes} {before rest : List (LogEntry δ)}
    (hmsg : (writtenField num msg).isSome = true) (hrest : ∀ e ∈ rest, e.carries num = false) :
    sinceLastWrite num (before ++ .wrote msg :: rest) = rest := by
  have hquiet : ∀ e ∈ rest.reverse, (!e.carries num) = true := by
    intro e he
    rw [hrest e (List.mem_reverse.mp he)]
    rfl
  have hstop : (!(LogEntry.wrote msg : LogEntry δ).carries num) = false := by
    rw [LogEntry.carries, hmsg]
    rfl
  rw [sinceLastWrite, List.reverse_append, List.reverse_cons, List.append_assoc,
    List.takeWhile_append_of_pos hquiet, List.singleton_append, List.takeWhile_cons, hstop]
  simp

def WritesOther {δ : Type} (num : ℕ) : World δ → World δ → Prop :=
  WritesOnly fun pt => writtenField num pt = none

instance writesOtherPreorder {δ : Type} (num : ℕ) : IsPreorder (World δ) (WritesOther num) :=
  writesOnlyPreorder _

theorem WritesOther.quiet {δ : Type} {num : ℕ} {w w' : World δ} {new : List (LogEntry δ)}
    (h : WritesOther num w w') (hlog : w'.log = w.log ++ new) :
    ∀ e ∈ new, e.carries num = false := by
  intro e he
  cases e with
  | heard n met => rfl
  | wrote pt =>
    have hother := WritesOnly.wrote h pt (by rwa [hlog, List.drop_left])
    rw [LogEntry.carries, hother]
    rfl

section Field

variable {R : Radio ProtobufDevice} {β : Type} {said : LogEntry ProtobufDevice → Option β}
  {field : ProtobufDevice → β} {num : ℕ} {msg : Bytes} {w w₁ w₂ : World ProtobufDevice}

theorem field_since_lastWrite (hstart : ∃ lead, w₁.log = w.log ++ lead)
    (hmsg : (writtenField num msg).isSome = true)
    (hfollows : Follows said field (w₁.written R msg) w₂)
    (hother : WritesOther num (w₁.written R msg) w₂) :
    ∃ new tail, sinceLastWrite num (w₂.log.drop w.log.length) = new ∧
      sinceLastWrite num ((w₂.opened R).log.drop w.log.length) = new ++ tail ∧
        field w₂.dev = (lastSaid said new).getD (field (w₁.opened R).dev) := by
  obtain ⟨lead, hlead⟩ := hstart
  obtain ⟨hs, hwritten, -⟩ := Radio.log_written (R := R) w₁ msg
  obtain ⟨new, hnew, hfield⟩ := hfollows
  have hclose : WritesOther num w₂ (w₂.opened R) := writesOnly_opened _ R w₂
  have hall : WritesOther num (w₁.written R msg) (w₂.opened R) :=
    trans_of (WritesOther num) hother hclose
  obtain ⟨tail, htail, -⟩ := hclose
  have hlog : w₂.log.drop w.log.length = lead ++ hs ++ .wrote msg :: new := by
    rw [hnew, hwritten, hlead]
    simp
  have hlog' : (w₂.opened R).log.drop w.log.length = lead ++ hs ++ .wrote msg :: (new ++ tail) := by
    rw [htail, hnew, hwritten, hlead]
    simp
  refine ⟨new, tail, ?_, ?_, hfield⟩
  · rw [hlog, sinceLastWrite_append hmsg (hother.quiet hnew)]
  · rw [hlog', sinceLastWrite_append hmsg]
    exact hall.quiet (by rw [htail, hnew, List.append_assoc])

/-- What is found in the field at the end has been reported since the last write exactly
when a value which agreed at that write is overwritten, or it has been reported anyway. -/
theorem reported_since_lastWrite_iff {report : DeviceStatus → Option β} {c : Conversion} {b : β}
    (hstart : ∃ lead, w₁.log = w.log ++ lead) (hmsg : (writtenField num msg).isSome = true)
    (hfollows : Follows (applied report c) field (w₁.written R msg) w₂)
    (hother : WritesOther num (w₁.written R msg) w₂) :
    (field w₂.dev = b →
        Says (decoded report) b (sinceLastWrite num ((w₂.opened R).log.drop w.log.length))) ↔
      (field (w₁.opened R).dev = b →
        Speaks (applied report c) (sinceLastWrite num (w₂.log.drop w.log.length)) ∨
          Says (decoded report) b (sinceLastWrite num ((w₂.opened R).log.drop w.log.length))) := by
  obtain ⟨new, tail, hnew, htail, hfield⟩ := field_since_lastWrite hstart hmsg hfollows hother
  rw [hfield, hnew, htail]
  refine getD_lastSaid_imp_iff _ fun hshows => ?_
  exact (hshows.of_imp fun _ => decoded_of_applied).mono fun e he => List.mem_append_left _ he

end Field

theorem writesOther_refreshStatus (R : Radio ProtobufDevice) (num : ℕ)
    (hnum : num ∉ [15, 17, 57, 75]) (syncClock : Bool) :
    Moves (WritesOther num) (refreshStatus R syncClock) := by
  have htraffic : StatusTraffic R (fun pt => writtenField num pt = none) (WritesOther num) :=
    .of_blocks (operates_writesOnly R _) fun f hf block msg hmsg => by
      rw [writtenField_of_buildMessage hmsg, if_neg]
      rintro rfl
      exact hnum hf
  exact htraffic.moves_refreshStatus (fun _ => .of_same rfl) syncClock

/-- A command which comes through has been written, and only other writes came after it. -/
theorem written_of_send {R : Radio ProtobufDevice} {β : Type}
    {said : LogEntry ProtobufDevice → Option β} {field : ProtobufDevice → β} {num : ℕ}
    {block : Bytes} {rest : ℕ → ProtobufTask Unit} {w w₁ : World ProtobufDevice}
    (hfield : Register R said field) (hother : ∀ notifs, Moves (WritesOther num) (rest notifs))
    (hfollows : ∀ notifs, Moves (Follows said field) (rest notifs))
    (h : (sendMessage R (pbFieldBytes num block) >>= rest) w = .ok () w₁) :
    ∃ msg, (writtenField num msg).isSome = true ∧ WritesOther num (w.written R msg) w₁ ∧
      Follows said field (w.written R msg) w₁ := by
  obtain ⟨notifs, w₂, hsend, hrest⟩ := run_bind_eq_ok.mp h
  obtain ⟨msg, hmsg, -, rfl⟩ := sendMessage_eq_ok hsend
  refine ⟨msg, ?_, ?_, ?_⟩
  · rw [writtenField_of_buildMessage hmsg, if_pos rfl]
    rfl
  · have hdrain : WritesOther num (w.written R msg) (w.exchanged R msg) :=
      writesOnly_exchanged _ R msg w
    exact trans_of (WritesOther num) hdrain ((hother notifs).of_ok hrest)
  · exact trans_of (Follows said field) (hfield.drains w msg) ((hfollows notifs).of_ok hrest)

/-! ## The controller mode -/

section Mode

variable {replies : ℕ → Reply} {utcOffset : UtcOffset} {on : Bool} {w w₁ : World ProtobufDevice}

/-- A mode which is confirmed has been shown by a status decoded after its write. -/
def ModeHonest (replies : ℕ → Reply) (utcOffset : UtcOffset) (on : Bool)
    (w : World ProtobufDevice) : Prop :=
  ∀ w', setControllerMode (protobufRadio replies utcOffset) on w = .ok true w' →
    Says (decoded (DeviceStatus.modeReport (modeOf on))) true
      (sinceLastWrite 14 (w'.log.drop w.log.length))

/-- A mode which the state already shows when the write goes out is read back, unless the
mode has been shown anyway. -/
def ModeFresh (replies : ℕ → Reply) (utcOffset : UtcOffset) (on : Bool)
    (w : World ProtobufDevice) : Prop :=
  ∀ w₁, w.dev.hasConnection = true →
    commandMode (protobufRadio replies utcOffset) on w = .ok () w₁ →
      (w.opened (protobufRadio replies utcOffset)).dev.state.controllerMode =
        some (.int (modeOf on)) →
        Speaks (applied (DeviceStatus.modeReport (modeOf on)) .nextStart)
            (sinceLastWrite 14 (w₁.log.drop w.log.length)) ∨
          Says (decoded (DeviceStatus.modeReport (modeOf on))) true (sinceLastWrite 14
            ((w₁.opened (protobufRadio replies utcOffset)).log.drop w.log.length))

theorem written_of_commandMode
    (h : commandMode (protobufRadio replies utcOffset) on w = .ok () w₁) :
    ∃ msg, (writtenField 14 msg).isSome = true ∧
      WritesOther 14 (w.written (protobufRadio replies utcOffset) msg) w₁ ∧
        Follows (applied (DeviceStatus.modeReport (modeOf on)) .nextStart)
          (fun d => d.state.controllerMode == some (.int (modeOf on)))
          (w.written (protobufRadio replies utcOffset) msg) w₁ := by
  have hmode := register_mode replies utcOffset (modeOf on)
  refine written_of_send hmode (fun _ => ?_) (fun _ => ?_) h
  · exact Moves.bind (moves_stampCommand fun _ _ _ _ => .of_same rfl) fun _ =>
      writesOther_refreshStatus _ 14 (by decide) false
  · exact Moves.bind (moves_stampCommand fun _ _ _ _ => .of_same rfl rfl) fun _ =>
      hmode.moves_refreshStatus (fun _ _ => rfl) false

/-- A mode command is confirmed when it came through and the field agrees. -/
theorem setControllerMode_eq_ok_true {R : Radio ProtobufDevice} {w' : World ProtobufDevice} :
    setControllerMode R on w = .ok true w' ↔ w.dev.hasConnection = true ∧
      ∃ w₁, commandMode R on w = .ok () w₁ ∧
        (w₁.dev.state.controllerMode == some (.int (modeOf on))) = true ∧ w' = w₁.opened R := by
  rw [setControllerMode, guardedSession_eq_ok_true]
  refine and_congr_right fun _ => exists_congr fun w₁ => ?_
  rw [setControllerModeBody, run_bind_eq_ok]
  constructor
  · rintro ⟨⟨u, w₂, hcommand, hread⟩, rfl⟩
    rw [run_bind_ok (run_getDev w₂)] at hread
    obtain ⟨hfield, rfl⟩ := EStateM.Result.ok.inj hread
    exact ⟨hcommand, hfield, rfl⟩
  · rintro ⟨hcommand, hfield, rfl⟩
    refine ⟨⟨(), w₁, hcommand, ?_⟩, rfl⟩
    rw [run_bind_ok (run_getDev w₁), hfield, run_pure]

theorem modeHonest_iff_fresh (replies : ℕ → Reply) (utcOffset : UtcOffset) (on : Bool)
    (w : World ProtobufDevice) :
    ModeHonest replies utcOffset on w ↔ ModeFresh replies utcOffset on w := by
  constructor
  · intro hhonest w₁ hconn hcommand hstale
    obtain ⟨msg, hmsg, hother, hfollows⟩ := written_of_commandMode hcommand
    have hiff := reported_since_lastWrite_iff (w := w) (b := true) ⟨[], by simp⟩ hmsg hfollows hother
    refine hiff.mp (fun hfield => ?_) (beq_iff_eq.mpr hstale)
    exact hhonest _ (setControllerMode_eq_ok_true.mpr ⟨hconn, w₁, hcommand, hfield, rfl⟩)
  · intro hfresh w' hrun
    obtain ⟨hconn, w₁, hcommand, hfield, rfl⟩ := setControllerMode_eq_ok_true.mp hrun
    obtain ⟨msg, hmsg, hother, hfollows⟩ := written_of_commandMode hcommand
    have hiff := reported_since_lastWrite_iff (w := w) (b := true) ⟨[], by simp⟩ hmsg hfollows hother
    refine hiff.mpr (fun hstale => ?_) hfield
    exact hfresh w₁ hconn hcommand (beq_iff_eq.mp hstale)

end Mode

/-! ## The enable handshake -/

section Program

variable {replies : ℕ → Reply} {utcOffset : UtcOffset} {spec : ProgramSpec}
  {w w₁ : World ProtobufDevice} {R : Radio ProtobufDevice}

/-- `set_program` for an enabled program up to its last `#20`: the mask, and the program's bit. -/
def enableLead (R : Radio ProtobufDevice) (spec : ProgramSpec) : ProtobufTask (ℕ × ℕ) := do
  let read ← readPrograms R
  let mask ← currentMask read.2
  let pb := buildProgramPb spec
  sendMessage_ R pb
  stampCommand ("program set " ++ slotLetter spec.slot) 0
  let _ ← readPrograms R
  let bit ← raising (slotBit (.int spec.slot))
  let flags ← raising (maskWith mask bit)
  writeMask R flags
  autoMode R
  sendMessage_ R pb
  pure (flags, bit)

/-- `bool(flags and flags & bit)` on what the read-back left. -/
def startConfirmed (bit : ℕ) : ProtobufTask Bool := do
  let d ← getDev
  match d.state.nextStartFlags with
  | some (.int n) => pure (n &&& bit != 0)
  | some (.bytes b) => if b.isEmpty then pure false else throw .typeError
  | none => pure false

theorem setProgramBody_of_enabled (henabled : spec.enabled = true) :
    setProgramBody R spec = (do
      let lead ← enableLead R spec
      writeMask R lead.1
      refreshStatus R false
      startConfirmed lead.2) := by
  simp only [setProgramBody, henabled, if_true, enableHandshake, enableLead, bind_assoc, pure_bind]
  rfl

theorem startConfirmed_eq_ok_true {bit : ℕ} {w' : World ProtobufDevice} :
    startConfirmed bit w = .ok true w' ↔ hasBit bit w.dev.state.nextStartFlags = true ∧ w' = w := by
  rw [startConfirmed, run_bind_ok (run_getDev w)]
  unfold hasBit
  rcases w.dev.state.nextStartFlags with _ | n | b
  · simp [run_pure]
  · simp only [run_pure, EStateM.Result.ok.injEq, eq_comm (a := w)]
  · dsimp only
    split_ifs
    · simp [run_pure]
    · simp [run_throw]

theorem enableLead_bit {lead : ℕ × ℕ} (h : enableLead R spec w = .ok lead w₁) :
    lead.2 = 1 <<< (spec.slot - 1) := by
  rw [enableLead] at h
  obtain ⟨read, u₁, -, h₁⟩ := run_bind_eq_ok.mp h
  obtain ⟨mask, u₂, -, h₂⟩ := run_bind_eq_ok.mp h₁
  obtain ⟨_, u₃, -, h₃⟩ := run_bind_eq_ok.mp h₂
  obtain ⟨_, u₄, -, h₄⟩ := run_bind_eq_ok.mp h₃
  obtain ⟨readBack, u₅, -, h₅⟩ := run_bind_eq_ok.mp h₄
  obtain ⟨bit, u₆, hbit, h₆⟩ := run_bind_eq_ok.mp h₅
  obtain ⟨flags, u₇, -, h₇⟩ := run_bind_eq_ok.mp h₆
  obtain ⟨_, u₈, -, h₈⟩ := run_bind_eq_ok.mp h₇
  obtain ⟨_, u₉, -, h₉⟩ := run_bind_eq_ok.mp h₈
  obtain ⟨_, u, -, hret⟩ := run_bind_eq_ok.mp h₉
  cases hret
  obtain ⟨hbit, -⟩ := run_raising_eq_ok.mp hbit
  rcases hslot : spec.slot with _ | n
  · rw [hslot] at hbit
    cases hbit
  · rw [hslot] at hbit
    exact (Except.ok.inj hbit).symm

theorem grows_enableLead : Moves (WritesOnly fun _ => True) (enableLead R spec) := by
  have hmask : ∀ mask, Moves (WritesOnly fun _ => True) (currentMask mask) := fun mask =>
    Moves.bind moves_getDev fun _ => .raising _
  apply (grows_readPrograms R).bind
  intro read
  apply (hmask _).bind
  intro mask
  apply (grows_sendMessage_ R _).bind
  intro _
  apply (grows_stampCommand _ _).bind
  intro _
  apply (grows_readPrograms R).bind
  intro readBack
  refine Moves.bind (.raising _) ?_
  intro bit
  refine Moves.bind (.raising _) ?_
  intro flags
  apply (grows_sendMessage_ R _).bind
  intro _
  apply (grows_sendMessage_ R _).bind
  intro _
  exact (grows_sendMessage_ R _).bind fun _ => .pure _

/-- An enabled program which is confirmed has been shown among the programs which start
next, by a status decoded after the last `#20`. -/
def ProgramHonest (replies : ℕ → Reply) (utcOffset : UtcOffset) (spec : ProgramSpec)
    (w : World ProtobufDevice) : Prop :=
  ∀ w', spec.enabled = true →
    setProgram (protobufRadio replies utcOffset) spec w = .ok true w' →
      Says (decoded (DeviceStatus.startReport (1 <<< (spec.slot - 1)))) true
        (sinceLastWrite 20 (w'.log.drop w.log.length))

/-- A slot which the state already shows when the last `#20` goes out is read back, unless
it has been shown anyway. -/
def ProgramFresh (replies : ℕ → Reply) (utcOffset : UtcOffset) (spec : ProgramSpec)
    (w : World ProtobufDevice) : Prop :=
  ∀ lead w₁ w₂, spec.enabled = true → w.dev.hasConnection = true →
    enableLead (protobufRadio replies utcOffset) spec w = .ok lead w₁ →
      (do
        writeMask (protobufRadio replies utcOffset) lead.1
        refreshStatus (protobufRadio replies utcOffset) false : ProtobufTask Unit) w₁ =
          .ok () w₂ →
        hasBit (1 <<< (spec.slot - 1))
          (w₁.opened (protobufRadio replies utcOffset)).dev.state.nextStartFlags = true →
          Speaks (applied (DeviceStatus.startReport (1 <<< (spec.slot - 1))) .nextStart)
              (sinceLastWrite 20 (w₂.log.drop w.log.length)) ∨
            Says (decoded (DeviceStatus.startReport (1 <<< (spec.slot - 1)))) true
              (sinceLastWrite 20
                ((w₂.opened (protobufRadio replies utcOffset)).log.drop w.log.length))

theorem written_of_enable {flags bit : ℕ}
    (h : (do
      writeMask (protobufRadio replies utcOffset) flags
      refreshStatus (protobufRadio replies utcOffset) false : ProtobufTask Unit) w = .ok () w₁) :
    ∃ msg, (writtenField 20 msg).isSome = true ∧
      WritesOther 20 (w.written (protobufRadio replies utcOffset) msg) w₁ ∧
        Follows (applied (DeviceStatus.startReport bit) .nextStart)
          (fun d => hasBit bit d.state.nextStartFlags)
          (w.written (protobufRadio replies utcOffset) msg) w₁ := by
  have hstart := register_start replies utcOffset bit
  rw [writeMask, sendMessage_, bind_assoc] at h
  exact written_of_send hstart (fun _ => writesOther_refreshStatus _ 20 (by decide) false)
    (fun _ => hstart.moves_refreshStatus (fun _ _ => rfl) false) h

/-- An enabled program is confirmed when the handshake came through and the bit is there. -/
theorem setProgram_eq_ok_true {w' : World ProtobufDevice} (henabled : spec.enabled = true) :
    setProgram R spec w = .ok true w' ↔ w.dev.hasConnection = true ∧
      ∃ lead w₁ w₂, enableLead R spec w = .ok lead w₁ ∧
        (do writeMask R lead.1; refreshStatus R false : ProtobufTask Unit) w₁ = .ok () w₂ ∧
          hasBit (1 <<< (spec.slot - 1)) w₂.dev.state.nextStartFlags = true ∧
            w' = w₂.opened R := by
  rw [setProgram, guardedSession_eq_ok_true, setProgramBody_of_enabled henabled]
  refine and_congr_right fun _ => ?_
  constructor
  · rintro ⟨w₃, hbody, rfl⟩
    obtain ⟨lead, w₁, hlead, htail⟩ := run_bind_eq_ok.mp hbody
    obtain ⟨_, u, hmask, hrest⟩ := run_bind_eq_ok.mp htail
    obtain ⟨_, w₂, hread, hconfirm⟩ := run_bind_eq_ok.mp hrest
    obtain ⟨hfield, rfl⟩ := startConfirmed_eq_ok_true.mp hconfirm
    rw [enableLead_bit hlead] at hfield
    exact ⟨lead, w₁, w₃, hlead, (run_bind_ok hmask).trans hread, hfield, rfl⟩
  · rintro ⟨lead, w₁, w₂, hlead, htail, hfield, rfl⟩
    obtain ⟨_, u, hmask, hread⟩ := run_bind_eq_ok.mp htail
    refine ⟨w₂, ?_, rfl⟩
    rw [run_bind_ok hlead, run_bind_ok hmask, run_bind_ok hread]
    exact startConfirmed_eq_ok_true.mpr ⟨by rwa [enableLead_bit hlead], rfl⟩

theorem programHonest_iff_fresh (replies : ℕ → Reply) (utcOffset : UtcOffset)
    (spec : ProgramSpec) (w : World ProtobufDevice) :
    ProgramHonest replies utcOffset spec w ↔ ProgramFresh replies utcOffset spec w := by
  have hlogs : ∀ {lead w₁}, enableLead (protobufRadio replies utcOffset) spec w = .ok lead w₁ →
      ∃ new, w₁.log = w.log ++ new := by
    intro lead w₁ hlead
    obtain ⟨new, hlog, -⟩ := grows_enableLead.of_ok hlead
    exact ⟨new, hlog⟩
  constructor
  · intro hhonest lead w₁ w₂ henabled hconn hlead htail hstale
    obtain ⟨msg, hmsg, hother, hfollows⟩ := written_of_enable htail
    have hiff := reported_since_lastWrite_iff (b := true) (hlogs hlead) hmsg hfollows hother
    refine hiff.mp (fun hfield => hhonest _ henabled ?_) hstale
    exact (setProgram_eq_ok_true henabled).mpr ⟨hconn, lead, w₁, w₂, hlead, htail, hfield, rfl⟩
  · intro hfresh w' henabled hrun
    obtain ⟨hconn, lead, w₁, w₂, hlead, htail, hfield, rfl⟩ :=
      (setProgram_eq_ok_true henabled).mp hrun
    obtain ⟨msg, hmsg, hother, hfollows⟩ := written_of_enable htail
    have hiff := reported_since_lastWrite_iff (b := true) (hlogs hlead) hmsg hfollows hother
    exact hiff.mpr (hfresh lead w₁ w₂ henabled hconn hlead htail) hfield

end Program

/-- Mode and enable are confirmed from fresh data exactly when the state did not show the
wanted value at the write, or the read-back spoke of the field. -/
theorem confirmations_fresh_iff (replies : ℕ → Reply) (utcOffset : UtcOffset)
    (w : World ProtobufDevice) :
    (∀ on, ModeHonest replies utcOffset on w ↔ ModeFresh replies utcOffset on w) ∧
      ∀ spec, ProgramHonest replies utcOffset spec w ↔ ProgramFresh replies utcOffset spec w :=
  ⟨fun on => modeHonest_iff_fresh replies utcOffset on w, fun spec =>
    programHonest_iff_fresh replies utcOffset spec w⟩

/-- A controller last seen in automatic mode confirms the mode without a word. -/
theorem silence_confirms_mode : ¬ ModeHonest (fun _ => { clock := .epoch }) .utc true
    { dev := { state := { controllerMode := some (.int 1) } }, clock := .epoch } := by
  intro hhonest
  set R := protobufRadio (fun _ => { clock := .epoch }) .utc
  set w : World ProtobufDevice :=
    { dev := { state := { controllerMode := some (.int 1) } }, clock := .epoch }
  have hconfirms : (result (setControllerMode R true) w).toOption = some true := by decide +kernel
  have hsilent : (after (setControllerMode R true) w).log.all LogEntry.isWrite := by decide +kernel
  cases hrun : setControllerMode R true w with
  | error e w' =>
    rw [result, hrun] at hconfirms
    cases hconfirms
  | ok b w' =>
    rw [result, hrun] at hconfirms
    cases hconfirms
    rw [after_of_ok hrun] at hsilent
    obtain ⟨e, he, hshows⟩ := hhonest w' hrun
    have hmem : e ∈ w'.log := List.mem_of_mem_drop
      (List.mem_reverse.mp ((List.takeWhile_sublist _).subset (List.mem_reverse.mp he)))
    have hwrite := List.all_eq_true.mp hsilent e hmem
    cases e with
    | wrote pt => cases hshows
    | heard n met => cases hwrite

end OrbitBhyve.Devices
