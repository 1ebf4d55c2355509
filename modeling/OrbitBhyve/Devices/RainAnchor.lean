import OrbitBhyve.Devices.RainConfirmation
import OrbitBhyve.Devices.RainDelay

/-!
# What a rain delay's expiry is counted from

`set_rain_delay` reads the device clock before it writes, and counts the expiry
from the clock in the state. The state keeps a clock for good, so an unanswered
read leaves the one of an earlier session there.
-/

namespace OrbitBhyve.Devices

open Foundation Python Wire

def DeviceStatus.clockNumber (st : DeviceStatus) : Option ℕ :=
  match st.deviceClock with
  | some (.int n) => some n
  | _ => none

/-- The last clock among the frames of a log, else the host's time. -/
def freshBase (log : List (LogEntry ProtobufDevice)) (host : ℤ) : ℤ :=
  match lastSaid (decoded DeviceStatus.clockNumber) log with
  | some n => n
  | none => host

theorem freshBase_of_quiet {log : List (LogEntry ProtobufDevice)} {host : ℤ}
    (h : ∀ e ∈ log, decoded DeviceStatus.clockNumber e = none) : freshBase log host = host := by
  rw [freshBase, lastSaid_eq_none.mpr h]

def writtenExpiry (pt : Bytes) : Option PbVal :=
  (writtenField 17 pt).bind fun block => pbField (pbParse block) 3

/-! ## Whether a message goes out -/

/-- The message can be framed and the session opens. -/
def GoesOut {δ : Type} (R : Radio δ) (pb msg : Bytes) (w : World δ) : Prop :=
  buildMessage pb = .ok msg ∧ msg.length ≤ 255 ∧ (R.replies w.tick).failed = none

section GoesOut

variable {R : Radio ProtobufDevice} {pb msg : Bytes} {w : World ProtobufDevice}

/-- What goes out is in the log, and whatever follows comes behind it. -/
theorem after_sendMessage_of_goesOut {f : ℕ → ProtobufTask Bool} (h : GoesOut R pb msg w)
    (hf : ∀ n, Moves (WritesOnly fun _ => True) (f n)) :
    WritesOnly (fun _ => True) (w.written R msg) (after (sendMessage R pb >>= f) w) := by
  obtain ⟨hmsg, hfits, hopens⟩ := h
  have hdrain := writesOnly_exchanged (fun _ => True) R msg w
  have hexchange := Radio.run_exchange (R := R) msg w
  rw [hopens] at hexchange
  dsimp only at hexchange
  rw [if_neg (by omega)] at hexchange
  cases hraised : (R.replies w.tick).raised with
  | some e =>
    rw [hraised] at hexchange
    have hsend : sendMessage R pb w = .error e (w.exchanged R msg) := by
      rw [sendMessage, run_bind_ok (run_raising_ok hmsg w), Radio.send, run_bind_error hexchange]
    rwa [after_bind_error hsend]
  | none =>
    rw [hraised] at hexchange
    have hsend : sendMessage R pb w = .ok (R.replies w.tick).drained (w.exchanged R msg) := by
      rw [sendMessage, run_bind_ok (run_raising_ok hmsg w), Radio.send, run_bind_ok hexchange,
        run_pure]
    rw [after_bind_ok hsend]
    exact trans_of (WritesOnly fun _ => True) hdrain (hf _ _)

theorem after_sendMessage_of_not {f : ℕ → ProtobufTask Bool} (h : ∀ msg, ¬ GoesOut R pb msg w) :
    WritesOnly (fun _ => False) w (after (sendMessage R pb >>= f) w) := by
  cases hmsg : buildMessage pb with
  | error e =>
    have hsend : sendMessage R pb w = .error e w := by
      rw [sendMessage, run_bind_error (run_raising_error hmsg w)]
    rw [after_bind_error hsend]
    exact refl_of (WritesOnly fun _ => False) w
  | ok msg =>
    have hexchange : ∃ e, R.exchange msg w = .error e (w.opened R) := by
      rw [Radio.run_exchange]
      cases hopens : (R.replies w.tick).failed with
      | some e => exact ⟨e, rfl⟩
      | none =>
        have hlong : 255 < msg.length := by
          by_contra hfits
          exact h msg ⟨hmsg, by omega, hopens⟩
        exact ⟨.valueError, if_pos hlong⟩
    obtain ⟨e, hexchange⟩ := hexchange
    have hsend : sendMessage R pb w = .error e (w.opened R) := by
      rw [sendMessage, run_bind_ok (run_raising_ok hmsg w), Radio.send, run_bind_error hexchange]
    rw [after_bind_error hsend]
    exact writesOnly_opened _ R w

end GoesOut

/-! ## The written expiry -/

theorem writtenExpiry_set {minutes expiry : ℤ} {msg : Bytes} (hpos : 0 < minutes)
    (h : buildMessage (buildRainDelayPb minutes (some expiry)) = .ok msg) :
    writtenExpiry msg = some (.int (wireInt expiry)) := by
  rw [writtenExpiry, writtenField_of_buildMessage h, if_pos rfl, Option.bind_some,
    pbParse_rainDelayBody_some hpos]
  rfl

section Call

variable {replies : ℕ → Reply} {utcOffset : UtcOffset} {minutes : ℤ}
  {w w₁ : World ProtobufDevice}

theorem grows_seedRainDelay (minutes expiry : ℤ) (notifs : ℕ) :
    Moves (WritesOnly fun _ => True) (seedRainDelay minutes expiry notifs) :=
  Moves.bind (grows_stampCommand _ _) fun _ =>
    Moves.bind (moves_modState fun _ => .of_same rfl) fun _ =>
      Moves.bind (.raising _) fun _ => moves_modState fun _ => .of_same rfl

theorem grows_rainDelayConfirmed (R : Radio ProtobufDevice) (wanted : Bool) :
    Moves (WritesOnly fun _ => True) (rainDelayConfirmed R wanted) := by
  have htraffic : StatusTraffic R (fun _ => True) (WritesOnly fun _ => True) :=
    .of_blocks (operates_writesOnly R _) fun _ _ _ _ _ => trivial
  exact Moves.bind (htraffic.moves_refreshStatus (fun _ => .of_same rfl) false) fun _ =>
    Moves.bind moves_getDev fun _ => .pure _

theorem after_setRainDelay (hpos : 0 < minutes) (hconn : w.dev.hasConnection = true)
    (hread : refreshStatus (protobufRadio replies utcOffset) false w = .ok () w₁) :
    after (setRainDelay (protobufRadio replies utcOffset) minutes) w =
      (after (do
        commandRainDelay (protobufRadio replies utcOffset) minutes
        rainDelayConfirmed (protobufRadio replies utcOffset) true) w₁).opened
        (protobufRadio replies utcOffset) := by
  rw [setRainDelay, after_bind_ok (run_getDev w), if_pos hconn, after_tryFinally_disconnect,
    if_neg (by omega), after_bind_ok hread]

theorem after_command_of_base {R : Radio ProtobufDevice} {used : ℤ}
    (hbase : rainDelayBase w.dev.state.deviceClock w.clock = .ok used) :
    after (do commandRainDelay R minutes; rainDelayConfirmed R true) w =
      after (do
        let notifs ← sendMessage R (buildRainDelayPb minutes (some (used + minutes * 60)))
        seedRainDelay minutes (used + minutes * 60) notifs
        rainDelayConfirmed R true) w := by
  simp only [commandRainDelay, bind_assoc]
  rw [after_bind_ok (run_getDev w), after_bind_ok (run_getClock w),
    after_bind_ok (run_raising_ok hbase w)]

theorem after_command_of_no_base {R : Radio ProtobufDevice} {e : PyErr}
    (hbase : rainDelayBase w.dev.state.deviceClock w.clock = .error e) :
    after (do commandRainDelay R minutes; rainDelayConfirmed R true) w = w := by
  simp only [commandRainDelay, bind_assoc]
  rw [after_bind_ok (run_getDev w), after_bind_ok (run_getClock w),
    after_bind_error (run_raising_error hbase w)]

/-- When the command goes out it is the first write after the read. -/
theorem log_setRainDelay {used : ℤ} {msg : Bytes} (hpos : 0 < minutes)
    (hconn : w.dev.hasConnection = true)
    (hread : refreshStatus (protobufRadio replies utcOffset) false w = .ok () w₁)
    (hbase : rainDelayBase w₁.dev.state.deviceClock w₁.clock = .ok used)
    (hout : GoesOut (protobufRadio replies utcOffset)
      (buildRainDelayPb minutes (some (used + minutes * 60))) msg w₁) :
    ∃ hs rest, (after (setRainDelay (protobufRadio replies utcOffset) minutes) w).log =
        w₁.log ++ (hs ++ .wrote msg :: rest) ∧
      (w₁.opened (protobufRadio replies utcOffset)).log = w₁.log ++ hs ∧
        ∀ e ∈ hs, ∃ n met, e = .heard n met := by
  set R := protobufRadio replies utcOffset
  obtain ⟨hs, hwritten, hheard⟩ := Radio.log_written (R := R) w₁ msg
  have hcommand := after_sendMessage_of_goesOut hout fun notifs =>
    Moves.bind (grows_seedRainDelay minutes (used + minutes * 60) notifs) fun _ =>
      grows_rainDelayConfirmed R true
  rw [← after_command_of_base hbase] at hcommand
  obtain ⟨new, hnew, -⟩ := hcommand
  obtain ⟨tail, htail, -⟩ := writesOnly_opened (fun _ => True) R
    (after (do commandRainDelay R minutes; rainDelayConfirmed R true) w₁)
  refine ⟨hs, new ++ tail, ?_, ?_, fun e he => ?_⟩
  · rw [after_setRainDelay hpos hconn hread, htail, hnew, hwritten]
    simp
  · exact List.append_cancel_right hwritten
  · obtain ⟨n, met, -, rfl⟩ := hheard e he
    exact ⟨n, met, rfl⟩

theorem nextWrite_setRainDelay (hpos : 0 < minutes) (hconn : w.dev.hasConnection = true)
    (hread : refreshStatus (protobufRadio replies utcOffset) false w = .ok () w₁)
    (hno : ∀ used msg, rainDelayBase w₁.dev.state.deviceClock w₁.clock = .ok used →
      ¬ GoesOut (protobufRadio replies utcOffset)
        (buildRainDelayPb minutes (some (used + minutes * 60))) msg w₁) :
    nextWrite ((after (setRainDelay (protobufRadio replies utcOffset) minutes) w).log.drop
      w₁.log.length) = none := by
  set R := protobufRadio replies utcOffset
  have hcommand : WritesOnly (fun _ => False) w₁
      (after (do commandRainDelay R minutes; rainDelayConfirmed R true) w₁) := by
    cases hbase : rainDelayBase w₁.dev.state.deviceClock w₁.clock with
    | error e =>
      rw [after_command_of_no_base hbase]
      exact refl_of (WritesOnly fun _ => False) w₁
    | ok used =>
      rw [after_command_of_base hbase]
      exact after_sendMessage_of_not fun msg => hno used msg hbase
  have hcall := trans_of (WritesOnly fun _ => False) hcommand (writesOnly_opened _ R _)
  rw [← after_setRainDelay hpos hconn hread] at hcall
  rw [← Option.not_isSome_iff_eq_none]
  intro hsome
  obtain ⟨pt, hpt⟩ := Option.isSome_iff_exists.mp hsome
  exact hcall.wrote pt (nextWrite_eq_some hpt)

end Call

/-! ## The law of the anchor -/

/-- The `#17` which a set writes after its read carries the last device clock decoded
during the call before it, or the host's time when none was, plus the minutes. -/
def ExpiryFresh (replies : ℕ → Reply) (utcOffset : UtcOffset) (minutes : ℤ)
    (w : World ProtobufDevice) : Prop :=
  ∀ w₁ pt, 0 < minutes → refreshStatus (protobufRadio replies utcOffset) false w = .ok () w₁ →
    let log := (after (setRainDelay (protobufRadio replies utcOffset) minutes) w).log
    nextWrite (log.drop w₁.log.length) = some pt →
      ∃ expiry : ℕ, writtenExpiry pt = some (.int expiry) ∧
        (expiry : ℤ) = freshBase (w₁.log.drop w.log.length ++
          untilNextWrite (log.drop w₁.log.length)) w₁.clock.intTimestamp + minutes * 60

/-- Whenever the command goes out, what the code counts from is the fresh base: the last
clock of the read, or else the one left over from before, or else the host's time. -/
def AnchorFresh (replies : ℕ → Reply) (utcOffset : UtcOffset) (minutes : ℤ)
    (w : World ProtobufDevice) : Prop :=
  ∀ w₁ used msg, 0 < minutes → w.dev.hasConnection = true →
    refreshStatus (protobufRadio replies utcOffset) false w = .ok () w₁ →
      rainDelayBase ((lastSaid (decoded DeviceStatus.clockReport)
        (w₁.log.drop w.log.length)).getD w.dev.state.deviceClock) w₁.clock = .ok used →
        GoesOut (protobufRadio replies utcOffset)
          (buildRainDelayPb minutes (some (used + minutes * 60))) msg w₁ →
            (wireInt (used + minutes * 60) : ℤ) =
              freshBase ((w₁.opened (protobufRadio replies utcOffset)).log.drop w.log.length)
                w₁.clock.intTimestamp + minutes * 60

theorem deviceClock_refreshStatus {replies : ℕ → Reply} {utcOffset : UtcOffset}
    {w w₁ : World ProtobufDevice} {syncClock : Bool}
    (h : refreshStatus (protobufRadio replies utcOffset) syncClock w = .ok () w₁) :
    ∃ new, w₁.log = w.log ++ new ∧ w₁.dev.state.deviceClock =
      (lastSaid (decoded DeviceStatus.clockReport) new).getD w.dev.state.deviceClock :=
  ((register_clock replies utcOffset).moves_refreshStatus (fun _ _ => rfl) syncClock).of_ok h

theorem expiryFresh_of_anchorFresh {replies : ℕ → Reply} {utcOffset : UtcOffset} {minutes : ℤ}
    {w : World ProtobufDevice} (h : AnchorFresh replies utcOffset minutes w) :
    ExpiryFresh replies utcOffset minutes w := by
  intro w₁ pt hpos hread
  dsimp only
  cases hconn : w.dev.hasConnection with
  | false =>
    rw [setRainDelay, after_bind_ok (run_getDev w), hconn, if_neg (by decide), after_pure]
    rw [refreshStatus, run_bind_ok (run_getDev w), hconn, run_onlyIf_false] at hread
    cases hread
    rw [List.drop_length]
    rintro ⟨⟩
  | true =>
    by_cases hout : ∃ used msg, rainDelayBase w₁.dev.state.deviceClock w₁.clock = .ok used ∧
        GoesOut (protobufRadio replies utcOffset)
          (buildRainDelayPb minutes (some (used + minutes * 60))) msg w₁
    · obtain ⟨used, msg, hbase, hout⟩ := hout
      obtain ⟨hs, rest, hcall, hopened, hhs⟩ := log_setRainDelay hpos hconn hread hbase hout
      obtain ⟨new, hlog, hclock⟩ := deviceClock_refreshStatus hread
      rw [hcall, List.drop_left, nextWrite_append hhs, untilNextWrite_append hhs]
      rintro ⟨⟩
      refine ⟨_, writtenExpiry_set hpos hout.1, ?_⟩
      have hfresh := h w₁ used pt hpos hconn hread (by rwa [hlog, List.drop_left, ← hclock]) hout
      rw [hfresh, hopened, hlog, List.append_assoc, List.drop_left, List.drop_left]
    · have hnone := nextWrite_setRainDelay hpos hconn hread fun used msg hbase hgoes =>
        hout ⟨used, msg, hbase, hgoes⟩
      rw [hnone]
      rintro ⟨⟩

theorem anchorFresh_of_expiryFresh {replies : ℕ → Reply} {utcOffset : UtcOffset} {minutes : ℤ}
    {w : World ProtobufDevice} (h : ExpiryFresh replies utcOffset minutes w) :
    AnchorFresh replies utcOffset minutes w := by
  intro w₁ used msg hpos hconn hread hbase hout
  obtain ⟨new, hlog, hclock⟩ := deviceClock_refreshStatus hread
  rw [hlog, List.drop_left, ← hclock] at hbase
  obtain ⟨hs, rest, hcall, hopened, hhs⟩ := log_setRainDelay hpos hconn hread hbase hout
  have hwritten := h w₁ msg hpos hread
  dsimp only at hwritten
  rw [hcall, List.drop_left, nextWrite_append hhs, untilNextWrite_append hhs] at hwritten
  obtain ⟨expiry, hexpiry, heq⟩ := hwritten rfl
  rw [writtenExpiry_set hpos hout.1] at hexpiry
  cases hexpiry
  rw [heq, hopened, hlog, List.append_assoc, List.drop_left, List.drop_left]

/-- The expiry is anchored in the call's own reading exactly when the anchor is. -/
theorem expiryFresh_iff (replies : ℕ → Reply) (utcOffset : UtcOffset) (minutes : ℤ)
    (w : World ProtobufDevice) :
    ExpiryFresh replies utcOffset minutes w ↔ AnchorFresh replies utcOffset minutes w :=
  ⟨anchorFresh_of_expiryFresh, expiryFresh_of_anchorFresh⟩

/-! ## The cases of the anchor -/

theorem freshBase_append (as bs : List (LogEntry ProtobufDevice)) (host : ℤ) :
    freshBase (as ++ bs) host = freshBase bs (freshBase as host) := by
  unfold freshBase
  rw [lastSaid_append]
  cases lastSaid (decoded DeviceStatus.clockNumber) bs <;> rfl

theorem rainDelayBase_int (n : ℕ) (now : DateTime) :
    rainDelayBase (some (.int n)) now = .ok (if n = 0 then now.intTimestamp else n) := by
  cases n <;> rfl

theorem rainDelayBase_nonneg {clock : Option PbVal} {now : DateTime} {used : ℤ}
    (h : rainDelayBase clock now = .ok used) (hnow : 0 ≤ now.intTimestamp) : 0 ≤ used := by
  unfold rainDelayBase at h
  split at h <;> cases h
  · exact Int.natCast_nonneg _
  · exact hnow

/-- The number in what a status reports as its clock. -/
def clockOf : Option PbVal → Option ℕ
  | some (.int n) => some n
  | _ => none

theorem clockNumber_eq (e : LogEntry ProtobufDevice) :
    decoded DeviceStatus.clockNumber e = (decoded DeviceStatus.clockReport e).bind clockOf := by
  cases e with
  | wrote pt => rfl
  | heard n met =>
    change (decodedStatus n.pt).bind DeviceStatus.clockNumber =
      ((decodedStatus n.pt).bind DeviceStatus.clockReport).bind clockOf
    cases decodedStatus n.pt with
    | none => rfl
    | some st =>
      rw [Option.bind_some, Option.bind_some]
      unfold DeviceStatus.clockNumber DeviceStatus.clockReport
      cases st.deviceClock <;> rfl

theorem freshBase_of_silent {log : List (LogEntry ProtobufDevice)} {host : ℤ}
    (h : ∀ e ∈ log, decoded DeviceStatus.clockReport e = none) : freshBase log host = host := by
  refine freshBase_of_quiet fun e he => ?_
  rw [clockNumber_eq, h e he, Option.bind_none]

theorem freshBase_of_clock {log : List (LogEntry ProtobufDevice)} {host : ℤ} {n : ℕ}
    (h : lastSaid (decoded DeviceStatus.clockReport) log = some (some (.int n))) :
    freshBase log host = n := by
  have hnumber : lastSaid (fun e => (decoded DeviceStatus.clockReport e).bind clockOf) log =
      some n := lastSaid_bind h rfl
  simp only [← clockNumber_eq] at hnumber
  rw [freshBase, hnumber]

/-- A set whose command goes out, counted from `used`. -/
structure Outgoing (replies : ℕ → Reply) (utcOffset : UtcOffset) (minutes : ℤ)
    (w w₁ : World ProtobufDevice) (used : ℤ) : Prop where
  positive : 0 < minutes
  connected : w.dev.hasConnection = true
  read : refreshStatus (protobufRadio replies utcOffset) false w = .ok () w₁
  base : rainDelayBase w₁.dev.state.deviceClock w₁.clock = .ok used
  out : ∃ msg, GoesOut (protobufRadio replies utcOffset)
    (buildRainDelayPb minutes (some (used + minutes * 60))) msg w₁

section Cases

variable {replies : ℕ → Reply} {utcOffset : UtcOffset} {minutes used : ℤ}
  {w w₁ : World ProtobufDevice}

/-- What a call has heard by its write: the entries of the read, which the clock in the state
follows, and those at the opening of the write's session. -/
theorem Outgoing.heard (h : Outgoing replies utcOffset minutes w w₁ used) :
    ∃ read late, w₁.log.drop w.log.length = read ∧
      (w₁.opened (protobufRadio replies utcOffset)).log.drop w₁.log.length = late ∧
      (w₁.opened (protobufRadio replies utcOffset)).log.drop w.log.length = read ++ late ∧
      rainDelayBase ((lastSaid (decoded DeviceStatus.clockReport) read).getD
        w.dev.state.deviceClock) w₁.clock = .ok used := by
  obtain ⟨read, hread, hclock⟩ := deviceClock_refreshStatus h.read
  obtain ⟨late, hlate, -⟩ :=
    writesOnly_opened (fun _ => True) (protobufRadio replies utcOffset) w₁
  refine ⟨read, late, ?_, ?_, ?_, hclock ▸ h.base⟩
  · rw [hread, List.drop_left]
  · rw [hlate, List.drop_left]
  · rw [hlate, hread, List.append_assoc, List.drop_left]

/-- From 1970 on the varint carries the sum, and the bases alone are compared. -/
theorem Outgoing.anchorFresh_iff (h : Outgoing replies utcOffset minutes w w₁ used)
    (hhost : 0 ≤ w₁.clock.intTimestamp) :
    AnchorFresh replies utcOffset minutes w ↔
      used = freshBase ((w₁.opened (protobufRadio replies utcOffset)).log.drop w.log.length)
        w₁.clock.intTimestamp := by
  obtain ⟨read, late, hdrop, -, -, hsame⟩ := h.heard
  obtain ⟨hpos, hconn, hread, hbase, msg, hout⟩ := h
  have hcarried : (wireInt (used + minutes * 60) : ℤ) = used + minutes * 60 := by
    have hused := rainDelayBase_nonneg hbase hhost
    obtain ⟨n, hn⟩ := Int.eq_ofNat_of_zero_le (show 0 ≤ used + minutes * 60 by omega)
    rw [hn, wireInt_natCast]
  constructor
  · intro hfresh
    have heq := hfresh w₁ used msg hpos hconn hread (by rwa [hdrop]) hout
    rw [hcarried] at heq
    omega
  · intro heq w₂ used₂ msg₂ _ _ hread₂ hbase₂ _
    rw [hread] at hread₂
    cases hread₂
    rw [hdrop, hsame] at hbase₂
    cases hbase₂
    rw [hcarried, heq]

/-- A call which hears no clock counts from the one which was there, if that is not zero. -/
theorem Outgoing.anchorFresh_iff_of_quiet (h : Outgoing replies utcOffset minutes w w₁ used)
    (hhost : 0 ≤ w₁.clock.intTimestamp) {n : ℕ} (hleft : w.dev.state.deviceClock = some (.int n))
    (hquiet : ∀ e ∈ (w₁.opened (protobufRadio replies utcOffset)).log.drop w.log.length,
      decoded DeviceStatus.clockReport e = none) :
    AnchorFresh replies utcOffset minutes w ↔ n = 0 ∨ n = w₁.clock.intTimestamp := by
  obtain ⟨read, late, -, -, hall, hbase⟩ := h.heard
  have hsilent : lastSaid (decoded DeviceStatus.clockReport) read = none := by
    refine lastSaid_eq_none.mpr fun e he => hquiet e ?_
    rw [hall]
    exact List.mem_append_left late he
  rw [hsilent, Option.getD_none, hleft, rainDelayBase_int] at hbase
  rw [h.anchorFresh_iff hhost, freshBase_of_silent hquiet, ← Except.ok.inj hbase]
  split_ifs with hzero
  · exact iff_of_true rfl (.inl hzero)
  · exact (or_iff_right hzero).symm

/-- A read whose last clock is zero counts from the host's time. -/
theorem Outgoing.anchorFresh_iff_of_read (h : Outgoing replies utcOffset minutes w w₁ used)
    (hhost : 0 ≤ w₁.clock.intTimestamp) {n : ℕ}
    (hlast : lastSaid (decoded DeviceStatus.clockReport) (w₁.log.drop w.log.length) =
      some (some (.int n)))
    (hquiet : ∀ e ∈ (w₁.opened (protobufRadio replies utcOffset)).log.drop w₁.log.length,
      decoded DeviceStatus.clockReport e = none) :
    AnchorFresh replies utcOffset minutes w ↔ n ≠ 0 ∨ w₁.clock.intTimestamp = 0 := by
  obtain ⟨read, late, hread, hlate, hall, hbase⟩ := h.heard
  rw [hread] at hlast
  rw [hlate] at hquiet
  rw [hlast, Option.getD_some, rainDelayBase_int] at hbase
  rw [h.anchorFresh_iff hhost, hall, freshBase_append, freshBase_of_silent hquiet,
    freshBase_of_clock hlast, ← Except.ok.inj hbase]
  split_ifs with hzero
  · rw [hzero, or_iff_right (not_not_intro rfl), Nat.cast_zero]
  · exact iff_of_true rfl (.inl hzero)

/-- A clock which comes in between the read and the command must be the one the code has. -/
theorem Outgoing.anchorFresh_iff_of_late (h : Outgoing replies utcOffset minutes w w₁ used)
    (hhost : 0 ≤ w₁.clock.intTimestamp) {n : ℕ}
    (hlate : lastSaid (decoded DeviceStatus.clockNumber)
      ((w₁.opened (protobufRadio replies utcOffset)).log.drop w₁.log.length) = some n) :
    AnchorFresh replies utcOffset minutes w ↔ used = n := by
  obtain ⟨read, late, -, hdrop, hall, -⟩ := h.heard
  rw [hdrop] at hlate
  have hfresh : ∀ host, freshBase late host = n := fun host => by rw [freshBase, hlate]
  rw [h.anchorFresh_iff hhost, hall, freshBase_append, hfresh]

end Cases

/-- A clock of an earlier session is what an unanswered read leaves to count from. -/
theorem staleClock_anchors : ¬ ExpiryFresh (fun _ => { clock := .epoch }) .utc 60
    { dev := { state := { deviceClock := some (.int 1000) } }, clock := .epoch } := by
  intro hfresh
  set R := protobufRadio (fun _ => { clock := .epoch }) .utc
  set w : World ProtobufDevice :=
    { dev := { state := { deviceClock := some (.int 1000) } }, clock := .epoch }
  cases hread : refreshStatus R false w with
  | error e w₁ =>
    have hreturns : (result (refreshStatus R false) w).isOk = true := by decide +kernel
    rw [result, hread] at hreturns
    cases hreturns
  | ok u w₁ =>
    have hw₁ := after_of_ok hread
    have hstart : (after (refreshStatus R false) w).log.length = 5 := by decide +kernel
    have hclock : (after (refreshStatus R false) w).clock = .epoch := by decide +kernel
    have hquiet : ((after (refreshStatus R false) w).log ++ (after (setRainDelay R 60) w).log).all
        fun e => (decoded DeviceStatus.clockNumber e).isNone := by decide +kernel
    have hexpiry : (nextWrite ((after (setRainDelay R 60) w).log.drop 5)).bind writtenExpiry =
        some (.int 4600) := by decide +kernel
    rw [hw₁] at hstart hclock hquiet
    obtain ⟨pt, hpt, hcarried⟩ := Option.bind_eq_some_iff.mp hexpiry
    obtain ⟨expiry, hwritten, hfresh⟩ :=
      hfresh w₁ pt (by decide) hread (by rw [hstart]; exact hpt)
    rw [hcarried] at hwritten
    cases hwritten
    rw [freshBase_of_quiet, hclock] at hfresh
    · exact absurd hfresh (by decide)
    · intro e he
      refine Option.isNone_iff_eq_none.mp (List.all_eq_true.mp hquiet e ?_)
      rcases List.mem_append.mp he with he | he
      · exact List.mem_append_left _ (List.mem_of_mem_drop he)
      · exact List.mem_append_right _ (List.mem_of_mem_drop ((List.takeWhile_sublist _).subset he))

end OrbitBhyve.Devices
