import OrbitBhyve.Devices.Silence

/-!
# The device's rain delay under a status read

Only a `#17` write changes the device's rain delay. `_recover_status` writes
what HA believes back to a device which does not answer, so the read is
harmless exactly when HA's belief is the device's delay.
-/

namespace OrbitBhyve.Devices

open Foundation Python Wire

abbrev RainDelay := Option (ℕ × ℕ)

namespace RainDelay

/-- A `#17` block: zero minutes clear the delay, more set it. -/
def afterBlock (delay : RainDelay) (block : Bytes) : RainDelay :=
  let fields := pbParse block
  match pbField fields 1 with
  | some (.int 0) => none
  | some (.int minutes) =>
    match pbField fields 3 with
    | some (.int expiry) => some (minutes, expiry)
    | _ => some (minutes, 0)
  | _ => delay

def afterWrite (delay : RainDelay) (pt : Bytes) : RainDelay :=
  match writtenField 17 pt with
  | some block => delay.afterBlock block
  | none => delay

def afterEntry {δ : Type} (delay : RainDelay) : LogEntry δ → RainDelay
  | .wrote pt => delay.afterWrite pt
  | .heard _ _ => delay

def afterLog {δ : Type} (delay : RainDelay) (log : List (LogEntry δ)) : RainDelay :=
  log.foldl afterEntry delay

theorem afterWrite_of_ne {f : ℕ} (hf : f ≠ 17) {block msg : Bytes}
    (h : buildMessage (pbFieldBytes f block) = .ok msg) (delay : RainDelay) :
    delay.afterWrite msg = delay := by
  rw [afterWrite, writtenField_of_buildMessage h, if_neg hf.symm]

theorem afterLog_append {δ : Type} (delay : RainDelay) (log log' : List (LogEntry δ)) :
    delay.afterLog (log ++ log') = (delay.afterLog log).afterLog log' :=
  List.foldl_append

end RainDelay

/-- What HA's belief amounts to: minutes without an expiry are no delay. -/
def believedDelay (r : Option PbVal × Option DateTime) : RainDelay :=
  match orZero r.1, r.2 with
  | .int minutes, some ends =>
    if 0 < minutes then some (minutes, wireInt ends.intTimestamp) else none
  | _, _ => none

/-- The elicitor can be built and framed. -/
def NoopSendable (d : ProtobufDevice) : Prop :=
  ∃ pb msg, noopRainDelayPb d.state = .ok pb ∧ buildMessage pb = .ok msg ∧ msg.length ≤ 255

def Harmless (delay : RainDelay) (d : ProtobufDevice) : Prop :=
  believedDelay d.rain = delay ∨ ¬ NoopSendable d

/-- A frame without a word on the valve has none on the rain delay, or the true one. -/
def Truthful (delay : RainDelay) (pt : Bytes) : Prop :=
  ∀ st, frameStatus pt = some st → st.isWatering = none →
    ∀ r, rainAfter st r = r ∨ believedDelay (rainAfter st r) = delay

/-! ## The elicitor -/

theorem pbParse_rainDelayBody_none (minutes : ℤ) :
    pbParse (rainDelayBody minutes none) = some [.varint 1 (wireInt minutes)] := by
  rw [rainDelayBody, pbFieldVarint_eq_wireInt, pbParse_pbFieldVarint]

theorem pbParse_rainDelayBody_some {minutes : ℤ} (h : 0 < minutes) (expiry : ℤ) :
    pbParse (rainDelayBody minutes (some expiry)) =
      some [.varint 1 (wireInt minutes), .varint 3 (wireInt expiry), .varint 4 1] := by
  have hparse := pbParse_flatMap_encodeField
    [.varint 1 (wireInt minutes), .varint 3 (wireInt expiry), .varint 4 1] (by simp)
  simp only [rainDelayBody, if_pos h]
  rw [pbFieldVarint_eq_wireInt 1, pbFieldVarint_eq_wireInt 3, ← hparse]
  simp

theorem noopRainDelayPb_congr {d d' : ProtobufDevice} (h : d'.rain = d.rain) :
    noopRainDelayPb d'.state = noopRainDelayPb d.state := by
  have hminutes : d'.state.rainDelayMinutes = d.state.rainDelayMinutes := congrArg Prod.fst h
  have hends : d'.state.rainDelayEnds = d.state.rainDelayEnds := congrArg Prod.snd h
  rw [noopRainDelayPb, noopRainDelayPb, hminutes, hends]

theorem Harmless.congr {delay : RainDelay} {d d' : ProtobufDevice} (h : Harmless delay d)
    (hrain : d'.rain = d.rain) : Harmless delay d' := by
  rw [Harmless, NoopSendable, hrain, noopRainDelayPb_congr hrain]
  exact h

/-- The elicitor sets the device's delay to what HA believes, whatever it was. -/
theorem afterWrite_noop {d : ProtobufDevice} {pb msg : Bytes}
    (hnoop : noopRainDelayPb d.state = .ok pb) (hmsg : buildMessage pb = .ok msg)
    (delay : RainDelay) : delay.afterWrite msg = believedDelay d.rain := by
  have hclear : buildMessage (buildRainDelayPb 0 none) = .ok msg →
      delay.afterWrite msg = none := by
    intro h
    rw [RainDelay.afterWrite, writtenField_of_buildMessage h, if_pos rfl]
    dsimp only
    rw [RainDelay.afterBlock, pbParse_rainDelayBody_none]
    rfl
  unfold noopRainDelayPb at hnoop
  unfold believedDelay ProtobufDevice.rain
  dsimp only
  split at hnoop
  · cases hnoop
  · next mins hmins =>
    rw [hmins]
    split at hnoop
    · next ends hends =>
      rw [hends]
      dsimp only
      split_ifs at hnoop ⊢ with hpos
      · cases hnoop
        rw [RainDelay.afterWrite, writtenField_of_buildMessage hmsg, if_pos rfl]
        dsimp only
        rw [RainDelay.afterBlock, pbParse_rainDelayBody_some (by exact_mod_cast hpos)]
        simp only [pbField_cons, Field.varint_num, Field.varint_val, wireInt_natCast, if_true,
          Nat.reduceEqDiff, if_false]
        cases mins with
        | zero => omega
        | succ m => rfl
      · cases hnoop
        exact hclear hmsg
    · next hends =>
      cases hnoop
      rw [hends, hclear hmsg]

theorem Harmless.sends {delay : RainDelay} {d : ProtobufDevice} (h : Harmless delay d)
    {pb : Bytes} (hnoop : noopRainDelayPb d.state = .ok pb) :
    Sends (fun pt => pt.length ≤ 255 → delay.afterWrite pt = delay) pb := by
  intro msg hmsg hfits
  rcases h with hbelief | hno
  · rw [afterWrite_noop hnoop hmsg, hbelief]
  · exact absurd ⟨pb, msg, hnoop, hmsg, hfits⟩ hno

/-! ## A truthful device under a true belief -/

/-- No harm can come of the read: a status has been decoded, or the elicitor is harmless. -/
def Settled (delay : RainDelay) (d : ProtobufDevice) : Prop :=
  d.statusParsed = some true ∨ d.statusParsed = some false ∧ Harmless delay d

/-- A settled read stays settled and leaves the device's delay alone. -/
def Steady (delay : RainDelay) (w w' : World ProtobufDevice) : Prop :=
  Settled delay w.dev → Settled delay w'.dev ∧
    ∃ new, w'.log = w.log ++ new ∧ delay.afterLog new = delay

instance (delay : RainDelay) : IsPreorder (World ProtobufDevice) (Steady delay) where
  refl w h := ⟨h, [], by simp, rfl⟩
  trans := by
    intro w₁ w₂ w₃ h h' hsettled
    obtain ⟨hsettled₂, new, hlog, hnew⟩ := h hsettled
    obtain ⟨hsettled₃, new', hlog', hnew'⟩ := h' hsettled₂
    exact ⟨hsettled₃, new ++ new', by rw [hlog', hlog, List.append_assoc],
      by rw [RainDelay.afterLog_append, hnew, hnew']⟩

theorem Steady.of_same {delay : RainDelay} {w w' : World ProtobufDevice} (hdev : w'.dev = w.dev)
    (hlog : w'.log = w.log) : Steady delay w w' :=
  fun h => ⟨hdev ▸ h, [], by simp [hlog], rfl⟩

theorem Settled.observe {delay : RainDelay} {d : ProtobufDevice} (h : Settled delay d) {pt : Bytes}
    (hpt : Truthful delay pt) (now : DateTime) : Settled delay (observe now pt d) := by
  have hvalve := valve_observe now pt d
  cases hst : frameStatus pt with
  | none =>
    have hsame : SameButReadings d (Devices.observe now pt d) := observe_of_no_frameStatus hst now d
    have hparsed : (Devices.observe now pt d).statusParsed = d.statusParsed :=
      congrArg ValveView.statusParsed hsame.valve
    rw [Settled, hparsed]
    exact h.imp id fun h => ⟨h.1, h.2.congr hsame.rain⟩
  | some st =>
    rw [hst] at hvalve
    dsimp only at hvalve
    cases hwat : st.isWatering with
    | some reported =>
      have hmark : d.statusParsed.map (fun _ => true) = some true := by
        rcases h with h | h
        · rw [h]
          rfl
        · rw [h.1]
          rfl
      left
      rw [valveAfter, hwat] at hvalve
      cases reported <;> exact (congrArg ValveView.statusParsed hvalve).trans hmark
    | none =>
      rw [valveAfter, hwat] at hvalve
      have hparsed : (Devices.observe now pt d).statusParsed = d.statusParsed :=
        congrArg ValveView.statusParsed hvalve
      have hrain := rain_observe hst hwat now d
      rw [Settled, hparsed]
      refine h.imp id fun h => ⟨h.1, ?_⟩
      rcases hpt st hst hwat d.rain with hsame | htrue
      · exact h.2.congr (hrain.trans hsame)
      · exact .inl (by rw [hrain, htrue])

section Steady

variable {replies : ℕ → Reply} {utcOffset : UtcOffset} {delay : RainDelay}
  (htrue : ∀ k, ∀ n ∈ (replies k).notices, Truthful delay n.pt)
include htrue

theorem operates_steady : (protobufRadio replies utcOffset).Operates
    (fun pt => pt.length ≤ 255 → delay.afterWrite pt = delay) (Steady delay) :=
  Radio.Operates.of_steps
    (fun k n hn w hsettled => ⟨by rw [dev_hears]; exact hsettled.observe (htrue k n hn) _,
      [.heard n w.dev], rfl, rfl⟩)
    (fun _ _ _ _ => .of_same rfl rfl) (fun _ => .of_same rfl rfl)
    fun _ pt hpt hfits hsettled => ⟨hsettled, [.wrote pt], rfl, hpt hfits⟩

theorem steady_elicitByNoop :
    Moves (Steady delay) (elicitByNoop (protobufRadio replies utcOffset)) := by
  intro w hsettled
  rw [elicitByNoop, after_bind_ok (run_getDev w)]
  by_cases hparsed : w.dev.parsed = true
  · rw [if_pos hparsed]
    exact refl_of (Steady delay) w hsettled
  · rw [if_neg hparsed]
    have hharmless : Harmless delay w.dev := by
      rcases hsettled with h | h
      · exact absurd (by rw [ProtobufDevice.parsed, h]; rfl) hparsed
      · exact h.2
    exact Moves.bind_raising (fun pb hpb => Moves.bind
      (moves_sendMessage_ (operates_steady htrue) (hharmless.sends hpb)) fun _ =>
        Moves.bind moves_getDev fun _ => .pure _) w hsettled

theorem steady_requestStatus (syncClock : Bool) :
    Moves (Steady delay) (requestStatus (protobufRadio replies utcOffset) syncClock) := by
  have htraffic : StatusTraffic (protobufRadio replies utcOffset)
      (fun pt => pt.length ≤ 255 → delay.afterWrite pt = delay) (Steady delay) := {
    operates := operates_steady htrue
    sends := fun f hf block msg hmsg _ =>
      RainDelay.afterWrite_of_ne (by rintro rfl; simp at hf) hmsg delay
    elicits := steady_elicitByNoop htrue }
  exact htraffic.moves_requestStatus syncClock

end Steady

def RefreshKeepsDelay (replies : ℕ → Reply) (utcOffset : UtcOffset) (syncClock : Bool)
    (delay : RainDelay) (w : World ProtobufDevice) : Prop :=
  delay.afterLog ((after (refreshStatus (protobufRadio replies utcOffset) syncClock) w).log.drop
    w.log.length) = delay

theorem refreshKeepsDelay_of_harmless {replies : ℕ → Reply} {utcOffset : UtcOffset}
    {syncClock : Bool} {delay : RainDelay} {w : World ProtobufDevice}
    (htrue : ∀ k, ∀ n ∈ (replies k).notices, Truthful delay n.pt)
    (hharmless : Harmless delay w.dev) :
    RefreshKeepsDelay replies utcOffset syncClock delay w := by
  rw [RefreshKeepsDelay, refreshStatus, after_bind_ok (run_getDev w)]
  cases w.dev.hasConnection with
  | false => simp [onlyIf, RainDelay.afterLog]
  | true =>
    rw [onlyIf, if_pos rfl, elicitStatus, after_bind_ok (run_modDev _ w)]
    have hsteady : Moves (Steady delay)
        (requestStatus (protobufRadio replies utcOffset) syncClock) :=
      steady_requestStatus htrue syncClock
    obtain ⟨-, new, hlog, hnew⟩ := hsteady
      { w with dev := { w.dev with statusParsed := some false } }
      (.inr ⟨rfl, hharmless.congr rfl⟩)
    rw [hlog, List.drop_left, hnew]

/-- A silent device is left with the delay HA believes in. -/
theorem delay_after_silence {replies : ℕ → Reply} {utcOffset : UtcOffset} {t : DateTime}
    {w : World ProtobufDevice} (hs : SilentFrom t w.tick replies)
    (hconn : w.dev.hasConnection = true) (hsend : NoopSendable w.dev) (syncClock : Bool)
    (delay : RainDelay) :
    delay.afterLog ((after (refreshStatus (protobufRadio replies utcOffset) syncClock) w).log.drop
      w.log.length) = believedDelay w.dev.rain := by
  obtain ⟨pb, msg, hnoop, hmsg, hfits⟩ := hsend
  have hsilent : SilentFrom t w.tick (protobufRadio replies utcOffset).replies := hs
  obtain ⟨pts, hlog⟩ := log_requestStatus_silent
    (w := { w with dev := { w.dev with statusParsed := some false } }) hsilent le_rfl rfl hnoop hmsg
    hfits syncClock
  rw [refreshStatus, after_bind_ok (run_getDev w), hconn, onlyIf, if_pos rfl, elicitStatus,
    after_bind_ok (run_modDev _ w), hlog, List.append_assoc, List.drop_left,
    RainDelay.afterLog_append]
  exact afterWrite_noop hnoop hmsg _

/-- A status read leaves the device's rain delay as it was, whatever a truthful device
answers, exactly when HA's belief about the delay is right (or cannot be written back). -/
theorem refresh_keeps_delay_iff (utcOffset : UtcOffset) (syncClock : Bool) (delay : RainDelay)
    (w : World ProtobufDevice) :
    (∀ replies : ℕ → Reply, (∀ k, ∀ n ∈ (replies k).notices, Truthful delay n.pt) →
        RefreshKeepsDelay replies utcOffset syncClock delay w) ↔
      w.dev.hasConnection = false ∨ believedDelay w.dev.rain = delay ∨ ¬ NoopSendable w.dev := by
  constructor
  · intro hall
    by_contra hcond
    simp only [not_or, not_not, Bool.not_eq_false] at hcond
    obtain ⟨hconn, hbelief, hsend⟩ := hcond
    have hkeep := hall (fun _ => { clock := DateTime.epoch }) (by simp [Reply.notices])
    rw [RefreshKeepsDelay, delay_after_silence (t := DateTime.epoch) (fun _ _ => rfl) hconn hsend]
      at hkeep
    exact hbelief hkeep
  · rintro (hconn | hharmless) replies htrue
    · rw [RefreshKeepsDelay, refreshStatus, after_bind_ok (run_getDev w), hconn]
      simp [onlyIf, RainDelay.afterLog]
    · exact refreshKeepsDelay_of_harmless htrue hharmless

/-- At start-up HA knows of no delay; a day of delay set from the vendor's app is wiped by
one poll of a device which stays silent. -/
theorem refresh_wipes_delay :
    ¬ RefreshKeepsDelay (fun _ => { clock := DateTime.epoch }) .utc true (some (1440, 1700000000))
      { dev := {}, clock := DateTime.epoch } := by
  have hsend : NoopSendable {} :=
    ⟨buildRainDelayPb 0 none, Body.frame ⟨buildRainDelayPb 0 none, by decide⟩, rfl,
      Body.buildMessage_eq ⟨buildRainDelayPb 0 none, by decide⟩, by decide⟩
  rw [RefreshKeepsDelay, delay_after_silence (t := DateTime.epoch) (fun _ _ => rfl) rfl hsend]
  decide

end OrbitBhyve.Devices
