import OrbitBhyve.Devices.Settings

/-!
# What a confirmed rain delay rests on

`set_rain_delay` and `clear_rain_delay` put the wanted delay into the state, read
the status back and confirm when the read-back has set the mark of a decoded
status and the state still shows what was wanted. The mark is set by every
frame which reports the valve. A frame which reports the valve and not the rain
delay confirms the value which was put there.
-/

namespace OrbitBhyve.Devices

open Foundation Python Wire

variable {replies : ℕ → Reply} {utcOffset : UtcOffset} {w w' w₁ w₂ w₃ : World ProtobufDevice}

/-! ## The stages -/

theorem rainDelayConfirmed_eq_ok {R : Radio ProtobufDevice} {wanted b : Bool} :
    rainDelayConfirmed R wanted w = .ok b w' ↔ refreshStatus R false w = .ok () w' ∧
      b = (w'.dev.parsed && w'.dev.state.delayed == wanted) := by
  rw [rainDelayConfirmed, run_bind_eq_ok]
  constructor
  · rintro ⟨u, w₁, hrefresh, hret⟩
    cases hret
    exact ⟨hrefresh, rfl⟩
  · rintro ⟨hrefresh, rfl⟩
    exact ⟨(), w', hrefresh, rfl⟩

/-- The command has been written, and the state shows the wanted delay. -/
structure Commanded (wanted : Bool) (w w' : World ProtobufDevice) : Prop where
  seeded : w'.dev.state.delayed = wanted
  connected : w'.dev.hasConnection = w.dev.hasConnection
  logged : ∃ msg hs rest, w'.log = w.log ++ hs ++ .wrote msg :: rest ∧
    ∀ e ∈ hs, ∃ n met, e = .heard n met

theorem logged_exchanged {δ : Type} (R : Radio δ) (w : World δ) (msg : Bytes) :
    ∃ hs rest, (w.exchanged R msg).log = w.log ++ hs ++ .wrote msg :: rest ∧
      ∀ e ∈ hs, ∃ n met, e = .heard n met := by
  obtain ⟨hs, hlog, hheard⟩ := Radio.log_written (R := R) w msg
  obtain ⟨rest, hrest, -⟩ := Radio.log_foldl_hears (R := R) (R.replies w.tick).frames
    (w.written R msg)
  refine ⟨hs, rest, ?_, fun e he => ?_⟩
  · rw [World.exchanged, World.settled, hrest, hlog]
    simp
  · obtain ⟨n, met, -, rfl⟩ := hheard e he
    exact ⟨n, met, rfl⟩

/-- A command which has been sent, and then only stamped and seeded. -/
theorem Commanded.of_send {pb : Bytes} {notifs : ℕ} {wanted : Bool}
    (hsend : sendMessage (protobufRadio replies utcOffset) pb w = .ok notifs w₁)
    (hlog : w'.log = w₁.log) (hconn : w'.dev.hasConnection = w₁.dev.hasConnection)
    (hseeded : w'.dev.state.delayed = wanted) : Commanded wanted w w' := by
  have hkept := (((register_connection replies utcOffset).moves_sendMessage pb).of_ok hsend).unsaid
  obtain ⟨msg, -, -, rfl⟩ := sendMessage_eq_ok hsend
  obtain ⟨hs, rest, hwritten, hhs⟩ := logged_exchanged (protobufRadio replies utcOffset) w msg
  exact ⟨hseeded, hconn.trans hkept, msg, hs, rest, hlog.trans hwritten, hhs⟩

theorem commanded_set {minutes : ℤ} (hpos : 0 < minutes)
    (h : commandRainDelay (protobufRadio replies utcOffset) minutes w = .ok () w') :
    Commanded true w w' := by
  rw [commandRainDelay, run_bind_ok (run_getDev w), run_bind_ok (run_getClock w)] at h
  obtain ⟨base, w₁, hbase, hcommand⟩ := run_bind_eq_ok.mp h
  obtain ⟨-, rfl⟩ := run_raising_eq_ok.mp hbase
  obtain ⟨notifs, w₂, hsend, hseed⟩ := run_bind_eq_ok.mp hcommand
  rw [seedRainDelay, run_bind_ok (run_stampCommand _ _ _), run_bind_ok (run_modState _ _)] at hseed
  obtain ⟨ends, w₃, hends, hend⟩ := run_bind_eq_ok.mp hseed
  obtain ⟨-, rfl⟩ := run_raising_eq_ok.mp hends
  cases hend
  refine .of_send hsend rfl rfl ?_
  have hne : minutes.toNat ≠ 0 := by omega
  simpa [DeviceState.delayed, PbVal.truthy] using hne

theorem commanded_clear (h : commandRainClear (protobufRadio replies utcOffset) w = .ok () w') :
    Commanded false w w' := by
  obtain ⟨notifs, w₁, hsend, hseed⟩ := run_bind_eq_ok.mp h
  rw [run_bind_ok (run_stampCommand _ _ _)] at hseed
  cases hseed
  exact .of_send hsend rfl rfl rfl

/-! ## The law of confirmation -/

/-- What the log holds since the next write shows the wanted rain delay. -/
def RainReported (wanted : Bool) (w w' : World ProtobufDevice) : Prop :=
  Says (decoded DeviceStatus.rainReport) wanted (sinceNextWrite (w'.log.drop w.log.length))

/-- A set which returns `True` rests on a status decoded after its write, which is the
first one after the read of the clock, with an active rain delay. -/
def RainSetHonest (replies : ℕ → Reply) (utcOffset : UtcOffset) (minutes : ℤ)
    (w : World ProtobufDevice) : Prop :=
  ∀ w₁ w', 0 < minutes → refreshStatus (protobufRadio replies utcOffset) false w = .ok () w₁ →
    setRainDelay (protobufRadio replies utcOffset) minutes w = .ok true w' →
      RainReported true w₁ w'

/-- A clear which returns `True` rests on a status decoded after its write without one. -/
def RainClearHonest (replies : ℕ → Reply) (utcOffset : UtcOffset) (w : World ProtobufDevice) :
    Prop :=
  ∀ w', clearRainDelay (protobufRadio replies utcOffset) w = .ok true w' → RainReported false w w'

/-- A read-back of the command between `w` and `w₁` in which some frame reports the valve
has an applied frame which reports the rain delay, unless what is wanted has been shown
elsewhere between the write and the return. -/
def ReadBackSpeaks (replies : ℕ → Reply) (utcOffset : UtcOffset) (wanted : Bool)
    (w w₁ : World ProtobufDevice) : Prop :=
  ∀ w₂, refreshStatus (protobufRadio replies utcOffset) false w₁ = .ok () w₂ →
    Speaks valveReport (w₂.log.drop w₁.log.length) →
      Speaks (applied DeviceStatus.rainReport .rainExpiry) (w₂.log.drop w₁.log.length) ∨
        RainReported wanted w (w₂.opened (protobufRadio replies utcOffset))

/-- Every command which comes through is read back in this way. -/
def RainSetSpeaks (replies : ℕ → Reply) (utcOffset : UtcOffset) (minutes : ℤ)
    (w : World ProtobufDevice) : Prop :=
  ∀ w₁ w₂, 0 < minutes → w.dev.hasConnection = true →
    refreshStatus (protobufRadio replies utcOffset) false w = .ok () w₁ →
      commandRainDelay (protobufRadio replies utcOffset) minutes w₁ = .ok () w₂ →
        ReadBackSpeaks replies utcOffset true w₁ w₂

def RainClearSpeaks (replies : ℕ → Reply) (utcOffset : UtcOffset) (w : World ProtobufDevice) :
    Prop :=
  ∀ w₁, w.dev.hasConnection = true →
    commandRainClear (protobufRadio replies utcOffset) w = .ok () w₁ →
      ReadBackSpeaks replies utcOffset false w w₁

theorem logged_readBack
    (hrefresh : refreshStatus (protobufRadio replies utcOffset) false w = .ok () w') :
    ∃ new tail, w'.log = w.log ++ new ∧
      (w'.opened (protobufRadio replies utcOffset)).log = w.log ++ new ++ tail := by
  have hrain := register_rain replies utcOffset
  obtain ⟨new, hlog, -⟩ := (hrain.moves_refreshStatus (fun _ _ => rfl) false).of_ok hrefresh
  have hclose := Radio.run_suspend (R := protobufRadio replies utcOffset) w'
  obtain ⟨tail, htail, -⟩ := hrain.operates.suspend.of_ok hclose
  exact ⟨new, tail, hlog, by rw [htail, hlog]⟩

/-- The read-back of a seeded state: what it confirms is shown exactly when it speaks. -/
theorem confirmed_iff_readBackSpeaks {wanted : Bool} (hcommand : Commanded wanted w w₁)
    (hconn : w.dev.hasConnection = true) :
    (∀ w₂, rainDelayConfirmed (protobufRadio replies utcOffset) wanted w₁ = .ok true w₂ →
      RainReported wanted w (w₂.opened (protobufRadio replies utcOffset))) ↔
      ReadBackSpeaks replies utcOffset wanted w w₁ := by
  obtain ⟨hseeded, hkept, msg, hs, rest, hwritten, hhs⟩ := hcommand
  refine forall_congr' fun w₂ => ?_
  rw [rainDelayConfirmed_eq_ok]
  by_cases hrefresh : refreshStatus (protobufRadio replies utcOffset) false w₁ = .ok () w₂
  · obtain ⟨new, tail, hlog, hclosed⟩ := logged_readBack hrefresh
    have hnew : w₂.log.drop w₁.log.length = new := by rw [hlog, List.drop_left]
    have hmark := parsed_of_refreshStatus replies utcOffset (hkept.trans hconn) hrefresh hlog
    have hfield := (((register_rain replies utcOffset).moves_refreshStatus (fun _ _ => rfl)
      false).of_ok hrefresh).value hlog
    have hsince : sinceNextWrite ((w₂.opened (protobufRadio replies utcOffset)).log.drop
        w.log.length) = rest ++ new ++ tail := by
      rw [hclosed, hwritten]
      simp only [List.append_assoc, List.cons_append, List.drop_left]
      exact sinceNextWrite_append hhs
    have hshown : Says (applied DeviceStatus.rainReport .rainExpiry) wanted new →
        RainReported wanted w (w₂.opened (protobufRadio replies utcOffset)) := by
      intro hshows
      rw [RainReported, hsince]
      refine (hshows.of_imp fun _ => decoded_of_applied).mono fun e he => ?_
      simp [he]
    have hiff := getD_lastSaid_imp_iff w₁.dev.state.delayed hshown
    rw [← hfield] at hiff
    rw [hnew]
    simp only [hrefresh, true_and, forall_const, hseeded] at hiff ⊢
    rw [← hiff, ← hmark]
    simp only [eq_comm (a := true), Bool.and_eq_true, beq_iff_eq, and_imp]
  · simp only [hrefresh, false_and, false_implies]

theorem setRainDelay_eq_ok {minutes : ℤ} (hpos : 0 < minutes) :
    setRainDelay (protobufRadio replies utcOffset) minutes w = .ok true w' ↔
      w.dev.hasConnection = true ∧ ∃ w₁ w₂ w₃,
        refreshStatus (protobufRadio replies utcOffset) false w = .ok () w₁ ∧
          commandRainDelay (protobufRadio replies utcOffset) minutes w₁ = .ok () w₂ ∧
            rainDelayConfirmed (protobufRadio replies utcOffset) true w₂ = .ok true w₃ ∧
              w' = w₃.opened (protobufRadio replies utcOffset) := by
  rw [setRainDelay, run_bind_ok (run_getDev w)]
  cases w.dev.hasConnection with
  | false => simp [run_pure]
  | true =>
    rw [if_pos rfl, run_tryFinally_eq_ok, if_neg (by omega)]
    simp only [run_bind_eq_ok, Radio.disconnect, Radio.run_suspend, true_and]
    constructor
    · rintro ⟨w₃, ⟨_, w₁, hread, _, w₂, hcommand, hconfirm⟩, hclose⟩
      cases hclose
      exact ⟨w₁, w₂, w₃, hread, hcommand, hconfirm, rfl⟩
    · rintro ⟨w₁, w₂, w₃, hread, hcommand, hconfirm, rfl⟩
      exact ⟨w₃, ⟨(), w₁, hread, (), w₂, hcommand, hconfirm⟩, rfl⟩

theorem connected_refreshStatus {syncClock : Bool}
    (h : refreshStatus (protobufRadio replies utcOffset) syncClock w = .ok () w') :
    w'.dev.hasConnection = w.dev.hasConnection :=
  (((register_connection replies utcOffset).moves_refreshStatus (fun _ _ => rfl)
    syncClock).of_ok h).unsaid

theorem clearRainDelay_eq_ok :
    clearRainDelay (protobufRadio replies utcOffset) w = .ok true w' ↔
      w.dev.hasConnection = true ∧ ∃ w₁ w₂,
        commandRainClear (protobufRadio replies utcOffset) w = .ok () w₁ ∧
          rainDelayConfirmed (protobufRadio replies utcOffset) false w₁ = .ok true w₂ ∧
            w' = w₂.opened (protobufRadio replies utcOffset) := by
  rw [clearRainDelay, run_bind_ok (run_getDev w)]
  cases hconn : w.dev.hasConnection with
  | false => simp [run_pure]
  | true =>
    have hclose : ∀ w₁ w₂, commandRainClear (protobufRadio replies utcOffset) w = .ok () w₁ →
        rainDelayConfirmed (protobufRadio replies utcOffset) false w₁ = .ok true w₂ →
        (do
          let d ← getDev
          onlyIf d.hasConnection (protobufRadio replies utcOffset).disconnect : ProtobufTask Unit) w₂ =
          .ok () (w₂.opened (protobufRadio replies utcOffset)) := by
      intro w₁ w₂ hcommand hconfirm
      have hkept := connected_refreshStatus (rainDelayConfirmed_eq_ok.mp hconfirm).1
      rw [run_bind_ok (run_getDev w₂), hkept, (commanded_clear hcommand).connected, hconn,
        run_onlyIf_true, Radio.disconnect, Radio.run_suspend]
    rw [if_pos rfl, clearRainDelayUnlocked, run_tryFinally_eq_ok]
    simp only [run_bind_eq_ok (x := commandRainClear _), true_and]
    constructor
    · rintro ⟨w₂, ⟨_, w₁, hcommand, hconfirm⟩, hend⟩
      rw [hclose w₁ w₂ hcommand hconfirm] at hend
      cases hend
      exact ⟨w₁, w₂, hcommand, hconfirm, rfl⟩
    · rintro ⟨w₁, w₂, hcommand, hconfirm, rfl⟩
      exact ⟨w₂, ⟨(), w₁, hcommand, hconfirm⟩, hclose w₁ w₂ hcommand hconfirm⟩

theorem rainSetHonest_iff_speaks (replies : ℕ → Reply) (utcOffset : UtcOffset) (minutes : ℤ)
    (w : World ProtobufDevice) :
    RainSetHonest replies utcOffset minutes w ↔ RainSetSpeaks replies utcOffset minutes w := by
  constructor
  · intro hhonest w₁ w₂ hpos hconn hread hcommand
    have hseeded := commanded_set hpos hcommand
    refine (confirmed_iff_readBackSpeaks hseeded ((connected_refreshStatus hread).trans hconn)).mp
      fun w₃ hconfirm => hhonest w₁ _ hpos hread ?_
    exact (setRainDelay_eq_ok hpos).mpr ⟨hconn, w₁, w₂, w₃, hread, hcommand, hconfirm, rfl⟩
  · intro hspeaks w₁ w' hpos hread hset
    obtain ⟨hconn, w₁', w₂, w₃, hread', hcommand, hconfirm, rfl⟩ := (setRainDelay_eq_ok hpos).mp hset
    rw [hread] at hread'
    cases hread'
    exact (confirmed_iff_readBackSpeaks (commanded_set hpos hcommand)
      ((connected_refreshStatus hread).trans hconn)).mpr
        (hspeaks w₁ w₂ hpos hconn hread hcommand) w₃ hconfirm

theorem rainClearHonest_iff_speaks (replies : ℕ → Reply) (utcOffset : UtcOffset)
    (w : World ProtobufDevice) :
    RainClearHonest replies utcOffset w ↔ RainClearSpeaks replies utcOffset w := by
  constructor
  · intro hhonest w₁ hconn hcommand
    refine (confirmed_iff_readBackSpeaks (commanded_clear hcommand) hconn).mp fun w₂ hconfirm =>
      hhonest _ ?_
    exact clearRainDelay_eq_ok.mpr ⟨hconn, w₁, w₂, hcommand, hconfirm, rfl⟩
  · intro hspeaks w' hclear
    obtain ⟨hconn, w₁, w₂, hcommand, hconfirm, rfl⟩ := clearRainDelay_eq_ok.mp hclear
    exact (confirmed_iff_readBackSpeaks (commanded_clear hcommand) hconn).mpr
      (hspeaks w₁ hconn hcommand) w₂ hconfirm

/-- No rain-delay command is falsely confirmed exactly when every read-back which hears of
the valve hears of the rain delay as well. -/
theorem rainDelay_honest_iff (replies : ℕ → Reply) (utcOffset : UtcOffset)
    (w : World ProtobufDevice) :
    (∀ minutes, RainSetHonest replies utcOffset minutes w ↔
      RainSetSpeaks replies utcOffset minutes w) ∧
    (RainClearHonest replies utcOffset w ↔ RainClearSpeaks replies utcOffset w) :=
  ⟨fun minutes => rainSetHonest_iff_speaks replies utcOffset minutes w,
    rainClearHonest_iff_speaks replies utcOffset w⟩

/-- A device which answers everything with the same frame. -/
def echoing (pt : Bytes) (_ : ℕ) : Reply :=
  { frames := [⟨pt, DateTime.epoch⟩], clock := DateTime.epoch }

/-- A `#30` "complete", the device's answer to a stop. -/
def completeAck : Bytes := Body.frame ⟨pbFieldBytes 30 (pbFieldVarint 1 1), by decide⟩

/-- Acknowledgements alone confirm a rain delay of an hour. -/
theorem ack_confirms_rainDelay :
    ¬ RainSetHonest (echoing completeAck) .utc 60 { dev := {}, clock := .epoch } := by
  intro hhonest
  set R := protobufRadio (echoing completeAck) .utc
  set w : World ProtobufDevice := { dev := {}, clock := .epoch }
  have hconfirms : (result (setRainDelay R 60) w).toOption = some true := by decide +kernel
  have hsilent : (after (setRainDelay R 60) w).log.all
      fun e => (decoded DeviceStatus.rainReport e).isNone := by decide +kernel
  cases hset : setRainDelay R 60 w with
  | error e w' =>
    rw [result, hset] at hconfirms
    cases hconfirms
  | ok b w' =>
    rw [result, hset] at hconfirms
    cases hconfirms
    rw [after_of_ok hset] at hsilent
    obtain ⟨-, w₁, w₂, w₃, hread, -⟩ := (setRainDelay_eq_ok (by decide)).mp hset
    obtain ⟨e, he, hshows⟩ := hhonest w₁ w' (by decide) hread hset
    have hmem : e ∈ w'.log :=
      List.mem_of_mem_drop ((List.dropWhile_sublist _).subset (List.mem_of_mem_tail he))
    have hnone := List.all_eq_true.mp hsilent e hmem
    rw [hshows] at hnone
    cases hnone

end OrbitBhyve.Devices
