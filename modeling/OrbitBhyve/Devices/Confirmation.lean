import OrbitBhyve.Devices.RunTraffic
import OrbitBhyve.Devices.Silence

/-!
# What a confirmed valve command rests on

`start_watering` and `stop_watering` confirm by the flag `is_watering`, which
outlives the call before them. A flag which differs from the wanted one when
the first command goes out can only be turned by a frame heard after it; a flag
which agrees already confirms a silent device.
-/

namespace OrbitBhyve.Devices

open Foundation Python Wire

abbrev ProtobufLog := List (LogEntry ProtobufDevice)

/-- Some frame of the log reported the valve open, or closed. -/
def Reported (reported : Bool) (log : ProtobufLog) : Prop :=
  ∃ n met, LogEntry.heard n met ∈ log ∧ wateringReport n.pt = some reported

def LogEntry.isWriteOf {δ : Type} (msg : Bytes) : LogEntry δ → Bool
  | .wrote pt => pt == msg
  | .heard _ _ => false

def sinceWrite {δ : Type} (msg : Bytes) (log : List (LogEntry δ)) : List (LogEntry δ) :=
  (log.dropWhile fun e => !e.isWriteOf msg).tail

/-- The log grows, and the flag takes a value only from a report of it. -/
def FlagMoves (value : Bool) (w w' : World ProtobufDevice) : Prop :=
  ∃ new : ProtobufLog, w'.log = w.log ++ new ∧
    (w'.dev.state.isWatering = value → w.dev.state.isWatering = value ∨ Reported value new)

theorem Reported.mono {value : Bool} {log log' : ProtobufLog} (h : Reported value log)
    (hsub : ∀ e ∈ log, e ∈ log') : Reported value log' := by
  obtain ⟨n, met, hmem, hrep⟩ := h
  exact ⟨n, met, hsub _ hmem, hrep⟩

instance (value : Bool) : IsPreorder (World ProtobufDevice) (FlagMoves value) where
  refl w := ⟨[], by simp, Or.inl⟩
  trans := by
    rintro w₁ w₂ w₃ ⟨new, hlog, hflag⟩ ⟨new', hlog', hflag'⟩
    refine ⟨new ++ new', by rw [hlog', hlog, List.append_assoc], fun h => ?_⟩
    rcases hflag' h with h' | h'
    · rcases hflag h' with h'' | h''
      · exact .inl h''
      · exact .inr (h''.mono fun e => List.mem_append_left _)
    · exact .inr (h'.mono fun e => List.mem_append_right _)

theorem FlagMoves.of_same {value : Bool} {w w' : World ProtobufDevice} (hlog : w'.log = w.log)
    (hflag : w'.dev.state.isWatering = w.dev.state.isWatering) : FlagMoves value w w' :=
  ⟨[], by simp [hlog], fun h => .inl (hflag ▸ h)⟩

theorem flagMoves_hears (replies : ℕ → Reply) (utcOffset : UtcOffset) (value : Bool)
    (w : World ProtobufDevice) (n : Notice) :
    FlagMoves value w (w.hears (protobufRadio replies utcOffset) n) := by
  refine ⟨[.heard n w.dev], rfl, fun h => ?_⟩
  rw [dev_hears, isWatering_observe] at h
  cases hrep : wateringReport n.pt with
  | none => exact .inl (by simpa [hrep] using h)
  | some reported =>
    refine .inr ⟨n, w.dev, by simp, ?_⟩
    rw [hrep] at h
    rw [hrep]
    exact congrArg some h

theorem runTraffic_flagMoves (replies : ℕ → Reply) (utcOffset : UtcOffset) (value : Bool) :
    RunTraffic (protobufRadio replies utcOffset) ProtobufDevice.state (FlagMoves value) where
  hears _ n _ w := flagMoves_hears replies utcOffset value w n
  writes _ pt := ⟨[.wrote pt], rfl, Or.inl⟩
  quiet hlog hfields := .of_same hlog (congrArg RunFields.isWatering hfields)

section Commands

variable {replies : ℕ → Reply} {utcOffset : UtcOffset} {value : Bool} {station durationSec : ℤ}

theorem flagMoves_confirmStart : Moves (FlagMoves value) (confirmStart station durationSec) :=
  Moves.bind moves_getClock fun _ => Moves.bind (moves_modState fun _ => .of_same rfl rfl)
    fun _ => Moves.bind (.raising _) fun _ => moves_modState fun _ => .of_same rfl rfl

theorem flagMoves_confirmStop : Moves (FlagMoves value) confirmStop :=
  moves_modState fun _ => .of_same rfl rfl

theorem keeps_flag_confirmStart :
    Keeps (fun w : World ProtobufDevice => w.dev.state.isWatering)
      (confirmStart station durationSec) :=
  Moves.bind moves_getClock fun _ => Moves.bind (moves_modState fun _ => rfl) fun _ =>
    Moves.bind (.raising _) fun _ => moves_modState fun _ => rfl

theorem isWatering_of_startOutcome {R : Radio ProtobufDevice} {notifs : ℕ}
    {w w' : World ProtobufDevice}
    (h : startOutcome R station durationSec notifs w = .ok true w') :
    w'.dev.state.isWatering = true := by
  obtain ⟨-, w₁, -, h⟩ := run_bind_eq_ok.mp h
  obtain ⟨d, w₂, -, h⟩ := run_bind_eq_ok.mp h
  obtain ⟨-, w₃, -, h⟩ := run_bind_eq_ok.mp h
  obtain ⟨d', w₄, hd, h⟩ := run_bind_eq_ok.mp h
  obtain ⟨rfl, rfl⟩ := run_getDev_eq_ok hd
  split_ifs at h with hflag
  · obtain ⟨_, w₅, hconfirm, h⟩ := run_bind_eq_ok.mp h
    have hkeep := Moves.of_ok keeps_flag_confirmStart hconfirm
    cases h
    exact hkeep.trans hflag
  · cases h

theorem isWatering_of_startAttempts {R : Radio ProtobufDevice} {msg : Bytes} {left : ℕ}
    {w w' : World ProtobufDevice}
    (h : startAttempts R station durationSec msg left w = .ok true w') :
    w'.dev.state.isWatering = true := by
  induction left generalizing w with
  | zero => cases h
  | succ left ih =>
    obtain ⟨notifs, w₁, -, h⟩ := run_bind_eq_ok.mp h
    obtain ⟨confirmed, w₂, hout, h⟩ := run_bind_eq_ok.mp h
    cases confirmed with
    | true =>
      cases h
      exact isWatering_of_startOutcome hout
    | false =>
      obtain ⟨-, w₃, -, h⟩ := run_bind_eq_ok.mp h
      exact ih h

theorem isWatering_of_stopOutcome {R : Radio ProtobufDevice} {notifs : ℕ}
    {w w' : World ProtobufDevice} (h : stopOutcome R notifs w = .ok true w') :
    w'.dev.state.isWatering = false := by
  obtain ⟨-, w₁, -, h⟩ := run_bind_eq_ok.mp h
  obtain ⟨-, w₂, -, h⟩ := run_bind_eq_ok.mp h
  obtain ⟨-, w₃, -, h⟩ := run_bind_eq_ok.mp h
  obtain ⟨d, w₄, hd, h⟩ := run_bind_eq_ok.mp h
  obtain ⟨rfl, rfl⟩ := run_getDev_eq_ok hd
  split_ifs at h with hflag
  · cases h
  · cases h
    simpa [stoppedState] using hflag

theorem isWatering_of_stopAttempts {R : Radio ProtobufDevice} {msg : Bytes} {left : ℕ}
    {w w' : World ProtobufDevice} (h : stopAttempts R msg left w = .ok true w') :
    w'.dev.state.isWatering = false := by
  induction left generalizing w with
  | zero => cases h
  | succ left ih =>
    obtain ⟨notifs, w₁, -, h⟩ := run_bind_eq_ok.mp h
    obtain ⟨confirmed, w₂, hout, h⟩ := run_bind_eq_ok.mp h
    cases confirmed with
    | true =>
      cases h
      exact isWatering_of_stopOutcome hout
    | false =>
      obtain ⟨-, w₃, -, h⟩ := run_bind_eq_ok.mp h
      exact ih h

end Commands

/-! ## From the first write on -/

theorem sinceWrite_append {δ : Type} {msg : Bytes} {hs rest : List (LogEntry δ)}
    (h : ∀ e ∈ hs, ∃ n met, e = .heard n met) :
    sinceWrite msg (hs ++ .wrote msg :: rest) = rest := by
  have hskip : (hs ++ .wrote msg :: rest).dropWhile (fun e => !e.isWriteOf msg) =
      .wrote msg :: rest := by
    rw [List.dropWhile_append_of_pos]
    · simp [List.dropWhile, LogEntry.isWriteOf]
    · intro e he
      obtain ⟨n, met, rfl⟩ := h e he
      rfl
  rw [sinceWrite, hskip, List.tail_cons]

def atFirstWrite (opening : List Notice) (d : ProtobufDevice) : ProtobufDevice :=
  opening.foldl (fun d n => observe n.clock n.pt d) d

theorem dev_opened (replies : ℕ → Reply) (utcOffset : UtcOffset) (w : World ProtobufDevice) :
    (w.opened (protobufRadio replies utcOffset)).dev =
      atFirstWrite (replies w.tick).opening w.dev := by
  have hfold : ∀ (ns : List Notice) (w : World ProtobufDevice),
      (ns.foldl (World.hears (protobufRadio replies utcOffset)) w).dev =
        atFirstWrite ns w.dev := by
    intro ns
    induction ns with
    | nil => exact fun _ => rfl
    | cons n ns ih =>
      intro w
      rw [List.foldl_cons, ih, dev_hears]
      rfl
  exact hfold _ _

/-- A call which ends with the flag at a value it did not have at the first write
has heard a report of that value after it. -/
theorem reported_since_first_write {replies : ℕ → Reply} {utcOffset : UtcOffset} {value : Bool}
    {msg : Bytes} {rest : Reply → ProtobufTask Bool} {w w' : World ProtobufDevice} {result : Bool}
    (hrest : ∀ r, Moves (FlagMoves value) (rest r))
    (hrun : (do let r ← (protobufRadio replies utcOffset).exchange msg; rest r) w =
      .ok result w') (hflag : w'.dev.state.isWatering = value)
    (hfirst : (atFirstWrite (replies w.tick).opening w.dev).state.isWatering ≠ value) :
    ∃ hs new : ProtobufLog, w'.log = w.log ++ hs ++ .wrote msg :: new ∧
      (∀ e ∈ hs, ∃ n met, e = .heard n met) ∧ Reported value new := by
  set R := protobufRadio replies utcOffset
  obtain ⟨r, w₁, hex, hrun⟩ := run_bind_eq_ok.mp hrun
  obtain ⟨-, rfl, -⟩ := Radio.run_exchange_eq_ok hex
  obtain ⟨hs, hlog, hheard⟩ := Radio.log_written (R := R) w msg
  have hdrain : FlagMoves value (w.written R msg) (w.exchanged R msg) := by
    refine trans_of (FlagMoves value) ?_ (FlagMoves.of_same rfl rfl)
    have hburst : Moves (FlagMoves value) (R.hearAll (replies w.tick).frames) :=
      Radio.moves_hearAll fun n _ w => flagMoves_hears replies utcOffset value w n
    have hhear := hburst (w.written R msg)
    rwa [Radio.after_hearAll] at hhear
  obtain ⟨new, hnew, hturn⟩ := trans_of (FlagMoves value) hdrain ((hrest r).of_ok hrun)
  refine ⟨hs, new, ?_, fun e he => ?_, ?_⟩
  · rw [hnew, hlog]
    simp
  · obtain ⟨n, met, -, rfl⟩ := hheard e he
    exact ⟨n, met, rfl⟩
  · refine (hturn hflag).resolve_left fun h => hfirst ?_
    rw [← dev_opened replies utcOffset w]
    exact h

/-! ## The law of confirmation -/

/-- A start which returns `True` rests on a report of watering after its first write. -/
def StartHonest (replies : ℕ → Reply) (utcOffset : UtcOffset) (station durationSec : ℤ)
    (w : World ProtobufDevice) : Prop :=
  ∀ msg w', buildMessage (buildStartPb (station - 1) durationSec) = .ok msg →
    startWatering (protobufRadio replies utcOffset) station durationSec w = .ok true w' →
      Reported true (sinceWrite msg (w'.log.drop w.log.length))

/-- A stop which returns `True` rests on a report of not watering after its first write. -/
def StopHonest (replies : ℕ → Reply) (utcOffset : UtcOffset) (w : World ProtobufDevice) : Prop :=
  ∀ msg w', buildMessage STOP_PB = .ok msg →
    stopWatering (protobufRadio replies utcOffset) w = .ok true w' →
      Reported false (sinceWrite msg (w'.log.drop w.log.length))

/-- The start command can be framed, and its off time is some `datetime`. -/
def Startable (station durationSec : ℤ) : Prop :=
  ∃ msg t off, buildMessage (buildStartPb (station - 1) durationSec) = .ok msg ∧
    msg.length ≤ 255 ∧ DateTime.addSeconds t durationSec = .ok off

theorem send_bind {α : Type} (R : Radio ProtobufDevice) (msg : Bytes)
    (f : ℕ → ProtobufTask α) :
    (R.send msg >>= f) = (R.exchange msg >>= fun r => f r.drained) := by
  rw [Radio.send, bind_assoc]
  simp only [pure_bind]

theorem startAttempts_succ (R : Radio ProtobufDevice) (station durationSec : ℤ) (msg : Bytes)
    (left : ℕ) :
    startAttempts R station durationSec msg (left + 1) = (do
      let r ← R.exchange msg
      let confirmed ← startOutcome R station durationSec r.drained
      if confirmed then pure true
      else do
        onlyIf (decide (0 < left)) R.disconnect
        startAttempts R station durationSec msg left) := by
  rw [startAttempts, send_bind]

theorem stopAttempts_succ (R : Radio ProtobufDevice) (msg : Bytes) (left : ℕ) :
    stopAttempts R msg (left + 1) = (do
      let r ← R.exchange msg
      let confirmed ← stopOutcome R r.drained
      if confirmed then pure true
      else do
        onlyIf (decide (0 < left)) R.disconnect
        stopAttempts R msg left) := by
  rw [stopAttempts, send_bind]

theorem Reported.after_disconnect {replies : ℕ → Reply} {utcOffset : UtcOffset} {value : Bool}
    {msg : Bytes} {w w₁ w' : World ProtobufDevice} {hs new : ProtobufLog}
    (hlog : w₁.log = w.log ++ hs ++ .wrote msg :: new)
    (hhs : ∀ e ∈ hs, ∃ n met, e = .heard n met) (hnew : Reported value new)
    (hclose : (protobufRadio replies utcOffset).disconnect w₁ = .ok () w') :
    Reported value (sinceWrite msg (w'.log.drop w.log.length)) := by
  obtain ⟨tail, htail, -⟩ := (runTraffic_flagMoves replies utcOffset value).operates.suspend.of_ok hclose
  have hdrop : w'.log.drop w.log.length = hs ++ .wrote msg :: (new ++ tail) := by
    rw [htail, hlog]
    simp
  rw [hdrop, sinceWrite_append hhs]
  exact hnew.mono fun e => List.mem_append_left _

theorem startHonest_of_flag_down {replies : ℕ → Reply} {utcOffset : UtcOffset} {station durationSec : ℤ}
    {w : World ProtobufDevice}
    (hflag : (atFirstWrite (replies w.tick).opening w.dev).state.isWatering = false) :
    StartHonest replies utcOffset station durationSec w := by
  intro msg w' hmsg hrun
  rw [startWatering, run_bind_ok (run_getDev w)] at hrun
  split_ifs at hrun with hconn
  · obtain ⟨w₁, hbody, hclose⟩ := run_tryFinally_eq_ok.mp hrun
    rw [run_bind_ok (run_raising_ok hmsg w)] at hbody
    have hvalue := isWatering_of_startAttempts hbody
    rw [startAttempts_succ] at hbody
    have htraffic := runTraffic_flagMoves replies utcOffset true
    have hbooked : ∀ w : World ProtobufDevice, w.dev.state.isWatering = true →
        FlagMoves true w (after (confirmStart station durationSec) w) := fun w _ =>
      flagMoves_confirmStart w
    obtain ⟨hs, new, hlog, hhs, hnew⟩ := reported_since_first_write
      (fun r => Moves.bind (htraffic.moves_startOutcome hbooked r.drained) fun _ => .ite (.pure _)
        (Moves.bind (.onlyIf htraffic.operates.suspend)
          fun _ => htraffic.moves_startAttempts hbooked msg 1))
      hbody hvalue (by simp [hflag])
    exact Reported.after_disconnect hlog hhs hnew hclose
  · cases hrun

theorem stopHonest_of_flag_up {replies : ℕ → Reply} {utcOffset : UtcOffset} {w : World ProtobufDevice}
    (hflag : (atFirstWrite (replies w.tick).opening w.dev).state.isWatering = true) :
    StopHonest replies utcOffset w := by
  intro msg w' hmsg hrun
  rw [stopWatering, run_bind_ok (run_getDev w)] at hrun
  split_ifs at hrun with hconn
  · obtain ⟨w₁, hbody, hclose⟩ := run_tryFinally_eq_ok.mp hrun
    rw [run_bind_ok (run_raising_ok hmsg w)] at hbody
    have hvalue := isWatering_of_stopAttempts hbody
    rw [stopAttempts_succ] at hbody
    have htraffic := runTraffic_flagMoves replies utcOffset false
    have hcleared : ∀ w : World ProtobufDevice, w.dev.state.isWatering = false →
        FlagMoves false w (after confirmStop w) := fun w _ => flagMoves_confirmStop w
    obtain ⟨hs, new, hlog, hhs, hnew⟩ := reported_since_first_write
      (fun r => Moves.bind (htraffic.moves_stopOutcome hcleared r.drained) fun _ =>
        .ite (.pure _) (Moves.bind (.onlyIf htraffic.operates.suspend)
          fun _ => htraffic.moves_stopAttempts hcleared msg 1))
      hbody hvalue (by simp [hflag])
    exact Reported.after_disconnect hlog hhs hnew hclose
  · cases hrun

/-- A start which cannot be framed or booked is never confirmed. -/
theorem startable_of_confirmed {replies : ℕ → Reply} {utcOffset : UtcOffset} {station durationSec : ℤ}
    {msg : Bytes} {left : ℕ} {w w' : World ProtobufDevice}
    (hmsg : buildMessage (buildStartPb (station - 1) durationSec) = .ok msg)
    (hrun : startAttempts (protobufRadio replies utcOffset) station durationSec msg left w =
      .ok true w') : Startable station durationSec := by
  induction left generalizing w with
  | zero => cases hrun
  | succ left ih =>
    rw [startAttempts_succ] at hrun
    obtain ⟨r, w₁, hex, hrun⟩ := run_bind_eq_ok.mp hrun
    obtain ⟨-, -, hfits⟩ := Radio.run_exchange_eq_ok hex
    obtain ⟨confirmed, w₂, hout, hrun⟩ := run_bind_eq_ok.mp hrun
    cases confirmed with
    | false =>
      obtain ⟨_, w₃, -, hrun⟩ := run_bind_eq_ok.mp hrun
      exact ih hrun
    | true =>
      obtain ⟨_, w₃, -, hout⟩ := run_bind_eq_ok.mp hout
      obtain ⟨_, w₄, -, hout⟩ := run_bind_eq_ok.mp hout
      obtain ⟨_, w₅, -, hout⟩ := run_bind_eq_ok.mp hout
      obtain ⟨d, w₆, -, hout⟩ := run_bind_eq_ok.mp hout
      split_ifs at hout
      · obtain ⟨_, w₇, hconfirm, -⟩ := run_bind_eq_ok.mp hout
        obtain ⟨now, w₈, -, hconfirm⟩ := run_bind_eq_ok.mp hconfirm
        obtain ⟨_, w₉, -, hconfirm⟩ := run_bind_eq_ok.mp hconfirm
        obtain ⟨off, _, hoff, -⟩ := run_bind_eq_ok.mp hconfirm
        exact ⟨msg, now, off, hmsg, hfits, (run_raising_eq_ok.mp hoff).1⟩
      · cases hout

theorem startHonest_of_not_startable {replies : ℕ → Reply} {utcOffset : UtcOffset} {station durationSec : ℤ}
    {w : World ProtobufDevice} (h : ¬ Startable station durationSec) :
    StartHonest replies utcOffset station durationSec w := by
  intro msg w' hmsg hrun
  rw [startWatering, run_bind_ok (run_getDev w)] at hrun
  split_ifs at hrun with hconn
  · obtain ⟨w₁, hbody, -⟩ := run_tryFinally_eq_ok.mp hrun
    rw [run_bind_ok (run_raising_ok hmsg w)] at hbody
    exact absurd (startable_of_confirmed hmsg hbody) h
  · cases hrun

/-! ### A silent device -/

section Silence

variable {R : Radio ProtobufDevice} {t : DateTime} {k : ℕ} {w : World ProtobufDevice}

/-- A start whose flag is up already is confirmed on the spot. -/
theorem run_startOutcome_flag_up (station : ℤ) {durationSec : ℤ} {off : DateTime} (notifs : ℕ)
    (hflag : w.dev.state.isWatering = true) (hoff : w.clock.addSeconds durationSec = .ok off) :
    ∃ w', startOutcome R station durationSec notifs w = .ok true w' ∧ w'.tick = w.tick ∧
      w'.log = w.log := by
  rw [startOutcome, run_bind_ok (run_stampCommand _ notifs w)]
  set w₁ : World ProtobufDevice := { w with dev := { w.dev with state := _ } }
  have hflag₁ : w₁.dev.state.isWatering = true := hflag
  rw [run_bind_ok (run_getDev w₁), hflag₁, Bool.not_true, run_bind_ok (run_onlyIf_false _ _),
    run_bind_ok (run_getDev w₁), if_pos hflag₁, confirmStart]
  exact ⟨_, run_bind_ok (run_bind_ok (run_getClock w₁) |>.trans
    (run_bind_ok (run_modState _ _) |>.trans
      (run_bind_ok (run_raising_ok hoff _) |>.trans (run_modState _ _)))), rfl, rfl⟩

/-- A stop whose flag is down already is confirmed by a device which says nothing. -/
theorem run_stopOutcome_flag_down (hs : SilentFrom t k R.replies) (hk : k ≤ w.tick) (notifs : ℕ)
    (hflag : w.dev.state.isWatering = false) :
    ∃ w', stopOutcome R notifs w = .ok true w' ∧ k ≤ w'.tick ∧
      ∃ pts : List Bytes, w'.log = w.log ++ pts.map .wrote := by
  have hops := operates_unheard hs (fun d : ProtobufDevice => d.state.isWatering)
  rw [stopOutcome, run_bind_ok (run_stampCommand _ notifs w)]
  set w₁ : World ProtobufDevice := { w with dev := { w.dev with state := _ } }
  have hsleep : R.sleep w₁ = .ok () (w₁.opened R) := Radio.run_suspend w₁
  obtain ⟨hk₂, hq₂, pts₂, hlog₂⟩ := hops.suspend.of_ok hsleep hk
  obtain ⟨w₃, hrefresh⟩ := run_refreshStatus_silent hs hk₂
  have hmoves := (StatusTraffic.of_blocks hops fun _ _ _ _ _ => trivial).moves_refreshStatus
    (fun _ => Unheard.of_same rfl rfl rfl) false
  obtain ⟨hk₃, hq₃, pts₃, hlog₃⟩ := hmoves.of_ok hrefresh hk₂
  have hflag₃ : w₃.dev.state.isWatering = false := hq₃.trans (hq₂.trans hflag)
  rw [run_bind_ok hsleep, run_bind_ok hrefresh, run_bind_ok (run_getDev w₃),
    if_neg (by simp [hflag₃])]
  refine ⟨_, run_bind_ok (run_modState _ w₃), hk₃, pts₂ ++ pts₃, ?_⟩
  change w₃.log = _
  rw [hlog₃, hlog₂, List.map_append, List.append_assoc]

end Silence

theorem not_reported_of_writes {value : Bool} {msg : Bytes} {hs : ProtobufLog} {pts : List Bytes}
    (hhs : ∀ e ∈ hs, ∃ n met, e = .heard n met) :
    ¬ Reported value (sinceWrite msg (hs ++ .wrote msg :: pts.map .wrote)) := by
  rw [sinceWrite_append hhs]
  rintro ⟨n, met, hmem, -⟩
  obtain ⟨pt, -, hpt⟩ := List.mem_map.mp hmem
  cases hpt

theorem run_exchange_openingThenSilence (utcOffset : UtcOffset) (opening : List Notice) (t : DateTime)
    (w : World ProtobufDevice) {msg : Bytes} (hfits : msg.length ≤ 255) :
    ∃ (r : Reply) (w₁ : World ProtobufDevice) (hs : ProtobufLog),
      (protobufRadio (openingThenSilence opening t w.tick) utcOffset).exchange msg w = .ok r w₁ ∧
      w₁.dev = atFirstWrite opening w.dev ∧ w₁.clock = t ∧ w₁.tick = w.tick + 1 ∧
      w₁.log = w.log ++ hs ++ [.wrote msg] ∧ ∀ e ∈ hs, ∃ n met, e = .heard n met := by
  set R := protobufRadio (openingThenSilence opening t w.tick) utcOffset with hR
  have hreply : R.replies w.tick = { opening := opening, clock := t } :=
    openingThenSilence_self opening t w.tick
  have hrun : R.exchange msg w = .ok (R.replies w.tick) (w.exchanged R msg) := by
    rw [Radio.run_exchange, hreply]
    exact if_neg (by omega)
  obtain ⟨hs, hlog, hheard⟩ := Radio.log_written (R := R) w msg
  have hdev := dev_opened (openingThenSilence opening t w.tick) utcOffset w
  have htick : ∀ (ns : List Notice) (w : World ProtobufDevice),
      (ns.foldl (World.hears R) w).tick = w.tick := by
    intro ns
    induction ns with
    | nil => exact fun _ => rfl
    | cons n ns ih => exact fun w => ih _
  have hexchanged : w.exchanged R msg = { w.written R msg with
      clock := t, linkUp := true, monotonic := 0 } := by
    rw [World.exchanged, hreply]
    rfl
  refine ⟨_, _, hs, hrun, ?_, ?_, ?_, ?_, fun e he => ?_⟩
  · rw [hexchanged]
    exact hdev.trans (by rw [openingThenSilence_self])
  · rw [hexchanged]
  · rw [hexchanged]
    exact htick _ _
  · rw [hexchanged]
    exact hlog
  · obtain ⟨n, met, -, rfl⟩ := hheard e he
    exact ⟨n, met, rfl⟩

theorem run_disconnect_silent {R : Radio ProtobufDevice} {t : DateTime} {k : ℕ}
    {w : World ProtobufDevice} (hs : SilentFrom t k R.replies) (hk : k ≤ w.tick) :
    R.disconnect w = .ok () (w.opened R) ∧
      ∃ pts : List Bytes, (w.opened R).log = w.log ++ pts.map .wrote := by
  have hrun : R.disconnect w = .ok () (w.opened R) := Radio.run_suspend w
  obtain ⟨-, -, pts, hlog⟩ := (operates_unheard hs fun _ => ()).suspend.of_ok hrun hk
  exact ⟨hrun, pts, hlog⟩

/-- A start over a flag left up is confirmed by a device which says nothing. -/
theorem not_startHonest_of_silence {utcOffset : UtcOffset} {station durationSec : ℤ} {opening : List Notice}
    {t off : DateTime} {msg : Bytes} {w : World ProtobufDevice}
    (hconn : w.dev.hasConnection = true)
    (hflag : (atFirstWrite opening w.dev).state.isWatering = true)
    (hmsg : buildMessage (buildStartPb (station - 1) durationSec) = .ok msg)
    (hfits : msg.length ≤ 255) (hoff : t.addSeconds durationSec = .ok off) :
    ¬ StartHonest (openingThenSilence opening t w.tick) utcOffset station durationSec w := by
  intro hhonest
  obtain ⟨r, w₁, hs, hex, hdev, hclock, htick, hlog, hhs⟩ :=
    run_exchange_openingThenSilence utcOffset opening t w hfits
  set R := protobufRadio (openingThenSilence opening t w.tick) utcOffset
  have hsilent : SilentFrom t (w.tick + 1) R.replies := silentFrom_openingThenSilence opening t _
  obtain ⟨w₂, hout, htick₂, hlog₂⟩ := run_startOutcome_flag_up (R := R) station r.drained
    (hdev ▸ hflag) (hclock ▸ hoff)
  obtain ⟨hclose, pts, hlog₃⟩ := run_disconnect_silent hsilent (htick₂.trans htick).ge
  have hrun : startWatering R station durationSec w = .ok true (w₂.opened R) := by
    rw [startWatering, run_bind_ok (run_getDev w), if_pos hconn, run_tryFinally_eq_ok]
    refine ⟨w₂, ?_, hclose⟩
    rw [run_bind_ok (run_raising_ok hmsg w), startAttempts_succ, run_bind_ok hex, run_bind_ok hout]
    rfl
  have hnew : (w₂.opened R).log.drop w.log.length = hs ++ .wrote msg :: pts.map .wrote := by
    rw [hlog₃, hlog₂, hlog]
    simp
  have hrep := hhonest msg _ hmsg hrun
  rw [hnew] at hrep
  exact not_reported_of_writes hhs hrep

/-- A stop over a flag left down is confirmed by a device which says nothing. -/
theorem not_stopHonest_of_silence {utcOffset : UtcOffset} {opening : List Notice} {t : DateTime}
    {w : World ProtobufDevice} (hconn : w.dev.hasConnection = true)
    (hflag : (atFirstWrite opening w.dev).state.isWatering = false) :
    ¬ StopHonest (openingThenSilence opening t w.tick) utcOffset w := by
  intro hhonest
  obtain ⟨msg, hmsg, hfits⟩ : ∃ msg, buildMessage STOP_PB = .ok msg ∧ msg.length ≤ 255 :=
    ⟨_, rfl, by decide⟩
  obtain ⟨r, w₁, hs, hex, hdev, hclock, htick, hlog, hhs⟩ :=
    run_exchange_openingThenSilence utcOffset opening t w hfits
  set R := protobufRadio (openingThenSilence opening t w.tick) utcOffset
  have hsilent : SilentFrom t (w.tick + 1) R.replies := silentFrom_openingThenSilence opening t _
  obtain ⟨w₂, hout, hk₂, pts₂, hlog₂⟩ := run_stopOutcome_flag_down hsilent htick.ge r.drained
    (hdev ▸ hflag)
  obtain ⟨hclose, pts, hlog₃⟩ := run_disconnect_silent hsilent hk₂
  have hrun : stopWatering R w = .ok true (w₂.opened R) := by
    rw [stopWatering, run_bind_ok (run_getDev w), if_pos hconn, run_tryFinally_eq_ok]
    refine ⟨w₂, ?_, hclose⟩
    rw [run_bind_ok (run_raising_ok hmsg w), stopAttempts_succ, run_bind_ok hex, run_bind_ok hout]
    rfl
  have hnew : (w₂.opened R).log.drop w.log.length =
      hs ++ .wrote msg :: (pts₂ ++ pts).map .wrote := by
    rw [hlog₃, hlog₂, hlog]
    simp
  have hrep := hhonest msg _ hmsg hrun
  rw [hnew] at hrep
  exact not_reported_of_writes hhs hrep

/-- Whatever the device answers, a start is confirmed by a report of watering exactly
when the flag is down as its first write goes out (or it cannot be confirmed at all),
and a stop by a report of not watering exactly when the flag is up. -/
theorem confirmation_honest_iff (utcOffset : UtcOffset) (station durationSec : ℤ) (opening : List Notice)
    (w : World ProtobufDevice) :
    ((∀ replies : ℕ → Reply, (replies w.tick).opening = opening →
        StartHonest replies utcOffset station durationSec w) ↔
      w.dev.hasConnection = false ∨ ¬ Startable station durationSec ∨
        (atFirstWrite opening w.dev).state.isWatering = false) ∧
    ((∀ replies : ℕ → Reply, (replies w.tick).opening = opening →
        StopHonest replies utcOffset w) ↔
      w.dev.hasConnection = false ∨ (atFirstWrite opening w.dev).state.isWatering = true) := by
  constructor
  · constructor
    · intro hall
      by_contra hcond
      simp only [not_or, not_not, Bool.not_eq_false] at hcond
      obtain ⟨hconn, ⟨msg, t, off, hmsg, hfits, hoff⟩, hflag⟩ := hcond
      exact not_startHonest_of_silence hconn hflag hmsg hfits hoff
        (hall _ (by rw [openingThenSilence_self]))
    · rintro (hconn | hstart | hflag) replies hopening
      · intro msg w' hmsg hrun
        rw [startWatering, run_bind_ok (run_getDev w), if_neg (by simp [hconn])] at hrun
        cases hrun
      · exact startHonest_of_not_startable hstart
      · exact startHonest_of_flag_down (hopening ▸ hflag)
  · constructor
    · intro hall
      by_contra hcond
      simp only [not_or, Bool.not_eq_false, Bool.not_eq_true] at hcond
      exact not_stopHonest_of_silence (t := DateTime.epoch) hcond.1 hcond.2
        (hall _ (by rw [openingThenSilence_self]))
    · rintro (hconn | hflag) replies hopening
      · intro msg w' hmsg hrun
        rw [stopWatering, run_bind_ok (run_getDev w), if_neg (by simp [hconn])] at hrun
        cases hrun
      · exact stopHonest_of_flag_up (hopening ▸ hflag)

/-- `#16 {#1=4}`: the valve is open, and nothing says until when. -/
def runningReport : Body := ⟨[0x82, 0x01, 0x02, 0x08, 0x04], by decide⟩

def runningDevice : ProtobufDevice := observe DateTime.epoch runningReport.frame {}

/-- A device which has just reported an open valve, and then says nothing at all: the
start of station 1 is confirmed. At start-up a stop is confirmed the same way. -/
theorem confirmation_not_honest :
    ¬ StartHonest (openingThenSilence [] DateTime.epoch 0) .utc 1 600
        { dev := runningDevice, clock := DateTime.epoch } ∧
      ¬ StopHonest (openingThenSilence [] DateTime.epoch 0) .utc
        { dev := {}, clock := DateTime.epoch } := by
  have hflag : runningDevice.state.isWatering = true := by decide +kernel
  have hconn : runningDevice.hasConnection = true := by decide +kernel
  have hlen : (buildStartPb (1 - 1) 600).length ≤ 247 := by decide +kernel
  obtain ⟨msg, hmsg, hfits⟩ :
      ∃ msg, buildMessage (buildStartPb (1 - 1) 600) = .ok msg ∧ msg.length ≤ 255 := by
    refine ⟨_, Body.buildMessage_eq ⟨buildStartPb (1 - 1) 600, by omega⟩, ?_⟩
    rw [Body.length_frame]
    exact Nat.add_le_add_right hlen 8
  have hoff : DateTime.epoch.addSeconds 600 = .ok ⟨600000000, by decide, by decide⟩ := rfl
  have hstart : ∀ d : ProtobufDevice, d.hasConnection = true → d.state.isWatering = true →
      ¬ StartHonest (openingThenSilence [] DateTime.epoch 0) .utc 1 600
        { dev := d, clock := DateTime.epoch } := fun d hconn hflag =>
    not_startHonest_of_silence (w := { dev := d, clock := DateTime.epoch })
      hconn hflag hmsg hfits hoff
  have hstop : ¬ StopHonest (openingThenSilence [] DateTime.epoch 0) .utc
      { dev := {}, clock := DateTime.epoch } :=
    not_stopHonest_of_silence (w := { dev := {}, clock := DateTime.epoch }) rfl rfl
  exact ⟨hstart _ hconn hflag, hstop⟩

end OrbitBhyve.Devices
