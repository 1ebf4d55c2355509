import OrbitBhyve.Connection.Tasks
import OrbitBhyve.Devices.Ht25

/-!
# Measured runs of an HT25

A START of a device with flow measurement holds its session open and leaves a
renewal task behind, which re-subscribes until the run is over. `_api_lock` is
with one method or one renewal at a time, but a task lives on while nobody has
the lock: the next START finds it, overwrites its handle, and takes the one hold
of the connection anew, which the old task gives back when it ends.

How a `send` ends is up to the environment, as is what else happens to the
connection; a `disconnect` ends no task.
-/

namespace OrbitBhyve.Devices

open Foundation Python Wire Connection

def GEN1_RENEW_SEC : ℤ := 240

inductive RenewalStage where
  /-- Not yet run; a coroutine which is cancelled here never reaches its `finally`. -/
  | created
  | sleeping
  /-- In the wait for `_api_lock`. -/
  | acquiring
  /-- In the `send` of the subscription, with `_api_lock`. -/
  | sending
  deriving DecidableEq

/-- A `_gen1_renewal_loop` which has not ended, named by the run it was created for. -/
structure Renewal where
  run : ℕ
  durationSec : ℤ
  waited : ℤ := 0
  stage : RenewalStage := .created
  /-- `cancel()` was called, and the task has not yet been resumed. -/
  cancelled : Bool := false
  deriving DecidableEq

/-- Where the method which has `_api_lock` is suspended. -/
inductive Method where
  /-- `start_watering`, in its `_send_command`. -/
  | starting (durationSec : ℤ)
  /-- `_begin_gen1_flow`, in its `send`. -/
  | subscribing (durationSec : ℤ)
  /-- `stop_watering`, in its `_send_command`. -/
  | stopping
  /-- `_connect_refresh`, in its fresh connect. -/
  | refreshing
  /-- In the `disconnect()` of a `finally`. -/
  | closing

inductive ApiHolder where
  | method (m : Method)
  | renewal (run : ℕ)

inductive SendEnd where
  | sent
  /-- `BleakError`, `TimeoutError` or `OSError`. -/
  | failed
  /-- Any other exception. -/
  | raised

inductive Wake where
  /-- Its first step, or the end of its sleep. -/
  | slept
  | locked
  /-- The wait for the lock has run into its limit. -/
  | busy
  | sent (e : SendEnd)

/-- A device with flow measurement on, its connection, and its tasks. -/
structure Measuring where
  link : Link
  isWatering : Bool := false
  apiLock : Option ApiHolder := none
  /-- Measured runs begun; the hold, if there is one, was last taken for the latest. -/
  runs : ℕ := 0
  /-- `_flow_sub_task`. -/
  flowSubTask : Option ℕ := none
  /-- The renewal tasks which are alive. -/
  renewals : List Renewal := []

inductive FlowEvent where
  /-- A step of the connection's own tasks and timers. -/
  | link (e : Link.Event)
  /-- An ack, a status or the coordinator sets `is_watering`. -/
  | watering (b : Bool)
  /-- `start_watering` is given `_api_lock`. -/
  | start (durationSec : ℤ)
  /-- Its START has been sent, or has raised. -/
  | started (ok : Bool)
  | subscribed (e : SendEnd)
  | stop
  | stopped (ok : Bool)
  | refresh
  | refreshed
  /-- The `disconnect()` of a `finally` has returned. -/
  | closed
  /-- The device's run-end frame; also the switch turning measurement off. -/
  | runEnd
  | autoClose
  | unload
  | renewal (run : ℕ) (w : Wake)

namespace Measuring

variable (S : Setting)

/-- `disconnect()`, up to its first `await`. -/
def disconnect (s : Measuring) : Measuring := { s with link := s.link.step S .disconnect }

def release (s : Measuring) : Measuring := { s with link := s.link.release S }

def withLock (s : Measuring) (holder : Option ApiHolder) : Measuring :=
  { s with apiLock := holder }

/-- `task.cancel()`, on the task if it is not done. -/
def cancel (task : Option ℕ) (s : Measuring) : Measuring :=
  { s with renewals := s.renewals.map fun t =>
      if task = some t.run then { t with cancelled := true } else t }

def endGen1Flow (s : Measuring) : Measuring :=
  ({ s with flowSubTask := none }.cancel s.flowSubTask).release S

/-- The `finally` of `stop_watering` and `_connect_refresh`. -/
def close (s : Measuring) : Measuring := (s.disconnect S).withLock (some (.method .closing))

/-- The `finally` of `start_watering`. -/
def closeUnlessHeld (s : Measuring) : Measuring :=
  if s.link.held then s.withLock none else s.close S

/-- `start_watering` up to its first `await`; `_build_start` checks the duration. -/
def startWatering (durationSec : ℤ) (s : Measuring) : Measuring :=
  if 0 < durationSec ∧ durationSec ≤ 0xFFFF then
    s.withLock (some (.method (.starting durationSec)))
  else s.closeUnlessHeld S

/-- `_begin_gen1_flow` up to its `await`. -/
def beginGen1Flow (durationSec : ℤ) (s : Measuring) : Measuring :=
  { s with
    runs := s.runs + 1
    link := s.link.holdOpen
    apiLock := some (.method (.subscribing durationSec)) }

/-- `self._flow_sub_task = self.hass.async_create_task(...)`. -/
def createRenewal (durationSec : ℤ) (s : Measuring) : Measuring :=
  { s with
    flowSubTask := some s.runs
    renewals := s.renewals ++ [{ run := s.runs, durationSec := durationSec }] }

/-- The end of `_begin_gen1_flow` and of its caller. -/
def subscribed (durationSec : ℤ) (s : Measuring) : SendEnd → Measuring
  | .sent => (s.createRenewal durationSec).closeUnlessHeld S
  | .failed => (s.endGen1Flow S).closeUnlessHeld S
  | .raised => s.closeUnlessHeld S

/-! ## Renewals -/

def setRenewal (t : Renewal) (s : Measuring) : Measuring :=
  { s with renewals := s.renewals.map fun u => if u.run = t.run then t else u }

def dropRenewal (t : Renewal) (s : Measuring) : Measuring :=
  { s with renewals := s.renewals.filter fun u => u.run ≠ t.run }

/-- The outer `finally` of the loop. -/
def endRenewal (t : Renewal) (s : Measuring) : Measuring := (s.dropRenewal t).release S

/-- `while waited < deadline`. -/
def loop (t : Renewal) (s : Measuring) : Measuring :=
  if t.waited < t.durationSec + GEN1_HOLD_GRACE_SEC then s.setRenewal { t with stage := .sleeping }
  else s.endRenewal S t

/-- The cancellation reaches the coroutine where it is suspended. -/
def cancelRenewal (t : Renewal) (s : Measuring) : Measuring :=
  match t.stage with
  | .created => s.dropRenewal t
  | .sleeping | .acquiring => s.endRenewal S t
  | .sending => (s.withLock none).endRenewal S t

/-- The loop after its sleep, up to the wait for the lock. -/
def awake (t : Renewal) (s : Measuring) : Measuring :=
  if s.isWatering then
    s.setRenewal { t with waited := t.waited + GEN1_RENEW_SEC, stage := .acquiring }
  else s.endRenewal S t

/-- The loop once it has the lock, up to the write of the subscription. -/
def renew (t : Renewal) (s : Measuring) : Measuring :=
  if s.isWatering then
    (s.setRenewal { t with stage := .sending }).withLock (some (.renewal t.run))
  else s.endRenewal S t

def renewed (t : Renewal) (e : SendEnd) (s : Measuring) : Measuring :=
  match e with
  | .sent | .failed => (s.withLock none).loop S t
  | .raised => (s.withLock none).endRenewal S t

def resume (t : Renewal) (w : Wake) (s : Measuring) : Measuring :=
  if t.cancelled then s.cancelRenewal S t
  else
    match t.stage, w with
    | .created, .slept => s.loop S t
    | .sleeping, .slept => s.awake S t
    | .acquiring, .busy => s.loop S t
    | .acquiring, .locked => if s.apiLock.isSome then s else s.renew S t
    | .sending, .sent e => s.renewed S t e
    | _, _ => s

/-! ## Runs -/

/-- Nothing but the device takes the hold or gives it back ahead of its expiry. -/
def linkStep (e : Link.Event) (s : Measuring) : Measuring :=
  match e with
  | .holdOpen | .release => s
  | e => { s with link := s.link.step S e }

/-- What cannot happen in a state leaves it alone. -/
def step (s : Measuring) : FlowEvent → Measuring
  | .link e => s.linkStep S e
  | .watering b => { s with isWatering := b }
  | .start durationSec => if s.apiLock.isSome then s else s.startWatering S durationSec
  | .started ok =>
    match s.apiLock with
    | some (.method (.starting durationSec)) =>
      if ok then s.beginGen1Flow durationSec else s.closeUnlessHeld S
    | _ => s
  | .subscribed e =>
    match s.apiLock with
    | some (.method (.subscribing durationSec)) => s.subscribed S durationSec e
    | _ => s
  | .stop => if s.apiLock.isSome then s else s.withLock (some (.method .stopping))
  | .stopped ok =>
    match s.apiLock with
    | some (.method .stopping) => if ok then (s.endGen1Flow S).close S else s.close S
    | _ => s
  | .refresh =>
    if s.apiLock.isSome then s else (s.disconnect S).withLock (some (.method .refreshing))
  | .refreshed =>
    match s.apiLock with
    | some (.method .refreshing) => s.close S
    | _ => s
  | .closed =>
    match s.apiLock with
    | some (.method .closing) => s.withLock none
    | _ => s
  | .runEnd => s.endGen1Flow S
  | .autoClose => { s with isWatering := false }.endGen1Flow S
  | .unload => (s.endGen1Flow S).disconnect S
  | .renewal run w =>
    match s.renewals.find? fun t => t.run = run with
    | none => s
    | some t => s.resume S t w

/-- A device right after its entry is set up. -/
def fresh (frameMagic trailerConst : UInt8) (replyHeader : Option Bytes) : Measuring where
  link := Link.fresh frameMagic trailerConst replyHeader

/-- At most one renewal task is alive. -/
def OneRenewal (s : Measuring) : Prop := s.renewals.length ≤ 1

/-- A step of the renewal task of an earlier run leaves the hold of a later one alone. -/
def KeepsLaterHold (s : Measuring) : FlowEvent → Prop
  | .renewal run w =>
    s.link.held = true → run < s.runs → (s.step S (.renewal run w)).link.held = true
  | _ => True

/-- A measured run takes the hold while no renewal task is alive. -/
def takesHoldAlone (s : Measuring) (e : FlowEvent) : Bool :=
  match e, s.apiLock with
  | .started true, some (.method (.starting _)) => s.renewals.isEmpty
  | _, _ => true

/-! ## What a step leaves alone -/

def names (s : Measuring) : List ℕ := s.renewals.map Renewal.run

def Subscribing (s : Measuring) : Prop :=
  ∃ durationSec, s.apiLock = some (.method (.subscribing durationSec))

/-- No run begins and no task is created: tasks may have ended, and the lock may have moved on. -/
structure Settles (s s' : Measuring) : Prop where
  names : s'.names.Sublist s.names
  runs : s'.runs = s.runs
  lock : s'.Subscribing → s.Subscribing

section Settles

variable {S : Setting} {s : Measuring} {t : Renewal}

theorem Settles.refl : Settles s s := ⟨List.Sublist.refl _, rfl, id⟩

theorem Settles.trans {s₁ s₂ s₃ : Measuring} (h : Settles s₁ s₂) (h' : Settles s₂ s₃) :
    Settles s₁ s₃ :=
  ⟨h'.names.trans h.names, h'.runs.trans h.runs, fun hsub => h.lock (h'.lock hsub)⟩

theorem settles_link (l : Link) : Settles s { s with link := l } := ⟨List.Sublist.refl _, rfl, id⟩

theorem settles_release : Settles s (s.release S) := settles_link _

theorem settles_disconnect : Settles s (s.disconnect S) := settles_link _

theorem settles_linkStep (e : Link.Event) : Settles s (s.linkStep S e) := by
  cases e <;> first | exact .refl | exact settles_link _

theorem settles_withLock {holder : Option ApiHolder}
    (hlock : ∀ durationSec, holder ≠ some (.method (.subscribing durationSec))) :
    Settles s (s.withLock holder) :=
  ⟨List.Sublist.refl _, rfl, fun ⟨durationSec, h⟩ => absurd h (hlock durationSec)⟩

theorem names_cancel (task : Option ℕ) : (s.cancel task).names = s.names := by
  simp only [names, cancel, List.map_map]
  refine List.map_congr_left fun u _ => ?_
  rw [Function.comp_apply]
  split_ifs <;> rfl

theorem settles_endGen1Flow : Settles s (s.endGen1Flow S) where
  names := by
    have hcancel : (s.endGen1Flow S).names = s.names := names_cancel s.flowSubTask
    rw [hcancel]
  runs := rfl
  lock := id

theorem settles_close : Settles s (s.close S) :=
  settles_disconnect.trans (settles_withLock (by simp))

theorem settles_closeUnlessHeld : Settles s (s.closeUnlessHeld S) := by
  unfold closeUnlessHeld
  split_ifs
  · exact settles_withLock (by simp)
  · exact settles_close

theorem settles_startWatering (durationSec : ℤ) : Settles s (s.startWatering S durationSec) := by
  unfold startWatering
  split_ifs
  · exact settles_withLock (by simp)
  · exact settles_closeUnlessHeld

theorem names_setRenewal : (s.setRenewal t).names = s.names := by
  simp only [names, setRenewal, List.map_map]
  refine List.map_congr_left fun u _ => ?_
  rw [Function.comp_apply]
  split_ifs with h
  · exact h.symm
  · rfl

theorem settles_setRenewal : Settles s (s.setRenewal t) :=
  ⟨by rw [names_setRenewal], rfl, id⟩

theorem settles_dropRenewal : Settles s (s.dropRenewal t) :=
  ⟨(List.filter_sublist).map _, rfl, id⟩

theorem settles_endRenewal : Settles s (s.endRenewal S t) :=
  settles_dropRenewal.trans settles_release

theorem settles_loop : Settles s (s.loop S t) := by
  unfold loop
  split_ifs
  · exact settles_setRenewal
  · exact settles_endRenewal

theorem settles_cancelRenewal : Settles s (s.cancelRenewal S t) := by
  unfold cancelRenewal
  cases t.stage with
  | created => exact settles_dropRenewal
  | sleeping => exact settles_endRenewal
  | acquiring => exact settles_endRenewal
  | sending => exact (settles_withLock (by simp)).trans settles_endRenewal

theorem settles_awake : Settles s (s.awake S t) := by
  unfold awake
  split_ifs
  · exact settles_setRenewal
  · exact settles_endRenewal

theorem settles_renew : Settles s (s.renew S t) := by
  unfold renew
  split_ifs
  · exact settles_setRenewal.trans (settles_withLock (by simp))
  · exact settles_endRenewal

theorem settles_renewed (e : SendEnd) : Settles s (s.renewed S t e) := by
  cases e with
  | sent => exact (settles_withLock (by simp)).trans settles_loop
  | failed => exact (settles_withLock (by simp)).trans settles_loop
  | raised => exact (settles_withLock (by simp)).trans settles_endRenewal

theorem settles_resume (w : Wake) : Settles s (s.resume S t w) := by
  unfold resume
  by_cases hcancelled : t.cancelled = true
  · rw [if_pos hcancelled]
    exact settles_cancelRenewal
  · rw [if_neg hcancelled]
    split
    · exact settles_loop
    · exact settles_awake
    · exact settles_loop
    · split_ifs
      · exact .refl
      · exact settles_renew
    · exact settles_renewed _
    · exact .refl

end Settles

/-! ## Runs which do not overlap -/

/-- The one renewal task there may be is that of the latest run, and there is none while a
run subscribes. -/
structure Alone (s : Measuring) : Prop where
  names : s.names.Sublist [s.runs]
  subscribing : s.Subscribing → s.names = []

section Alone

variable {S : Setting} {s s' : Measuring}

theorem Alone.of_settles (h : s.Alone) (hs : Settles s s') : s'.Alone where
  names := by
    rw [hs.runs]
    exact hs.names.trans h.names
  subscribing hsub := by
    have hnone : s.names = [] := h.subscribing (hs.lock hsub)
    exact List.sublist_nil.mp (hnone ▸ hs.names)

theorem Alone.oneRenewal (h : s.Alone) : s.OneRenewal := by
  have hlen := h.names.length_le
  rwa [Measuring.names, List.length_map] at hlen

theorem alone_beginGen1Flow (hnone : s.renewals = []) (durationSec : ℤ) :
    (s.beginGen1Flow durationSec).Alone := by
  have hnames : (s.beginGen1Flow durationSec).names = [] := by
    simp [Measuring.names, beginGen1Flow, hnone]
  exact ⟨hnames ▸ List.nil_sublist _, fun _ => hnames⟩

theorem alone_closeUnlessHeld (hnames : s.names.Sublist [s.runs]) :
    (s.closeUnlessHeld S).Alone where
  names := by
    have hs : Settles s (s.closeUnlessHeld S) := settles_closeUnlessHeld
    rw [hs.runs]
    exact hs.names.trans hnames
  subscribing := by
    rintro ⟨durationSec, h⟩
    unfold closeUnlessHeld at h
    split_ifs at h <;> cases h

theorem names_createRenewal (hnone : s.names = []) (durationSec : ℤ) :
    (s.createRenewal durationSec).names = [s.runs] := by
  rw [Measuring.names, createRenewal, List.map_append]
  rw [Measuring.names] at hnone
  rw [hnone]
  rfl

theorem Alone.subscribed (h : s.Alone) (hsub : s.Subscribing) (durationSec : ℤ) (e : SendEnd) :
    (s.subscribed S durationSec e).Alone := by
  cases e with
  | sent =>
    refine alone_closeUnlessHeld ?_
    rw [names_createRenewal (h.subscribing hsub)]
    exact List.Sublist.refl _
  | failed => exact h.of_settles (settles_endGen1Flow.trans settles_closeUnlessHeld)
  | raised => exact h.of_settles settles_closeUnlessHeld

theorem Alone.step (h : s.Alone) {e : FlowEvent} (halone : s.takesHoldAlone e = true) :
    (s.step S e).Alone := by
  cases e with
  | link e => exact h.of_settles (settles_linkStep e)
  | watering b => exact h.of_settles ⟨List.Sublist.refl _, rfl, id⟩
  | start durationSec =>
    dsimp only [Measuring.step]
    split_ifs
    · exact h
    · exact h.of_settles (settles_startWatering durationSec)
  | started ok =>
    dsimp only [Measuring.step]
    split
    · next durationSec hlock =>
      cases ok with
      | false => exact h.of_settles settles_closeUnlessHeld
      | true =>
        have hnone : s.renewals = [] := by simpa [takesHoldAlone, hlock] using halone
        exact alone_beginGen1Flow hnone durationSec
    · exact h
  | subscribed e =>
    dsimp only [Measuring.step]
    split
    · next durationSec hlock => exact h.subscribed ⟨durationSec, hlock⟩ durationSec e
    · exact h
  | stop =>
    dsimp only [Measuring.step]
    split_ifs
    · exact h
    · exact h.of_settles (settles_withLock (by simp))
  | stopped ok =>
    dsimp only [Measuring.step]
    split
    · cases ok with
      | false => exact h.of_settles settles_close
      | true => exact h.of_settles (settles_endGen1Flow.trans settles_close)
    · exact h
  | refresh =>
    dsimp only [Measuring.step]
    split_ifs
    · exact h
    · exact h.of_settles (settles_disconnect.trans (settles_withLock (by simp)))
  | refreshed =>
    dsimp only [Measuring.step]
    split
    · exact h.of_settles settles_close
    · exact h
  | closed =>
    dsimp only [Measuring.step]
    split
    · exact h.of_settles (settles_withLock (by simp))
    · exact h
  | runEnd => exact h.of_settles settles_endGen1Flow
  | autoClose => exact h.of_settles ⟨settles_endGen1Flow.names, rfl, id⟩
  | unload => exact h.of_settles (settles_endGen1Flow.trans settles_disconnect)
  | renewal run w =>
    dsimp only [Measuring.step]
    split
    · exact h
    · exact h.of_settles (settles_resume w)

/-- No task of an earlier run is left to give a later hold back. -/
theorem Alone.keepsLaterHold (h : s.Alone) (e : FlowEvent) : s.KeepsLaterHold S e := by
  cases e with
  | renewal run w =>
    intro hheld hlater
    dsimp only [Measuring.step]
    split
    · exact hheld
    · next t hfind =>
      have hrun : t.run = run := by simpa using List.find?_some hfind
      have hmem : t.run ∈ s.names := List.mem_map_of_mem (List.mem_of_find?_eq_some hfind)
      have hlatest : t.run = s.runs := List.mem_singleton.mp (h.names.subset hmem)
      omega
  | _ => trivial

end Alone

/-- In a run whose measured runs take the hold with no renewal task alive, at most one is
alive in every state, and no task of an earlier run gives back the hold of a later one. -/
theorem one_run_at_a_time (S : Setting) (magic tc : UInt8) (header : Option Bytes)
    (es : List FlowEvent)
    (h : StepsMeet (step S) (fun s e => s.takesHoldAlone e = true) (fresh magic tc header) es) :
    (∀ k, (run (step S) (fresh magic tc header) (es.take k)).OneRenewal) ∧
      StepsMeet (step S) (KeepsLaterHold S) (fresh magic tc header) es := by
  have hfresh : (fresh magic tc header).Alone :=
    ⟨List.nil_sublist _, fun _ => rfl⟩
  exact ⟨fun k => (run_invariant (fun _ _ h hok => h.step hok) hfresh (h.take k)).oneRenewal,
    h.of_invariant (fun _ _ h hok => h.step hok) (fun _ e h _ => h.keepsLaterHold e) hfresh⟩

/-- A START over a live renewal task leaves two once its subscription is sent. -/
theorem not_oneRenewal_of_overlap {S : Setting} {s : Measuring} {durationSec : ℤ}
    (hlock : s.apiLock = some (.method (.starting durationSec))) (hlive : s.renewals ≠ []) :
    ¬ ((s.step S (.started true)).step S (.subscribed .sent)).OneRenewal := by
  have hstarted : s.step S (.started true) = s.beginGen1Flow durationSec := by
    dsimp only [step]
    rw [hlock]
    rfl
  have hrenewals : ((s.beginGen1Flow durationSec).step S (.subscribed .sent)).renewals =
      s.renewals ++ [{ run := s.runs + 1, durationSec := durationSec }] := rfl
  have hpos : 0 < s.renewals.length := List.length_pos_iff.mpr hlive
  rw [hstarted, OneRenewal, hrenewals, List.length_append, List.length_singleton]
  omega

/-! ### Two starts -/

/-- The init is eight writes. -/
def meshSetting : Setting :=
  { Link.plainSetting with hook := some fun _ => List.replicate 8 ⟨[0xd7, 0x47], by decide⟩ }

def meshDevice : Measuring := fresh 0x10 0x10 none

/-- A START on a closed connection. -/
def coldActuation : List Link.Event :=
  .call (.sendActuation [0xb6]) :: List.replicate 4 (.resume (.done [])) ++
    .resume (.done Link.goodReply) :: List.replicate 9 (.resume (.done []))

def pooledActuation : List Link.Event :=
  .call (.sendActuation [0xb6]) :: List.replicate 9 (.resume (.done []))

def subscription : List Link.Event := [.call (.send [0x89]), .resume (.done [])]

def measuredRun (run : ℕ) (durationSec : ℤ) (actuation : List Link.Event) : List FlowEvent :=
  .start durationSec :: actuation.map .link ++ [.watering true, .started true] ++
    subscription.map .link ++ [.subscribed .sent, .renewal run .slept]

/-- The write of a renewal, from the end of the sleep before it. -/
def renewal (run : ℕ) : List FlowEvent :=
  [.renewal run .slept, .renewal run .locked] ++ subscription.map .link

def stopRun : List FlowEvent :=
  .stop :: pooledActuation.map .link ++ [.watering false, .stopped true, .renewal 1 .slept,
    .link (.resumeDisconnect 0 (.done [])), .link (.resumeDisconnect 0 (.done [])), .closed]

def stoppedBetween : List FlowEvent :=
  measuredRun 1 600 coldActuation ++ stopRun ++ measuredRun 2 3600 coldActuation

theorem one_run_at_a_time_stopped :
    (∀ k, (run (step meshSetting) meshDevice (stoppedBetween.take k)).OneRenewal) ∧
      StepsMeet (step meshSetting) (KeepsLaterHold meshSetting) meshDevice stoppedBetween :=
  one_run_at_a_time meshSetting 0x10 0x10 none stoppedBetween (by decide +kernel)

/-- Ten minutes, and an hour which is started before they are over. -/
def overlapping : List FlowEvent :=
  measuredRun 1 600 coldActuation ++ measuredRun 2 3600 pooledActuation

def thirdRenewal : List FlowEvent :=
  overlapping ++ renewal 1 ++ [.renewal 1 (.sent .sent)] ++ renewal 1 ++
    [.renewal 1 (.sent .sent)] ++ renewal 1

/-- Both tasks are alive, and the older one ends twelve minutes in, with the hold of the hour. -/
theorem overlap_drops_hold :
    ¬ (run (step meshSetting) meshDevice overlapping).OneRenewal ∧
      let s := run (step meshSetting) meshDevice thirdRenewal
      s.runs = 2 ∧ s.isWatering = true ∧
        ¬ s.KeepsLaterHold meshSetting (.renewal 1 (.sent .sent)) := by
  refine ⟨fun h => ?_, ?_, ?_, fun h => ?_⟩
  · have htwo : (run (step meshSetting) meshDevice overlapping).renewals.length = 2 := by
      decide +kernel
    rw [OneRenewal, htwo] at h
    exact absurd h (by decide)
  · decide +kernel
  · decide +kernel
  · have hkept := h (by decide +kernel) (by decide +kernel)
    exact absurd hkept (by decide +kernel)

end Measuring
end OrbitBhyve.Devices
