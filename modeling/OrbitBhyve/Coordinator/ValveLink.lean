import OrbitBhyve.Coordinator.AutoClose
import OrbitBhyve.Devices.MeshWrites
import OrbitBhyve.Devices.Valve
import OrbitBhyve.Foundation.Following

/-!
# The entity and the valve

A mesh timer and the device class which stands for it, over a link which loses
and delays. A command reaches the timer or does not; an ack or a status is heard
some time after it was sent, in order, or is lost; the coordinator closes a run
by the wall clock. As long as nothing is missed and nothing in flight, the
entity shows the valve as it is: water never runs behind a closed entity, and
the off time is that of the valve, late by at most what its frames were.
-/

namespace OrbitBhyve.Coordinator

open Foundation Python Wire Devices

/-- A device under its coordinator, its timer, and the frames between the two. -/
structure ValveLink where
  host : Ht25Device
  feed : Feed Valve Bytes
  clock : DateTime

/-- A call is taken apart: its write, and every notification, are actions of their own.
`reaches` says whether the timer takes the frame. -/
inductive LinkAction where
  | start (station durationSec : ℤ) (reaches : Bool)
  | stop (reaches : Bool)
  /-- The timer sends its status, as the reply to an init or of its own accord. -/
  | status (address : Vector UInt8 2)
  | arrives
  | lost
  /-- Any other frame arrives. -/
  | other (pt : Bytes)
  /-- The check of an update. -/
  | update

structure LinkEvent where
  clock : DateTime
  action : LinkAction

def checkedAt (now : DateTime) (d : Ht25Device) : Ht25Device :=
  (after (meshClass fun _ => { clock := now }).autoClose { dev := d, clock := now }).dev

namespace ValveLink

/-- The timer takes a frame, and acks a command. -/
def takes (s : ValveLink) (pt : Bytes) : ValveLink :=
  match valveCommand s.clock.micros pt with
  | some v => { s with feed := s.feed.send ⟨v, s.clock.micros, ackOf pt, true⟩ }
  | none => s

def writes (s : ValveLink) (frame : Except PyErr Bytes) (reaches : Bool) : ValveLink :=
  match frame with
  | .ok pt => if reaches then s.takes pt else s
  | .error _ => s

/-- `start_watering` up to its write. -/
def start (s : ValveLink) (station durationSec : ℤ) (reaches : Bool) : ValveLink :=
  let host :=
    { s.host with pendingStartDuration := some durationSec, pendingStartZone := some station }
  { s with host := host }.writes (host.buildStart 0xB6 durationSec) reaches

def act (s : ValveLink) : LinkAction → ValveLink
  | .start station durationSec reaches =>
    if s.host.hasConnection then s.start station durationSec reaches else s
  | .stop reaches => if s.host.hasConnection then s.writes (s.host.buildStop 0xB7) reaches else s
  | .status address =>
    { s with
      feed := s.feed.send ⟨s.feed.source, s.clock.micros,
        statusFrame address.toList s.clock.micros s.feed.source,
        !decide (Valve.isOpen s.clock.micros s.feed.source)⟩ }
  | .arrives =>
    match s.feed.queue with
    | [] => s
    | r :: _ => { s with host := meshObserve s.clock r.frame s.host, feed := s.feed.hear }
  | .lost => { s with feed := s.feed.lose }
  | .other pt => { s with host := meshObserve s.clock pt s.host }
  | .update => { s with host := checkedAt s.clock s.host }

def step (s : ValveLink) (e : LinkEvent) : ValveLink := { s with clock := e.clock }.act e.action

/-- Time does not run backwards, a frame arrives within the latency, in seconds, and what is
not of the timer's own sending is neither an ack nor a status. -/
def Plausible (latency : ℕ) (s : ValveLink) (e : LinkEvent) : Prop :=
  s.clock ≤ e.clock ∧ WithinCalendar e.clock ∧
    match e.action with
    | .arrives => ∀ r, s.feed.queue.head? = some r →
        e.clock.micros ≤ r.sentAt + latency * 1000000
    | .other pt => ¬ (isMeshReply pt = true ∧
        (byteAt pt 3 = SEQ_STATUS ∨ byteAt pt 3 = SEQ_WATER_CTRL))
    | _ => True

/-- A device without a run and a timer which is closed. -/
def atRest (host : Ht25Device) (clock : DateTime) : ValveLink where
  host := { host with state := meshIdleState host.state }
  feed := .quiet none
  clock := clock

end ValveLink

/-! ## What the entity shows -/

/-- The run on the host's side is that of the valve: its off time is short of the end by less
than the second which a countdown cuts, and late by the latency; a run which was closed here
is over there. -/
def Shows (latency : ℕ) (now : ℤ) (view : RunView) : Valve → Prop
  | none => view = ⟨false, none⟩
  | some r =>
    view = ⟨false, none⟩ ∧ r.closesAt ≤ now ∨
      ∃ off, view = ⟨true, some off⟩ ∧ r.closesAt - 1000000 ≤ off.micros ∧
        off.micros ≤ r.closesAt + latency * 1000000

theorem Shows.later {latency : ℕ} {now now' : ℤ} {view : RunView} {v : Valve}
    (h : Shows latency now view v) (hle : now ≤ now') : Shows latency now' view v := by
  cases v with
  | none => exact h
  | some r =>
    rcases h with ⟨hview, hclosed⟩ | hopen
    · exact Or.inl ⟨hview, hclosed.trans hle⟩
    · exact Or.inr hopen

theorem Shows.isWatering {latency : ℕ} {now : ℤ} {view : RunView} {v : Valve}
    (h : Shows latency now view v) (hopen : v.isOpen now) : view.isWatering = true := by
  cases v with
  | none => exact hopen.elim
  | some r =>
    have hrunning : now < r.closesAt := hopen
    rcases h with ⟨-, hclosed⟩ | ⟨off, rfl, -⟩
    · omega
    · rfl

theorem Shows.bounds {latency : ℕ} {now : ℤ} {view : RunView} {v : Valve}
    (h : Shows latency now view v) (hflag : view.isWatering = true) : ∃ r off, v = some r ∧
      view.expectedOffAt = some off ∧ r.closesAt - 1000000 ≤ off.micros ∧
        off.micros ≤ r.closesAt + latency * 1000000 := by
  cases v with
  | none =>
    obtain rfl : view = ⟨false, none⟩ := h
    cases hflag
  | some r =>
    rcases h with ⟨rfl, -⟩ | ⟨off, rfl, hlow, hhigh⟩
    · cases hflag
    · exact ⟨r, off, rfl, rfl, hlow, hhigh⟩

/-! ## The frames of the timer -/

/-- What the timer of the device with the mesh id `id` sends. -/
inductive Genuine (id : Option ℤ) : Report Valve Bytes → Prop
  | start {d : Ht25Device} {r : ValveRun} {pt : Bytes} : d.meshDeviceId = id →
      d.buildStart 0xB6 r.durationSec = .ok pt → Genuine id ⟨some r, r.openedAt, ackOf pt, true⟩
  | stop {d : Ht25Device} {pt : Bytes} (sentAt : ℤ) : d.meshDeviceId = id →
      d.buildStop 0xB7 = .ok pt → Genuine id ⟨none, sentAt, ackOf pt, true⟩
  | status (address : Vector UInt8 2) {v : Valve} {sentAt : ℤ} :
      (∀ r, v = some r → r.openedAt ≤ sentAt) →
        Genuine id ⟨v, sentAt, statusFrame address.toList sentAt v, !decide (v.isOpen sentAt)⟩

section Heard

variable {latency : ℕ} {now : DateTime} {d : Ht25Device} {r : Report Valve Bytes}

theorem run_started (hnow : WithinCalendar now) {durationSec : ℤ} (hlow : 0 ≤ durationSec)
    (hhigh : durationSec ≤ 0xFFFF) (view : RunView) : ∃ off,
      view.hears now (some (.started durationSec)) = ⟨true, some off⟩ ∧
        off.micros = now.micros + durationSec * 1000000 := by
  obtain ⟨off, hoff, hmicros⟩ := hnow.addSeconds (n := durationSec) (by omega) (by omega)
  refine ⟨off, ?_, hmicros⟩
  simp [RunView.hears, RunReport.after, RunReport.offAt, hoff, Except.toOption]

theorem run_running (hnow : WithinCalendar now) {left : ℕ} (hleft : left ≤ 0xFFFF)
    (view : RunView) : ∃ newOff, newOff.micros = now.micros + left * 1000000 ∧
      (view.hears now (some (.running (some left))) = ⟨true, some newOff⟩ ∨
        ∃ off, view.expectedOffAt = some off ∧
          view.hears now (some (.running (some left))) = ⟨true, some off⟩) := by
  obtain ⟨newOff, hnewOff, hmicros⟩ := hnow.addSeconds (n := left) (by omega) (by omega)
  refine ⟨newOff, hmicros, ?_⟩
  have hview : view.hears now (some (.running (some left))) =
      ⟨true, guardedOff view.expectedOffAt newOff⟩ := by
    simp [RunView.hears, RunReport.after, countdownOff, hnewOff]
  rw [hview]
  unfold guardedOff
  split
  · exact Or.inl rfl
  · next hstay =>
    cases hexpected : view.expectedOffAt with
    | none =>
      rw [hexpected] at hstay
      exact absurd rfl hstay
    | some off => exact Or.inr ⟨off, rfl, rfl⟩

/-- A decisive report is shown whatever was shown before. -/
theorem shows_of_decisive (hnow : WithinCalendar now) (h : Genuine d.meshDeviceId r)
    (hsent : r.sentAt ≤ now.micros) (hlate : now.micros ≤ r.sentAt + latency * 1000000)
    (hdecisive : r.decisive = true) :
    Shows latency now.micros (meshObserve now r.frame d).run r.about := by
  rw [run_meshObserve]
  cases h with
  | @start d' run pt hid hbuild =>
    rw [meshReport_ackOf_start hbuild hid.symm]
    have hpositive : 0 ≤ (run.durationSec : ℤ) := by omega
    have hle : (run.durationSec : ℤ) ≤ 0xFFFF := by exact_mod_cast run.le
    obtain ⟨off, hview, hmicros⟩ := run_started hnow hpositive hle d.run
    rw [hview]
    refine Or.inr ⟨off, rfl, ?_⟩
    dsimp only at hsent hlate
    unfold ValveRun.closesAt
    omega
  | @stop d' pt sentAt hid hbuild =>
    rw [meshReport_ackOf_stop hbuild hid.symm]
    rfl
  | @status address v sentAt hopened =>
    have hclosed : ¬ v.isOpen sentAt := by simpa using hdecisive
    rw [meshReport_status_closed (by simp) hclosed]
    cases v with
    | none => rfl
    | some run =>
      have hpast : ¬ sentAt < run.closesAt := hclosed
      dsimp only at hsent
      exact Or.inl ⟨rfl, by omega⟩

/-- Any other is shown by a host which shows what it says already. -/
theorem shows_of_repeat (hnow : WithinCalendar now) (h : Genuine d.meshDeviceId r)
    (hsent : r.sentAt ≤ now.micros) (hlate : now.micros ≤ r.sentAt + latency * 1000000)
    (hdecisive : r.decisive = false) (hshows : Shows latency now.micros d.run r.about) :
    Shows latency now.micros (meshObserve now r.frame d).run r.about := by
  rw [run_meshObserve]
  cases h with
  | start hid hbuild => cases hdecisive
  | stop sentAt hid hbuild => cases hdecisive
  | @status address v sentAt hopened =>
    have hopen : v.isOpen sentAt := by simpa using hdecisive
    cases v with
    | none => exact hopen.elim
    | some run =>
      have hrunning : sentAt < run.closesAt := hopen
      have hbegun := hopened run rfl
      dsimp only at hsent hlate
      rw [meshReport_status_open (by simp) hbegun hrunning hnow]
      have hleft : run.remaining sentAt ≤ 0xFFFF :=
        (ValveRun.remaining_le hbegun).trans run.le
      obtain ⟨hlow, hhigh⟩ := ValveRun.remaining_bounds hrunning
      obtain ⟨newOff, hmicros, hview | ⟨off, hexpected, hview⟩⟩ := run_running hnow hleft d.run
      · rw [hview]
        exact Or.inr ⟨newOff, rfl, by omega, by omega⟩
      · rw [hview]
        rcases hshows with ⟨hidle, -⟩ | ⟨off', hrun, hbounds⟩
        · rw [hidle] at hexpected
          cases hexpected
        · rw [hrun] at hexpected
          cases hexpected
          exact Or.inr ⟨off, rfl, hbounds⟩

end Heard

/-! ## The host -/

theorem meshDeviceId_meshObserve (now : DateTime) (pt : Bytes) (d : Ht25Device) :
    (meshObserve now pt d).meshDeviceId = d.meshDeviceId := by
  have hrun : RunWrites fun d d' : Ht25Device => d'.meshDeviceId = d.meshDeviceId :=
    ⟨fun _ _ _ => rfl, fun _ _ => rfl, fun _ _ => rfl⟩
  have hflow : FlowWrites fun d d' : Ht25Device => d'.meshDeviceId = d.meshDeviceId :=
    ⟨fun _ _ => rfl, fun _ _ => rfl, fun _ _ => rfl, fun _ => rfl, fun _ _ => rfl⟩
  have : IsPreorder Ht25Device fun d d' => d'.meshDeviceId = d.meshDeviceId :=
    { refl := fun _ => rfl, trans := fun _ _ _ h h' => h'.trans h }
  exact hrun.moves_meshObserve hflow now pt d

theorem run_meshObserve_other {pt : Bytes} (h : ¬ (isMeshReply pt = true ∧
    (byteAt pt 3 = SEQ_STATUS ∨ byteAt pt 3 = SEQ_WATER_CTRL))) (now : DateTime)
    (d : Ht25Device) : (meshObserve now pt d).run = d.run := by
  have hreport : meshReport now pt d = none := by
    rw [meshReport, if_neg fun hs => h ⟨hs.1, .inl hs.2⟩, if_neg fun hs => h ⟨hs.1, .inr hs.2⟩]
  rw [run_meshObserve, hreport]
  rfl

theorem checkedAt_cases (now : DateTime) (d : Ht25Device) :
    (checkedAt now d).meshDeviceId = d.meshDeviceId ∧
      ((∃ off, d.run = ⟨true, some off⟩ ∧ Overdue now off ∧
          (checkedAt now d).run = ⟨false, none⟩) ∨
        (∀ off, d.run = ⟨true, some off⟩ → ¬ Overdue now off) ∧ (checkedAt now d).run = d.run) := by
  set w : World Ht25Device := { dev := d, clock := now } with hw
  set c := meshClass fun _ => { clock := now } with hc
  have hrun : d.run = ⟨d.state.isWatering, d.state.expectedOffAt⟩ := rfl
  have hcheck : checkedAt now d = (after c.autoClose w).dev := rfl
  rw [hrun, hcheck]
  cases hflag : d.state.isWatering with
  | false =>
    rw [after_of_ok (run_autoClose_idle (c := c) (w := w) hflag)]
    refine ⟨rfl, Or.inr ⟨by simp, ?_⟩⟩
    rw [← hflag]
    rfl
  | true =>
    cases hoff : d.state.expectedOffAt with
    | none =>
      rw [after_of_ok (run_autoClose_untimed (c := c) (w := w) hflag hoff)]
      refine ⟨rfl, Or.inr ⟨by simp, ?_⟩⟩
      rw [← hflag, ← hoff]
      rfl
    | some off =>
      have htimed := run_autoClose_timed (c := c) (w := w) hflag hoff
      cases hlimit : off.addSeconds EXPIRY_GRACE_SEC with
      | error e =>
        rw [run_closeIfOverdue_error hlimit] at htimed
        have hnot : ¬ Overdue now off := not_overdue_of_error hlimit
        rw [after, htimed]
        refine ⟨rfl, Or.inr ⟨by simpa using hnot, ?_⟩⟩
        rw [← hflag, ← hoff]
        rfl
      | ok limit =>
        rw [run_closeIfOverdue hlimit] at htimed
        by_cases hover : Overdue now off
        · rw [if_pos hover] at htimed
          rw [after, htimed]
          exact ⟨rfl, Or.inl ⟨off, rfl, hover, rfl⟩⟩
        · rw [if_neg hover] at htimed
          rw [after_of_ok htimed]
          refine ⟨rfl, Or.inr ⟨by simpa using hover, ?_⟩⟩
          rw [← hflag, ← hoff]
          rfl

/-- Closing by the wall clock is closing behind the valve. -/
theorem shows_checkedAt {latency : ℕ} {now : DateTime} {d : Ht25Device} {v : Valve}
    (h : Shows latency now.micros d.run v) : Shows latency now.micros (checkedAt now d).run v := by
  obtain ⟨-, ⟨off, hrun, hover, hclosed⟩ | ⟨-, hsame⟩⟩ := checkedAt_cases now d
  · rw [hclosed]
    cases v with
    | none => rfl
    | some r =>
      rcases h with ⟨hidle, -⟩ | ⟨off', hrun', hlow, -⟩
      · rw [hidle] at hrun
        cases hrun
      · rw [hrun'] at hrun
        cases hrun
        unfold Overdue EXPIRY_GRACE_SEC at hover
        exact Or.inl ⟨rfl, by omega⟩
  · rw [hsame]
    exact h

/-! ## Runs -/

namespace ValveLink

/-- The feed is tracked by what the entity shows, and no run of the valve is to come. -/
structure Sound (latency : ℕ) (s : ValveLink) : Prop where
  tracked : s.feed.Tracked
    (fun r => Genuine s.host.meshDeviceId r ∧ r.sentAt ≤ s.clock.micros)
    (Shows latency s.clock.micros s.host.run)
  begun : ∀ r, s.feed.source = some r → r.openedAt ≤ s.clock.micros

variable {latency : ℕ} {s : ValveLink}

theorem sound_atRest (host : Ht25Device) (clock : DateTime) :
    (atRest host clock).Sound latency where
  tracked := .quiet rfl
  begun := by
    intro r hr
    cases hr

/-- Whatever becomes of the host, if its run is shown as before. -/
theorem Sound.ofHost (h : s.Sound latency) {host : Ht25Device}
    (hid : host.meshDeviceId = s.host.meshDeviceId)
    (hrun : ∀ v, Shows latency s.clock.micros s.host.run v →
      Shows latency s.clock.micros host.run v) :
    ({ s with host := host } : ValveLink).Sound latency where
  tracked := h.tracked.mono (fun _ hr => ⟨by rw [hid]; exact hr.1, hr.2⟩) hrun
  begun := h.begun

theorem Sound.atClock (h : s.Sound latency) {clock : DateTime} (hle : s.clock ≤ clock) :
    ({ s with clock := clock } : ValveLink).Sound latency where
  tracked := h.tracked.mono (fun _ hr => ⟨hr.1, hr.2.trans hle⟩) fun _ hv => hv.later hle
  begun := fun r hr => (h.begun r hr).trans hle

theorem Sound.send (h : s.Sound latency) {r : Report Valve Bytes}
    (hr : r.decisive = true ∨ r.about = s.feed.source) (hgenuine : Genuine s.host.meshDeviceId r)
    (hnow : r.sentAt = s.clock.micros) (hbegun : ∀ run, r.about = some run →
      run.openedAt ≤ s.clock.micros) :
    ({ s with feed := s.feed.send r } : ValveLink).Sound latency where
  tracked := h.tracked.send hr ⟨hgenuine, hnow.le⟩
  begun := hbegun

theorem Sound.writesStart (h : s.Sound latency) {d : Ht25Device}
    (hid : d.meshDeviceId = s.host.meshDeviceId) (durationSec : ℤ) (reaches : Bool) :
    (s.writes (d.buildStart 0xB6 durationSec) reaches).Sound latency := by
  cases hbuild : d.buildStart 0xB6 durationSec with
  | error e => exact h
  | ok pt =>
    cases reaches with
    | false => exact h
    | true =>
      obtain ⟨r, hcommand, hopened, hduration⟩ := valveCommand_of_buildStart hbuild s.clock.micros
      have htakes : s.writes (.ok pt) true =
          { s with feed := s.feed.send ⟨some r, r.openedAt, ackOf pt, true⟩ } := by
        simp [writes, takes, hcommand, hopened]
      rw [htakes]
      refine h.send (Or.inl rfl) ?_ hopened fun run hrun => ?_
      · rw [← hduration] at hbuild
        exact .start hid hbuild
      · cases hrun
        exact hopened.le

theorem Sound.writesStop (h : s.Sound latency) (reaches : Bool) :
    (s.writes (s.host.buildStop 0xB7) reaches).Sound latency := by
  cases hbuild : s.host.buildStop 0xB7 with
  | error e => exact h
  | ok pt =>
    cases reaches with
    | false => exact h
    | true =>
      have htakes : s.writes (.ok pt) true =
          { s with feed := s.feed.send ⟨none, s.clock.micros, ackOf pt, true⟩ } := by
        simp [writes, takes, valveCommand_of_buildStop hbuild]
      rw [htakes]
      exact h.send (Or.inl rfl) (.stop _ rfl hbuild) rfl fun run hrun => by cases hrun

theorem Sound.arrives (h : s.Sound latency) (hnow : WithinCalendar s.clock)
    (hlate : ∀ r, s.feed.queue.head? = some r →
      s.clock.micros ≤ r.sentAt + latency * 1000000) : (s.act .arrives).Sound latency := by
  cases hqueue : s.feed.queue with
  | nil =>
    have hact : s.act .arrives = s := by simp [act, hqueue]
    rw [hact]
    exact h
  | cons r queue =>
    have hact : s.act .arrives =
        { s with host := meshObserve s.clock r.frame s.host, feed := s.feed.hear } := by
      simp [act, hqueue]
    have hid := meshDeviceId_meshObserve s.clock r.frame s.host
    obtain ⟨hgenuine, hsent⟩ := h.tracked.genuine r (by rw [hqueue]; simp)
    have hintime := hlate r (by rw [hqueue]; rfl)
    have hheard : s.feed.hear.Tracked _
        (Shows latency s.clock.micros (meshObserve s.clock r.frame s.host).run) :=
      h.tracked.hear hqueue (shows_of_decisive hnow hgenuine hsent hintime)
        (shows_of_repeat hnow hgenuine hsent hintime)
    rw [hact]
    refine ⟨hheard.mono (fun _ hr => ⟨by rw [hid]; exact hr.1, hr.2⟩) fun _ hv => hv, ?_⟩
    intro run hrun
    exact h.begun run (by simpa using hrun)

theorem Sound.step (h : s.Sound latency) {e : LinkEvent} (he : s.Plausible latency e) :
    (s.step e).Sound latency := by
  obtain ⟨hle, hnow, hevent⟩ := he
  have hclock := h.atClock hle
  obtain ⟨clock, action⟩ := e
  change (act { s with clock := clock } action).Sound latency
  cases action with
  | start station durationSec reaches =>
    by_cases hlink : s.host.hasConnection = true
    · rw [act, if_pos hlink]
      let host : Ht25Device :=
        { s.host with pendingStartDuration := some durationSec, pendingStartZone := some station }
      have hstashed : ValveLink.Sound latency { host := host, feed := s.feed, clock := clock } :=
        hclock.ofHost rfl fun _ hv => hv
      exact hstashed.writesStart rfl durationSec reaches
    · rw [act, if_neg hlink]
      exact hclock
  | stop reaches =>
    by_cases hlink : s.host.hasConnection = true
    · rw [act, if_pos hlink]
      exact hclock.writesStop reaches
    · rw [act, if_neg hlink]
      exact hclock
  | status address =>
    exact hclock.send (Or.inr rfl) (.status address hclock.begun) rfl hclock.begun
  | arrives => exact hclock.arrives hnow hevent
  | lost =>
    refine ⟨hclock.tracked.lose, fun run hrun => ?_⟩
    exact hclock.begun run (by simpa [act] using hrun)
  | other pt =>
    refine hclock.ofHost (meshDeviceId_meshObserve clock pt s.host) fun v hv => ?_
    rw [run_meshObserve_other hevent]
    exact hv
  | update =>
    exact hclock.ofHost (checkedAt_cases clock s.host).1 fun v hv => shows_checkedAt hv

theorem Sound.run (h : s.Sound latency) {es : List LinkEvent}
    (hes : StepsMeet ValveLink.step (Plausible latency) s es) :
    (Foundation.run ValveLink.step s es).Sound latency :=
  run_invariant (fun _ _ hs he => hs.step he) h hes

/-- However commands, acks, statuses, losses and updates interleave: as long as nothing is
in flight and nothing missed, the entity shows a run while the valve is open, the off time of
a run which it shows is that of the valve, and an update past that by the latency and the
grace shows none. -/
theorem shows_the_valve (latency : ℕ) (host : Ht25Device) (clock : DateTime)
    (es : List LinkEvent) (hes : StepsMeet step (Plausible latency) (atRest host clock) es) :
    let s := Foundation.run step (atRest host clock) es
    s.feed.queue = [] → s.feed.missed = false →
      (Valve.isOpen s.clock.micros s.feed.source → s.host.state.isWatering = true) ∧
        (s.host.state.isWatering = true → ∃ r off, s.feed.source = some r ∧
          s.host.state.expectedOffAt = some off ∧ r.closesAt - 1000000 ≤ off.micros ∧
            off.micros ≤ r.closesAt + latency * 1000000) ∧
        ∀ now : DateTime, (∀ r, s.feed.source = some r →
          r.closesAt + (latency + EXPIRY_GRACE_SEC) * 1000000 ≤ now.micros) →
            (checkedAt now s.host).state.isWatering = false := by
  intro s hqueue hmissed
  have hshows : Shows latency s.clock.micros s.host.run s.feed.source :=
    ((sound_atRest host clock).run hes).tracked.abreast_source hqueue hmissed
  refine ⟨fun hopen => hshows.isWatering hopen, fun hflag => hshows.bounds hflag, ?_⟩
  intro now hpast
  have hsame : ∀ d : Ht25Device, d.state.isWatering = d.run.isWatering := fun _ => rfl
  rw [hsame]
  obtain ⟨-, ⟨off, hrun, hover, hclosed⟩ | ⟨hnot, hrun⟩⟩ := checkedAt_cases now s.host
  · rw [hclosed]
  · rw [hrun]
    by_contra hflag
    obtain ⟨r, off, hsource, hoff, -, hhigh⟩ := hshows.bounds (by simpa using hflag)
    have hlong := hpast r hsource
    apply hnot off
    · rw [← hoff]
      cases hview : s.host.run with
      | mk flag expected =>
        rw [hview] at hflag
        simp at hflag
        rw [hflag]
    · unfold Overdue
      linarith

/-- Within minutes of the epoch. -/
def shortly (sec : Fin 256) : DateTime where
  micros := sec.val * 1000000
  lo := by
    have hlow : 0 ≤ (sec.val : ℤ) * 1000000 := by omega
    exact le_trans (by decide) hlow
  hi := by
    have hhigh : (sec.val : ℤ) * 1000000 ≤ 255 * 1000000 := by omega
    exact hhigh.trans (by decide)

/-- The ack of a start is lost and the next one is heard. -/
def secondStart : List LinkEvent :=
  [⟨shortly 0, .start 1 60 true⟩, ⟨shortly 1, .lost⟩, ⟨shortly 2, .start 1 120 true⟩,
    ⟨shortly 3, .arrives⟩, ⟨shortly 100, .update⟩]

theorem shows_the_valve_second_start :
    (Foundation.run step (atRest { meshDeviceId := some 18391 } .epoch)
      secondStart).host.state.isWatering = true := by
  have hplausible : StepsMeet step (Plausible 5) (atRest { meshDeviceId := some 18391 } .epoch)
      secondStart := by
    refine ⟨⟨by decide, by decide, trivial⟩, ⟨by decide, by decide, trivial⟩,
      ⟨by decide, by decide, trivial⟩, ⟨by decide, by decide, fun r hr => ?_⟩,
      ⟨by decide, by decide, trivial⟩, trivial⟩
    cases hr
    decide
  exact (shows_the_valve 5 { meshDeviceId := some 18391 } .epoch secondStart hplausible rfl rfl).1
    (by decide)

end ValveLink
end OrbitBhyve.Coordinator
