import OrbitBhyve.Coordinator.AutoClose
import OrbitBhyve.Foundation.Deadline
import Mathlib.Data.Rat.Floor
import Mathlib.Logic.Relation

/-!
# The cadence lands on the auto-close

While a run is open its updates follow each other at the watering interval, and
in the last stretch at the whole seconds which are left until the off time and
the grace are over. As long as the polls change nothing of the run, the update
which closes it comes less than a second after that.
-/

namespace OrbitBhyve.Coordinator

open Foundation Python Wire Devices Relation

def seconds (t : DateTime) : ℚ := t.micros / 1000000

/-- When the auto-close is due: the off time and the grace. -/
def closeTime (off : DateTime) : ℚ := seconds off + EXPIRY_GRACE_SEC

structure Due (δ : Type) where
  setup : Setup δ
  clock : DateTime

namespace Due

variable {δ : Type} (c : DeviceClass δ)

def world (p : Due δ) : World δ := p.setup.atClock p.clock

def updated (p : Due δ) : Setup δ := p.setup.update c p.clock

def Finishes (p : Due δ) : Prop :=
  ∃ u w, c.asyncUpdateData p.setup.coordinator p.world = .ok u w ∧ u.finished = true

/-- The poll of the update changes nothing of the run, and the clock stands still. -/
def Quiet (p : Due δ) : Prop :=
  ∃ w, c.refreshState p.world = .ok () w ∧
    (c.state w.dev).run = (c.state p.setup.world.dev).run ∧ w.clock = p.clock

structure Next (p q : Due δ) : Prop where
  goesOn : ¬ p.Finishes c
  setup : q.setup = p.updated c
  clock : q.clock.micros = p.clock.micros + q.setup.coordinator.updateInterval * 1000000

/-- The updates up to the one which closes the run. -/
abbrev Reaches : Due δ → Due δ → Prop := ReflTransGen (Next c)

end Due

open Due

/-- A run which is open until `off`, and the first update of it before the auto-close is due. -/
structure OpenUntil {δ : Type} (c : DeviceClass δ) (off : DateTime) (p : Due δ) : Prop where
  pollIdle : 1 ≤ p.setup.coordinator.pollIdle
  pollWatering : 1 ≤ p.setup.coordinator.pollWatering
  run : (c.state p.setup.world.dev).run = ⟨true, some off⟩
  first : seconds p.clock < closeTime off
  quiet : ∀ q, Reaches c p q → q.Quiet c

/-- No interval is shorter than a second, and the run is closed by an update less than a second
after the auto-close is due. -/
structure LandsOnClose {δ : Type} (c : DeviceClass δ) (off : DateTime) (p : Due δ) : Prop where
  interval : ∀ q, Reaches c p q → 1 ≤ (q.updated c).coordinator.updateInterval
  closes : ∃ q, Reaches c p q ∧ q.Finishes c ∧
    (c.state (q.updated c).world.dev).isWatering = false
  window : ∀ q, Reaches c p q → q.Finishes c →
    closeTime off ≤ seconds q.clock ∧ seconds q.clock < closeTime off + 1

/-! ## One update -/

theorem overdue_iff_closeTime {now off : DateTime} :
    Overdue now off ↔ closeTime off ≤ seconds now := by
  unfold Overdue closeTime seconds EXPIRY_GRACE_SEC
  rw [div_add' _ _ _ (by norm_num), div_le_div_iff_of_pos_right (by norm_num)]
  exact_mod_cast Iff.rfl

theorem nextInterval_micros (P : ℕ) (left : ℤ) :
    (if 0 < left ∧ left < P * 1000000 then max 1 (left / 1000000).toNat else P) =
      nextInterval P ((left : ℚ) / 1000000) := by
  have hpos : 0 < (left : ℚ) / 1000000 ↔ 0 < left := by
    rw [lt_div_iff₀ (by norm_num), zero_mul]
    exact Int.cast_pos
  have hshort : (left : ℚ) / 1000000 < P ↔ left < P * 1000000 := by
    rw [div_lt_iff₀ (by norm_num)]
    exact_mod_cast Iff.rfl
  have hfloor : ⌊(left : ℚ) / 1000000⌋₊ = (left / 1000000).toNat := by
    have hint := Rat.floor_intCast_div_natCast left 1000000
    rw [← Int.floor_toNat]
    exact congrArg Int.toNat hint
  simp only [nextInterval, hpos, hshort, hfloor]

section Update

variable {δ : Type} {c : DeviceClass δ} {k : DeviceCoordinator} {now off limit : DateTime}

theorem cadence_open {s : DeviceState} (hrun : s.run = ⟨true, some off⟩)
    (hlimit : off.addSeconds EXPIRY_GRACE_SEC = .ok limit) :
    k.cadence now s = .ok (nextInterval k.pollWatering (closeTime off - seconds now)) := by
  have hflag : s.isWatering = true := congrArg RunView.isWatering hrun
  have hoff : s.expectedOffAt = some off := congrArg RunView.expectedOffAt hrun
  have hmicros := DateTime.addSeconds_eq_ok.mp hlimit
  have hleft : closeTime off - seconds now = ((limit.micros - now.micros : ℤ) : ℚ) / 1000000 := by
    unfold closeTime seconds
    rw [hmicros]
    push_cast
    ring
  unfold DeviceCoordinator.cadence microsUntilClose
  rw [if_pos hflag, hoff, hleft, ← nextInterval_micros]
  dsimp only
  rw [hlimit]
  rfl

theorem cadence_closed {s : DeviceState} (h : s.isWatering = false) :
    k.cadence now s = .ok k.pollIdle := by
  unfold DeviceCoordinator.cadence
  rw [if_neg (by rw [h]; decide)]

theorem updated_of_ok {p : Due δ} {u : Updated} {w : World δ}
    (h : c.asyncUpdateData p.setup.coordinator p.world = .ok u w) :
    p.updated c = ⟨u.coordinator, w⟩ := by
  unfold Due.world at h
  unfold Due.updated Setup.update
  rw [h]

variable {p q : Due δ}

/-- An update before the auto-close is due counts down and leaves the run open. -/
theorem update_open (hquiet : p.Quiet c) (hrun : (c.state p.setup.world.dev).run = ⟨true, some off⟩)
    (hlimit : off.addSeconds EXPIRY_GRACE_SEC = .ok limit)
    (hdue : seconds p.clock < closeTime off) :
    ¬ p.Finishes c ∧ (c.state (p.updated c).world.dev).run = ⟨true, some off⟩ ∧
      (p.updated c).coordinator = { p.setup.coordinator with
        updateInterval := nextInterval p.setup.coordinator.pollWatering
          (closeTime off - seconds p.clock) } := by
  obtain ⟨w₁, hpoll, hsame, hclock⟩ := hquiet
  have hrun₁ := hsame.trans hrun
  have hflag : (c.state w₁.dev).isWatering = true := congrArg RunView.isWatering hrun₁
  have hoff : (c.state w₁.dev).expectedOffAt = some off := congrArg RunView.expectedOffAt hrun₁
  have hnot : ¬ Overdue w₁.clock off := by
    rw [overdue_iff_closeTime, hclock]
    exact not_le.mpr hdue
  have hclose : c.autoClose w₁ = .ok false { w₁ with
      dev := c.setState (countedState w₁.clock off (c.state w₁.dev)) w₁.dev } := by
    rw [run_autoClose_timed hflag hoff, run_closeIfOverdue hlimit, if_neg hnot]
  have hcounted : (c.state (c.setState (countedState w₁.clock off (c.state w₁.dev)) w₁.dev)).run =
      ⟨true, some off⟩ := by
    rw [c.state_setState]
    exact hrun₁
  obtain ⟨w', hupdate, hfields⟩ := run_asyncUpdateData (k := p.setup.coordinator) hpoll hclose
    (cadence_open hcounted hlimit)
  have hrun' : (c.state w'.dev).run = ⟨true, some off⟩ :=
    (congrArg (fun r : RunFields => RunView.mk r.isWatering r.expectedOffAt) hfields).trans hcounted
  refine ⟨?_, ?_, ?_⟩
  · rintro ⟨u, w, hok, hfinished⟩
    rw [hupdate, EStateM.Result.ok.injEq] at hok
    obtain ⟨rfl, -⟩ := hok
    cases hfinished
  · rw [updated_of_ok hupdate]
    exact hrun'
  · rw [updated_of_ok hupdate, ← hclock]

/-- What a device class does at the end of a run: it returns, and leaves flag and off time. -/
structure EndsQuietly (c : DeviceClass δ) : Prop where
  returns : Returns c.onWateringFinished
  keeps : Keeps (fun w => (c.state w.dev).run) c.onWateringFinished

/-- One at or past it closes the run. -/
theorem update_close (hc : EndsQuietly c) (hquiet : p.Quiet c)
    (hrun : (c.state p.setup.world.dev).run = ⟨true, some off⟩)
    (hlimit : off.addSeconds EXPIRY_GRACE_SEC = .ok limit)
    (hdue : closeTime off ≤ seconds p.clock) :
    p.Finishes c ∧ (c.state (p.updated c).world.dev).isWatering = false ∧
      (p.updated c).coordinator =
        { p.setup.coordinator with updateInterval := p.setup.coordinator.pollIdle } := by
  obtain ⟨w₁, hpoll, hsame, hclock⟩ := hquiet
  have hrun₁ := hsame.trans hrun
  have hflag : (c.state w₁.dev).isWatering = true := congrArg RunView.isWatering hrun₁
  have hoff : (c.state w₁.dev).expectedOffAt = some off := congrArg RunView.expectedOffAt hrun₁
  have hover : Overdue w₁.clock off := by
    rw [overdue_iff_closeTime, hclock]
    exact hdue
  set w₂ : World δ := { w₁ with dev := c.setState (closedState (c.state w₁.dev)) w₁.dev } with hw₂
  have hclose : c.autoClose w₁ = .ok true (after c.onWateringFinished w₂) := by
    rw [run_autoClose_timed hflag hoff, run_closeIfOverdue hlimit, if_pos hover,
      run_bind_ok (c.run_modState _ w₁), run_bind_ok (hc.returns _)]
    rfl
  have hclosed : (c.state (after c.onWateringFinished w₂).dev).isWatering = false := by
    have hkept := congrArg RunView.isWatering (hc.keeps w₂)
    refine hkept.trans ?_
    rw [hw₂]
    dsimp only
    rw [c.state_setState]
    rfl
  obtain ⟨w', hupdate, hfields⟩ := run_asyncUpdateData (k := p.setup.coordinator) hpoll hclose
    (cadence_closed hclosed)
  refine ⟨⟨_, w', hupdate, rfl⟩, ?_, ?_⟩
  · rw [updated_of_ok hupdate]
    exact (congrArg RunFields.isWatering hfields).trans hclosed
  · rw [updated_of_ok hupdate]

end Update

/-! ## The updates of a run -/

section Run

variable {δ : Type} {c : DeviceClass δ} {off limit : DateTime} {p q : Due δ}

/-- A due update of the open run, at most a second past the time of the auto-close. -/
structure StillOpen (c : DeviceClass δ) (off : DateTime) (p q : Due δ) : Prop where
  pollIdle : q.setup.coordinator.pollIdle = p.setup.coordinator.pollIdle
  pollWatering : q.setup.coordinator.pollWatering = p.setup.coordinator.pollWatering
  run : (c.state q.setup.world.dev).run = ⟨true, some off⟩
  soon : seconds q.clock < closeTime off + 1

theorem seconds_next (h : p.Next c q) :
    seconds q.clock = seconds p.clock + q.setup.coordinator.updateInterval := by
  unfold seconds
  rw [h.clock]
  push_cast
  ring

theorem StillOpen.next {r : Due δ} (hc : EndsQuietly c)
    (hlimit : off.addSeconds EXPIRY_GRACE_SEC = .ok limit) (h : StillOpen c off p q)
    (hquiet : q.Quiet c) (hnext : q.Next c r) : StillOpen c off p r := by
  by_cases hdue : seconds q.clock < closeTime off
  · obtain ⟨-, hrun, hinterval⟩ := update_open hquiet h.run hlimit hdue
    rw [← hnext.setup] at hrun hinterval
    refine ⟨?_, ?_, hrun, ?_⟩
    · rw [hinterval]
      exact h.pollIdle
    · rw [hinterval]
      exact h.pollWatering
    · rw [seconds_next hnext, hinterval]
      exact tick_lt hdue
  · exact absurd (update_close hc hquiet h.run hlimit (not_lt.mp hdue)).1 hnext.goesOn

theorem OpenUntil.stillOpen (hc : EndsQuietly c)
    (hlimit : off.addSeconds EXPIRY_GRACE_SEC = .ok limit) (h : OpenUntil c off p)
    (hreach : Reaches c p q) : StillOpen c off p q := by
  induction hreach with
  | refl =>
    have hfirst := h.first
    exact ⟨rfl, rfl, h.run, by linarith⟩
  | tail hreach hnext ih => exact ih.next hc hlimit (h.quiet _ hreach) hnext

theorem exists_clock {x : ℤ} (hcal : off.addSeconds 11 = .ok limit) (t : DateTime)
    (hle : t.micros ≤ x) (h : (x : ℚ) / 1000000 < closeTime off + 1) :
    ∃ u : DateTime, u.micros = x := by
  have hmicros := DateTime.addSeconds_eq_ok.mp hcal
  have hlo := t.lo
  have hhi := limit.hi
  have hsum : closeTime off + 1 = ((off.micros + 11 * 1000000 : ℤ) : ℚ) / 1000000 := by
    unfold closeTime seconds EXPIRY_GRACE_SEC
    push_cast
    ring
  rw [hsum, div_lt_div_iff_of_pos_right (by norm_num)] at h
  have hlt : x < off.micros + 11 * 1000000 := by exact_mod_cast h
  exact ⟨⟨x, by omega, by omega⟩, rfl⟩

/-- As long as the ticks are before the auto-close, the updates follow them. -/
theorem exists_reaches (hc : EndsQuietly c) (hcal : off.addSeconds 11 = .ok limit)
    {grace : DateTime} (hgrace : off.addSeconds EXPIRY_GRACE_SEC = .ok grace)
    (h : OpenUntil c off p) (n : ℕ)
    (hbefore : ∀ k < n, (tick p.setup.coordinator.pollWatering (closeTime off))^[k]
      (seconds p.clock) < closeTime off) :
    ∃ q, Reaches c p q ∧ seconds q.clock =
      (tick p.setup.coordinator.pollWatering (closeTime off))^[n] (seconds p.clock) := by
  induction n with
  | zero => exact ⟨p, .refl, rfl⟩
  | succ n ih =>
    obtain ⟨q, hreach, hq⟩ := ih fun k hk => hbefore k (Nat.lt_succ_of_lt hk)
    have hstill := h.stillOpen hc hgrace hreach
    have hdue : seconds q.clock < closeTime off := hq ▸ hbefore n (Nat.lt_succ_self n)
    obtain ⟨hopen, -, hinterval⟩ := update_open (h.quiet q hreach) hstill.run hgrace hdue
    set x : ℤ := q.clock.micros + (q.updated c).coordinator.updateInterval * 1000000 with hx
    have hnext : (x : ℚ) / 1000000 =
        tick p.setup.coordinator.pollWatering (closeTime off) (seconds q.clock) := by
      rw [hx, hinterval, ← hstill.pollWatering]
      unfold tick seconds
      push_cast
      ring
    have hsoon : (x : ℚ) / 1000000 < closeTime off + 1 := by
      rw [hnext]
      exact tick_lt hdue
    obtain ⟨u, hu⟩ := exists_clock hcal q.clock (by omega) hsoon
    refine ⟨⟨q.updated c, u⟩, hreach.tail ⟨hopen, rfl, hu⟩, ?_⟩
    rw [Function.iterate_succ_apply', ← hq, ← hnext, ← hu]
    rfl

theorem landsOnClose (hc : EndsQuietly c) (hcal : off.addSeconds 11 = .ok limit)
    (h : OpenUntil c off p) : LandsOnClose c off p := by
  have hmicros := DateTime.addSeconds_eq_ok.mp hcal
  obtain ⟨grace, hgrace⟩ : ∃ grace, off.addSeconds EXPIRY_GRACE_SEC = .ok grace := by
    have hlo := off.lo
    have hhi := limit.hi
    exact ⟨⟨off.micros + 10 * 1000000, by omega, by omega⟩, DateTime.addSeconds_eq_ok.mpr rfl⟩
  refine ⟨?_, ?_, ?_⟩
  · intro q hreach
    have hstill := h.stillOpen hc hgrace hreach
    by_cases hdue : seconds q.clock < closeTime off
    · obtain ⟨-, -, hinterval⟩ := update_open (h.quiet q hreach) hstill.run hgrace hdue
      rw [hinterval]
      exact one_le_nextInterval (hstill.pollWatering ▸ h.pollWatering) _
    · obtain ⟨-, -, hinterval⟩ :=
        update_close hc (h.quiet q hreach) hstill.run hgrace (not_lt.mp hdue)
      rw [hinterval]
      exact hstill.pollIdle ▸ h.pollIdle
  · obtain ⟨n, hbefore, hland, -⟩ := exists_landing h.pollWatering h.first
    obtain ⟨q, hreach, hq⟩ := exists_reaches hc hcal hgrace h n hbefore
    have hstill := h.stillOpen hc hgrace hreach
    obtain ⟨hfinishes, hclosed, -⟩ :=
      update_close hc (h.quiet q hreach) hstill.run hgrace (hq ▸ hland)
    exact ⟨q, hreach, hfinishes, hclosed⟩
  · intro q hreach hfinishes
    have hstill := h.stillOpen hc hgrace hreach
    refine ⟨?_, hstill.soon⟩
    by_contra hdue
    exact (update_open (h.quiet q hreach) hstill.run hgrace (not_le.mp hdue)).1 hfinishes

end Run

/-! ## Both families -/

theorem endsQuietly_protobuf (replies : ℕ → Reply) (utcOffset : UtcOffset) :
    EndsQuietly (protobufClass replies utcOffset) where
  returns := Returns.pure
  keeps := Moves.pure ()

theorem endsQuietly_mesh (replies : ℕ → Reply) : EndsQuietly (meshClass replies) where
  returns := Returns.modify _
  keeps := Moves.modify fun _ => rfl

/-- The cadence of either family lands on the auto-close. -/
theorem cadence_lands_on_close (replies : ℕ → Reply) (utcOffset : UtcOffset) {off limit : DateTime}
    (hcal : off.addSeconds 11 = .ok limit) :
    (∀ p, OpenUntil (protobufClass replies utcOffset) off p →
      LandsOnClose (protobufClass replies utcOffset) off p) ∧
    (∀ p, OpenUntil (meshClass replies) off p → LandsOnClose (meshClass replies) off p) :=
  ⟨fun _ h => landsOnClose (endsQuietly_protobuf replies utcOffset) hcal h,
    fun _ h => landsOnClose (endsQuietly_mesh replies) hcal h⟩

section Mesh

variable {replies : ℕ → Reply} {off grace : DateTime} {p q : Due Ht25Device}

theorem quiet_mesh (h : p.setup.world.dev.state.isWatering = true) :
    p.Quiet (meshClass replies) :=
  ⟨p.world, run_refreshState_mesh replies h, rfl, rfl⟩

theorem openUntil_mesh (hgrace : off.addSeconds EXPIRY_GRACE_SEC = .ok grace)
    (hidle : 1 ≤ p.setup.coordinator.pollIdle) (hwatering : 1 ≤ p.setup.coordinator.pollWatering)
    (hrun : p.setup.world.dev.state.run = ⟨true, some off⟩)
    (hfirst : seconds p.clock < closeTime off) : OpenUntil (meshClass replies) off p where
  pollIdle := hidle
  pollWatering := hwatering
  run := hrun
  first := hfirst
  quiet q hreach := by
    have hstill : StillOpen (meshClass replies) off p q := by
      induction hreach with
      | refl => exact ⟨rfl, rfl, hrun, by linarith⟩
      | tail _ hnext ih =>
        exact ih.next (endsQuietly_mesh replies) hgrace
          (quiet_mesh (congrArg RunView.isWatering ih.run)) hnext
    exact quiet_mesh (congrArg RunView.isWatering hstill.run)

/-- An off time whose grace is beyond the calendar raises in every update. -/
theorem asyncUpdateData_overflow {e : PyErr} (hgrace : off.addSeconds EXPIRY_GRACE_SEC = .error e)
    (hrun : p.setup.world.dev.state.run = ⟨true, some off⟩) :
    (meshClass replies).asyncUpdateData p.setup.coordinator p.world = .error e p.world := by
  have hflag : p.world.dev.state.isWatering = true := congrArg RunView.isWatering hrun
  have hoff : p.world.dev.state.expectedOffAt = some off := congrArg RunView.expectedOffAt hrun
  have hrefresh : (tryCatch (meshClass replies).refreshState fun _ => throw .updateFailed)
      p.world = .ok () p.world := by
    rw [run_tryCatch, run_refreshState_mesh replies hflag]
  have hclose : (meshClass replies).autoClose p.world = .error e p.world :=
    (run_autoClose_timed hflag hoff).trans (run_closeIfOverdue_error hgrace)
  rw [DeviceClass.asyncUpdateData, run_bind_ok hrefresh, run_bind_error hclose]

theorem run_reaches_overflow {e : PyErr} (hgrace : off.addSeconds EXPIRY_GRACE_SEC = .error e)
    (hrun : p.setup.world.dev.state.run = ⟨true, some off⟩)
    (hreach : Reaches (meshClass replies) p q) :
    q.setup.world.dev.state.run = ⟨true, some off⟩ := by
  induction hreach with
  | refl => exact hrun
  | @tail q r _ hnext ih =>
    have hraises : (meshClass replies).asyncUpdateData q.setup.coordinator q.world =
        .error e q.world :=
      asyncUpdateData_overflow hgrace ih
    have hsame : q.updated (meshClass replies) = ⟨q.setup.coordinator, q.world⟩ := by
      unfold Due.world at hraises
      unfold Due.updated Setup.update
      rw [hraises]
      rfl
    rw [hnext.setup, hsame]
    exact ih

/-- A mesh device with an open run, and its first update at the epoch. -/
def openMesh (off : DateTime) : Due Ht25Device where
  setup := ⟨{}, {
    dev := { freshHt25 with state := { isWatering := true, expectedOffAt := some off } }
    clock := .epoch }⟩
  clock := .epoch

/-- An off time half a second after a tick. -/
theorem cadence_lands_on_close_halfSecond :
    LandsOnClose (meshClass fun _ => { clock := .epoch }) ⟨100500000, by decide, by decide⟩
      (openMesh ⟨100500000, by decide, by decide⟩) := by
  have hcal : DateTime.addSeconds ⟨100500000, by decide, by decide⟩ 11 =
      .ok ⟨111500000, by decide, by decide⟩ :=
    DateTime.addSeconds_eq_ok.mpr rfl
  have hgrace : DateTime.addSeconds ⟨100500000, by decide, by decide⟩ EXPIRY_GRACE_SEC =
      .ok ⟨110500000, by decide, by decide⟩ :=
    DateTime.addSeconds_eq_ok.mpr rfl
  refine (cadence_lands_on_close (fun _ => { clock := .epoch }) .utc hcal).2 _
    (openUntil_mesh hgrace (by decide) (by decide) rfl ?_)
  norm_num [seconds, closeTime, openMesh, DateTime.epoch, EXPIRY_GRACE_SEC]

/-- A run which is to end with the calendar is never closed: every update raises. -/
theorem cadence_never_closes :
    OpenUntil (meshClass fun _ => { clock := .epoch }) ⟨maxMicros, by decide, by decide⟩
        (openMesh ⟨maxMicros, by decide, by decide⟩) ∧
      ¬ LandsOnClose (meshClass fun _ => { clock := .epoch }) ⟨maxMicros, by decide, by decide⟩
        (openMesh ⟨maxMicros, by decide, by decide⟩) := by
  have hgrace : DateTime.addSeconds ⟨maxMicros, by decide, by decide⟩ EXPIRY_GRACE_SEC =
      .error .overflowError := by
    rfl
  have hopen : ∀ q, Reaches (meshClass fun _ => { clock := .epoch })
      (openMesh ⟨maxMicros, by decide, by decide⟩) q →
      q.setup.world.dev.state.run = ⟨true, some ⟨maxMicros, by decide, by decide⟩⟩ := fun q hreach =>
    run_reaches_overflow hgrace rfl hreach
  refine ⟨⟨by decide, by decide, rfl, ?_, fun q hreach => ?_⟩, fun hlands => ?_⟩
  · norm_num [seconds, closeTime, openMesh, DateTime.epoch, EXPIRY_GRACE_SEC, maxMicros]
  · exact quiet_mesh (congrArg RunView.isWatering (hopen q hreach))
  · obtain ⟨q, hreach, ⟨u, w, hok, -⟩, -⟩ := hlands.closes
    rw [asyncUpdateData_overflow hgrace (hopen q hreach)] at hok
    cases hok

end Mesh

end OrbitBhyve.Coordinator
