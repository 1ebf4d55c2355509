import OrbitBhyve.Devices.Echoes
import OrbitBhyve.Devices.FlowCoverage

/-!
# One renewal loop

`_gen1_renewal_loop` is a task among the others, rounds with their times, and a
body which writes a subscription. It is one loop: what happens in a round resumes
the task, which goes on where the round does and ends with the last of them, and
the end of its `send` is that of the body.
-/

namespace OrbitBhyve.Devices

open Foundation Python Wire

/-- `while waited < deadline`, for the task alone. -/
def Renewal.again (t : Renewal) : Option Renewal :=
  if t.waited < t.durationSec + GEN1_HOLD_GRACE_SEC then some { t with stage := .sleeping }
  else none

/-- A round which the task has slept through. -/
def Renewal.slept (t : Renewal) : Renewal := { t with waited := t.waited + GEN1_RENEW_SEC }

/-- The loop goes on after such an end of its `send`. -/
def SendEnd.caught : SendEnd → Bool
  | .sent | .failed => true
  | .raised => false

/-- What happens to the task of a run in a round. -/
def RenewalRound.events (watering : ℤ → Bool) (name : ℕ) (r : RenewalRound) (now : ℤ) :
    List FlowEvent :=
  let awake := now + GEN1_RENEW_SEC * 1000 + r.late
  [.watering (watering awake), .renewal name .slept] ++
    match r.lockWait with
    | none => [.renewal name .busy]
    | some wait =>
      [.watering (watering (awake + wait)), .renewal name .locked, .renewal name (.sent r.sendEnd)]

/-- The rounds of a loop with the times they are begun at. -/
def renewalRounds (watering : ℤ → Bool) (deadline : ℤ) (rounds : ℕ → RenewalRound) (k : ℕ)
    (waited now : ℤ) : List (RenewalRound × ℤ) :=
  if waited < deadline then
    (rounds k, now) ::
      match ((rounds k).run watering now).2 with
      | some next => renewalRounds watering deadline rounds (k + 1) (waited + GEN1_RENEW_SEC) next
      | none => []
  else []
termination_by (deadline - waited).toNat
decreasing_by
  simp only [GEN1_RENEW_SEC]
  omega

/-- The attempts of a loop are those of its rounds, and one more where it is left. -/
theorem gen1RenewalLoop_eq (watering : ℤ → Bool) (deadline : ℤ) (rounds : ℕ → RenewalRound) (k : ℕ)
    (waited now : ℤ) :
    gen1RenewalLoop watering deadline rounds k waited now =
      (renewalRounds watering deadline rounds k waited now).flatMap fun p =>
        (p.1.run watering p.2).1 :: if (p.1.run watering p.2).2.isSome then [] else [none] := by
  induction k, waited, now using gen1RenewalLoop.induct watering deadline rounds with
  | case1 k waited now hwaited attempt next hrun ih =>
    rw [renewalRounds, if_pos hwaited, gen1RenewalLoop_next hwaited hrun, ih, List.flatMap_cons,
      hrun]
    rfl
  | case2 k waited now hwaited attempt hrun =>
    rw [renewalRounds, if_pos hwaited, gen1RenewalLoop_left hwaited hrun, List.flatMap_cons, hrun]
    rfl
  | case3 k waited now hwaited =>
    rw [renewalRounds, if_neg hwaited, gen1RenewalLoop_over hwaited]
    rfl

/-- A round goes on from a lock which it did not get, or from a `send` which it has caught the
end of. -/
theorem RenewalRound.isSome_run (watering : ℤ → Bool) (r : RenewalRound) (now : ℤ) :
    (r.run watering now).2.isSome =
      (watering (now + GEN1_RENEW_SEC * 1000 + r.late) &&
        match r.lockWait with
        | none => true
        | some wait =>
          watering (now + GEN1_RENEW_SEC * 1000 + r.late + wait) && r.sendEnd.caught) := by
  rw [RenewalRound.run]
  dsimp only
  cases watering (now + GEN1_RENEW_SEC * 1000 + r.late) with
  | false => rfl
  | true =>
    cases r.lockWait with
    | none => rfl
    | some wait =>
      dsimp only
      rw [if_pos rfl, Bool.true_and]
      cases watering (now + GEN1_RENEW_SEC * 1000 + r.late + wait) with
      | false => rfl
      | true => cases r.sendEnd <;> rfl

namespace Measuring

variable {S : Connection.Setting} {s : Measuring} {t u : Renewal}

def task (s : Measuring) (name : ℕ) : Option Renewal := s.renewals.find? fun t => t.run = name

/-- The task of a run is suspended at a stage, and nobody has the lock. -/
structure Waits (s : Measuring) (t : Renewal) (stage : RenewalStage) : Prop where
  alive : s.task t.run = some t
  stage_eq : t.stage = stage
  kept : t.cancelled = false
  free : s.apiLock = none

/-! ## A step of the task -/

theorem task_setRenewal (h : s.task t.run = some u) : (s.setRenewal t).task t.run = some t := by
  unfold task setRenewal at *
  generalize s.renewals = renewals at *
  induction renewals with
  | nil => cases h
  | cons v renewals ih =>
    rw [List.map_cons, List.find?_cons]
    rw [List.find?_cons] at h
    by_cases hv : v.run = t.run
    · rw [if_pos hv, decide_eq_true rfl]
    · rw [decide_eq_false hv] at h
      rw [if_neg hv, decide_eq_false hv]
      exact ih h

theorem task_dropRenewal (s : Measuring) (t : Renewal) : (s.dropRenewal t).task t.run = none := by
  refine List.find?_eq_none.mpr fun v hv => ?_
  have hother := (List.mem_filter.mp hv).2
  simpa using hother

theorem task_endRenewal (s : Measuring) (t : Renewal) : (s.endRenewal S t).task t.run = none :=
  task_dropRenewal s t

theorem task_loop (h : s.task t.run = some u) : (s.loop S t).task t.run = t.again := by
  unfold loop Renewal.again
  split_ifs
  · exact task_setRenewal (t := { t with stage := .sleeping }) h
  · exact task_endRenewal s t

theorem apiLock_loop : (s.loop S t).apiLock = s.apiLock := by
  unfold loop
  split_ifs <;> rfl

theorem step_renewal {name : ℕ} (h : s.task name = some t) (w : Wake) :
    s.step S (.renewal name w) = s.resume S t w := by
  unfold task at h
  rw [step, h]

theorem step_renewal_of_none {name : ℕ} (h : s.task name = none) (w : Wake) :
    s.step S (.renewal name w) = s := by
  unfold task at h
  rw [step, h]

theorem resume_of_kept (h : t.cancelled = false) (w : Wake) :
    s.resume S t w = match t.stage, w with
      | .created, .slept => s.loop S t
      | .sleeping, .slept => s.awake S t
      | .acquiring, .busy => s.loop S t
      | .acquiring, .locked => if s.apiLock.isSome then s else s.renew S t
      | .sending, .sent e => s.renewed S t e
      | _, _ => s := by
  unfold resume
  exact if_neg (h ▸ Bool.false_ne_true)

theorem Waits.task_slept (h : s.Waits t .sleeping) :
    s.isWatering = false ∧ (s.step S (.renewal t.run .slept)).apiLock = none ∧
        (s.step S (.renewal t.run .slept)).task t.run = none ∨
      s.isWatering = true ∧
        (s.step S (.renewal t.run .slept)).Waits { t.slept with stage := .acquiring } .acquiring := by
  rw [step_renewal h.alive, resume_of_kept h.kept, h.stage_eq]
  dsimp only
  rw [awake]
  cases hwatering : s.isWatering with
  | false => exact .inl ⟨rfl, h.free, task_dropRenewal s t⟩
  | true =>
    have halive := task_setRenewal (t := { t.slept with stage := .acquiring }) h.alive
    exact .inr ⟨rfl, halive, rfl, h.kept, h.free⟩

theorem Waits.task_busy (h : s.Waits t .acquiring) :
    (s.step S (.renewal t.run .busy)).apiLock = none ∧
      (s.step S (.renewal t.run .busy)).task t.run = t.again := by
  rw [step_renewal h.alive, resume_of_kept h.kept, h.stage_eq]
  exact ⟨apiLock_loop.trans h.free, task_loop h.alive⟩

/-- With the lock it ends if the run is over or its `send` raises, and else goes on. -/
theorem Waits.task_sent (h : s.Waits t .acquiring) (e : SendEnd) :
    let s' := run (step S) s [.renewal t.run .locked, .renewal t.run (.sent e)]
    s'.apiLock = none ∧ s'.task t.run = if s.isWatering && e.caught then t.again else none := by
  dsimp only
  rw [run_cons, run_cons, run_nil, step_renewal h.alive, resume_of_kept h.kept, h.stage_eq, h.free]
  dsimp only
  rw [Option.isSome_none, if_neg Bool.false_ne_true, renew]
  cases s.isWatering with
  | false =>
    rw [if_neg Bool.false_ne_true, step_renewal_of_none (task_endRenewal s t)]
    exact ⟨h.free, task_endRenewal s t⟩
  | true =>
    rw [if_pos rfl]
    set sending : Renewal := { t with stage := .sending }
    set s₁ := (s.setRenewal sending).withLock (some (.renewal t.run))
    have halive : s₁.task t.run = some sending := task_setRenewal (t := sending) h.alive
    have hkept : sending.cancelled = false := h.kept
    rw [step_renewal halive, resume_of_kept hkept]
    have hlock : (s₁.withLock none).apiLock = none := rfl
    cases e with
    | raised => exact ⟨rfl, task_endRenewal (s₁.withLock none) sending⟩
    | sent => exact ⟨apiLock_loop.trans hlock, task_loop (t := sending) halive⟩
    | failed => exact ⟨apiLock_loop.trans hlock, task_loop (t := sending) halive⟩

/-! ## Rounds -/

theorem Waits.watering {stage : RenewalStage} (h : s.Waits t stage) (b : Bool) :
    (s.step S (.watering b)).Waits t stage :=
  ⟨h.alive, h.stage_eq, h.kept, h.free⟩

/-- Nothing resumes a task which has ended. -/
theorem task_run_of_none {name : ℕ} (htask : s.task name = none) (hfree : s.apiLock = none)
    {es : List FlowEvent} (hes : ∀ e ∈ es, (∃ b, e = .watering b) ∨ ∃ w, e = .renewal name w) :
    (run (step S) s es).apiLock = none ∧ (run (step S) s es).task name = none := by
  induction es generalizing s with
  | nil => exact ⟨hfree, htask⟩
  | cons e es ih =>
    obtain ⟨he, hrest⟩ := List.forall_mem_cons.mp hes
    rw [run_cons]
    obtain ⟨b, rfl⟩ | ⟨w, rfl⟩ := he
    · exact ih htask hfree hrest
    · rw [step_renewal_of_none htask]
      exact ih htask hfree hrest

/-- The task goes on after a round exactly if the round does, and there is time left. -/
theorem Waits.task_round (h : s.Waits t .sleeping) (watering : ℤ → Bool) (r : RenewalRound)
    (now : ℤ) :
    let s' := run (step S) s (r.events watering t.run now)
    s'.apiLock = none ∧
      s'.task t.run = if (r.run watering now).2.isSome then t.slept.again else none := by
  dsimp only
  rw [RenewalRound.isSome_run, RenewalRound.events]
  generalize now + GEN1_RENEW_SEC * 1000 + r.late = awake
  rw [run_append, run_cons, run_cons, run_nil]
  obtain ⟨hover, hfree, hended⟩ | ⟨hrunning, hacquires⟩ :=
    (h.watering (S := S) (watering awake)).task_slept (S := S)
  · have hover : watering awake = false := hover
    have hevents : ∀ e ∈ (match r.lockWait with
        | none => [.renewal t.run .busy]
        | some wait =>
          [.watering (watering (awake + wait)), .renewal t.run .locked,
            .renewal t.run (.sent r.sendEnd)] : List FlowEvent),
        (∃ b, e = .watering b) ∨ ∃ w, e = .renewal t.run w := by
      cases r.lockWait <;> simp
    have hrest := task_run_of_none (S := S) hended hfree hevents
    rw [hover, Bool.false_and]
    rw [hover] at hrest
    exact hrest
  · have hrunning : watering awake = true := hrunning
    rw [hrunning, Bool.true_and]
    rw [hrunning] at hacquires
    cases r.lockWait with
    | none => exact hacquires.task_busy
    | some wait => exact (hacquires.watering (watering (awake + wait))).task_sent r.sendEnd

/-- After the last round of a loop its task has ended. -/
theorem task_run_renewalRounds (watering : ℤ → Bool) (rounds : ℕ → RenewalRound) {deadline : ℤ}
    (k : ℕ) (waited now : ℤ) (hleft : waited < deadline) (h : s.Waits t .sleeping)
    (hwaited : t.waited = waited) (hdeadline : t.durationSec + GEN1_HOLD_GRACE_SEC = deadline) :
    (run (step S) s ((renewalRounds watering deadline rounds k waited now).flatMap fun p =>
      p.1.events watering t.run p.2)).task t.run = none := by
  induction k, waited, now using gen1RenewalLoop.induct watering deadline rounds
    generalizing s t with
  | case1 k waited now hwaited' attempt next hrun ih =>
    obtain ⟨hfree, htask⟩ := h.task_round (S := S) watering (rounds k) now
    rw [renewalRounds, if_pos hwaited', hrun, List.flatMap_cons, run_append]
    rw [hrun, Option.isSome_some, if_pos rfl, Renewal.again] at htask
    have hslept : t.slept.waited = waited + GEN1_RENEW_SEC := by
      rw [← hwaited]
      rfl
    have hsame : t.slept.durationSec + GEN1_HOLD_GRACE_SEC = deadline := hdeadline
    by_cases hagain : waited + GEN1_RENEW_SEC < deadline
    · rw [if_pos (by rwa [hslept, hsame])] at htask
      exact ih (t := { t.slept with stage := .sleeping }) hagain ⟨htask, rfl, h.kept, hfree⟩ hslept
        hsame
    · rw [if_neg (by rwa [hslept, hsame])] at htask
      have hdone : renewalRounds watering deadline rounds (k + 1) (waited + GEN1_RENEW_SEC) next =
          [] := by
        rw [renewalRounds, if_neg hagain]
      dsimp only
      rw [hdone]
      exact htask
  | case2 k waited now hwaited' attempt hrun =>
    obtain ⟨-, htask⟩ := h.task_round (S := S) watering (rounds k) now
    rw [renewalRounds, if_pos hwaited', hrun, List.flatMap_cons, run_append]
    rw [hrun, Option.isSome_none, if_neg Bool.false_ne_true] at htask
    exact htask
  | case3 k waited now hover => exact absurd hleft hover

/-! ## The body -/

def subscriptionEnd (R : Radio Ht25Device) (w : World Ht25Device) : SendEnd :=
  match (do
    let frame ← raising w.dev.flowSubscribeFrame
    meshSend R frame : MeshTask ℕ) w with
  | .ok _ _ => .sent
  | .error e _ => if PyErr.isGattError e then .failed else .raised

/-- The body returns unless its `send` raises, and subscribes only while the run is on. -/
theorem isOk_renewGen1Flow (R : Radio Ht25Device) (w : World Ht25Device) :
    (result (renewGen1Flow R) w).isOk =
      (!w.dev.state.isWatering || (subscriptionEnd R w).caught) := by
  rw [result, renewGen1Flow, run_bind_ok (run_getDev w)]
  cases w.dev.state.isWatering with
  | false => rfl
  | true =>
    rw [run_onlyIf_true, run_tryCatch, subscriptionEnd]
    simp only [run_bind]
    cases (raising w.dev.flowSubscribeFrame : MeshTask Bytes) w with
    | error e w' => cases hgatt : PyErr.isGattError e <;> simp [hgatt] <;> rfl
    | ok frame w' =>
      cases hsend : meshSend R frame w' with
      | ok n w'' => simp [hsend]; rfl
      | error e w'' => cases hgatt : PyErr.isGattError e <;> simp [hsend, hgatt] <;> rfl

/-- With the lock, the task goes on exactly if the run is on and the body returns. -/
theorem Waits.task_renewGen1Flow (h : s.Waits t .acquiring) (R : Radio Ht25Device)
    {w : World Ht25Device} (hwatering : s.isWatering = w.dev.state.isWatering) :
    (run (step S) s
        [.renewal t.run .locked, .renewal t.run (.sent (subscriptionEnd R w))]).task t.run =
      if w.dev.state.isWatering && (result (renewGen1Flow R) w).isOk then t.again else none := by
  rw [(h.task_sent (subscriptionEnd R w)).2, isOk_renewGen1Flow, hwatering]
  cases w.dev.state.isWatering <;> rfl

end Measuring
end OrbitBhyve.Devices
