import OrbitBhyve.Connection.Tasks

/-!
# Held sessions and the idle machinery

`hold_open` disarms the idle timer, which then stays disarmed for as long as the
session is held. An `_idle_close` which the timer has created before waits for
the lock, and does not look at the hold when it gets it.
-/

namespace OrbitBhyve.Connection
namespace Link

open Foundation Python Wire

def isIdleClosing (s : Link) : Bool :=
  match s.holder with
  | some (.idleClosing _) => true
  | _ => false

def inIdleClose (s : Link) (e : Event) : Bool :=
  match e with
  | .idleCloseRuns => s.holder.isNone && decide (0 < s.idleCloses) && s.isConnected
  | .resume _ => s.isIdleClosing
  | _ => false

/-- No `_idle_close` disconnects a held session. -/
def KeepsHold (s : Link) (e : Event) : Prop := s.inIdleClose e = true → s.held = false

/-- No `_idle_close` has been created which has not ended yet. -/
def NoIdleClose (s : Link) : Prop := s.idleCloses = 0 ∧ s.isIdleClosing = false

/-- Under a hold the idle machinery is at rest. -/
def HoldAlone (s : Link) : Prop := s.held = true → s.idleTimer = false ∧ s.NoIdleClose

def HoldsAtRest (s : Link) (e : Event) : Prop :=
  match e with
  | .holdOpen => s.NoIdleClose
  | _ => True

instance (s : Link) : Decidable s.NoIdleClose := inferInstanceAs (Decidable (_ ∧ _))

instance (s : Link) (e : Event) : Decidable (s.HoldsAtRest e) :=
  match e with
  | .holdOpen => inferInstanceAs (Decidable s.NoIdleClose)
  | .call _ | .resume _ | .disconnect | .resumeDisconnect _ _ | .idleTimerFires | .idleCloseRuns
  | .release | .holdExpires | .linkLost _ | .inRange _ => .isTrue trivial

instance (s : Link) (e : Event) : Decidable (s.KeepsHold e) := inferInstanceAs (Decidable (_ → _))

theorem isIdleClosing_eq_false {s : Link} : s.isIdleClosing = false ↔ ¬ s.IdleClosing := by
  unfold isIdleClosing IdleClosing
  split
  · next t h => simp [h]
  · next h => simpa using fun t ht => h t ht

theorem holdAlone_of_not_held {s : Link} (h : s.held = false) : s.HoldAlone := fun hheld =>
  absurd (hheld.symm.trans h) (by decide)

def holdView (s : Link) : Bool × Bool × ℕ := (s.held, s.idleTimer, s.idleCloses)

theorem HoldAlone.of_within {s₀ s s' : Link} (h : Within s₀ s') (hview : s₀.holdView = s.holdView)
    (hs : s.HoldAlone) : s'.HoldAlone := by
  intro hheld
  simp only [holdView, Prod.mk.injEq] at hview
  obtain ⟨hheld₀, htimer₀⟩ := h.held hheld
  obtain ⟨htimer, hidle, -⟩ := hs (hview.1 ▸ hheld₀)
  exact ⟨(htimer₀.trans hview.2.1).trans htimer, h.idleCloses.trans (hview.2.2.trans hidle),
    isIdleClosing_eq_false.mpr h.holder⟩

theorem holdView_resumeDisconnect (s : Link) (t : Teardown) (o : Outcome) :
    (s.resumeDisconnect t o).1.holdView = s.holdView := by
  cases t with
  | stopping => unfold resumeDisconnect; cases s.client <;> rfl
  | closing c => cases o <;> rfl

theorem holder_resumeDisconnect (s : Link) (t : Teardown) (o : Outcome) :
    (s.resumeDisconnect t o).1.holder = s.holder := by
  cases t with
  | stopping => unfold resumeDisconnect; cases s.client <;> rfl
  | closing c => cases o <;> rfl

theorem held_beginDisconnect (s : Link) : s.beginDisconnect.1.held = false :=
  beginDisconnect_fst.2.2.2.2.2

section Step

variable {S : Setting} {s : Link}

theorem HoldAlone.resumeOpening (h : s.HoldAlone) (job : Job) (attempt : ℕ) (stage : Stage)
    (o : Outcome) : (s.resumeOpening S job attempt stage o).HoldAlone := by
  by_cases hdisc : ∃ t, stage = .disconnecting t
  · obtain ⟨t, rfl⟩ := hdisc
    have hview := holdView_resumeDisconnect s t o
    unfold Link.resumeOpening
    dsimp only
    cases hr : s.resumeDisconnect t o with
    | mk s' t' =>
      rw [hr] at hview
      cases t' with
      | none => exact h.of_within within_tornDown hview
      | some t' => exact h.of_within (within_atStage _) hview
  · have hnot : ∀ t, stage ≠ .disconnecting t := fun t ht => hdisc ⟨t, ht⟩
    by_cases hconn : stage = .connecting ∧ ∃ rx, o = .done rx
    · obtain ⟨rfl, rx, rfl⟩ := hconn
      change (s.connected S job attempt).HoldAlone
      unfold connected
      dsimp only
      split_ifs
      · exact h.of_within (within_atStage _) rfl
      · exact h.of_within within_beginHandshake rfl
    · exact h.of_within (within_resumeOpening (fun hs rx ho => hconn ⟨hs, rx, ho⟩) hnot) rfl

theorem HoldAlone.resume (h : s.HoldAlone) (o : Outcome) : (s.resume S o).HoldAlone := by
  unfold Link.resume
  cases hholder : s.holder with
  | none => exact h
  | some holder =>
    cases holder with
    | opening job attempt stage => exact h.resumeOpening job attempt stage o
    | hooking job steps =>
      dsimp only
      split
      · exact h.of_within (within_hookNext _) rfl
      · exact h.of_within (within_finish _) rfl
    | refreshing plaintext steps =>
      dsimp only
      split
      · exact h.of_within (within_refreshNext _) rfl
      · exact h.of_within (within_finish _) rfl
      · have hwithin : Within s.beginDisconnect.1
            (reopen S plaintext s.beginDisconnect) :=
          within_reopen_fst _
        exact (holdAlone_of_not_held (held_beginDisconnect s)).of_within hwithin rfl
    | reopening plaintext t =>
      exact h.of_within (within_reopen_fst (s := (s.resumeDisconnect t o).1) _)
        (holdView_resumeDisconnect s t o)
    | commanding =>
      dsimp only
      split
      · exact h.of_within within_commandDone rfl
      · exact h.of_within (within_finish _) rfl
    | idleClosing t =>
      -- it was not held before, and no `disconnect` takes a hold
      have hnot : s.held = false := by
        cases hheld : s.held with
        | false => rfl
        | true => exact absurd (h hheld).2.2 (by simp [isIdleClosing, hholder])
      have hview := congrArg Prod.fst (holdView_resumeDisconnect s t o)
      dsimp only
      cases hr : s.resumeDisconnect t o with
      | mk s' t' =>
        rw [hr] at hview
        have hnot' : s'.held = false := hview.trans hnot
        cases t' with
        | none => exact holdAlone_of_not_held hnot'
        | some t' => exact holdAlone_of_not_held hnot'

theorem held_idleClose (h : s.held = false) : s.idleClose.held = false := by
  unfold idleClose
  dsimp only
  split
  · split
    · next s' t hr => exact (congrArg (fun r => r.1.held) hr).symm.trans (held_beginDisconnect _)
    · next s' hr => exact (congrArg (fun r => r.1.held) hr).symm.trans (held_beginDisconnect _)
  · exact h

theorem HoldAlone.release (h : s.HoldAlone) : (s.release S).HoldAlone := by
  unfold Link.release
  dsimp only
  split_ifs with hheld
  · refine holdAlone_of_not_held ?_
    unfold armIdleTimer
    split_ifs <;> rfl
  · exact h

/-- The step rule: a hold which is taken at rest leaves the idle machinery at rest. -/
theorem HoldAlone.step (h : s.HoldAlone) {e : Event} (hrest : s.HoldsAtRest e) :
    (s.step S e).HoldAlone := by
  cases e with
  | call job =>
    dsimp only [Link.step]
    split_ifs
    · exact h.of_within within_call rfl
    · exact h
  | resume o => exact h.resume o
  | disconnect =>
    have hheld := held_beginDisconnect s
    dsimp only [Link.step]
    cases hr : s.beginDisconnect with
    | mk s' t =>
      rw [hr] at hheld
      cases t with
      | none => exact holdAlone_of_not_held hheld
      | some t => exact holdAlone_of_not_held hheld
  | resumeDisconnect i o =>
    dsimp only [Link.step]
    cases s.teardowns[i]? with
    | none => exact h
    | some t =>
      have hview := holdView_resumeDisconnect s t o
      have hholder := holder_resumeDisconnect s t o
      dsimp only
      cases hr : s.resumeDisconnect t o with
      | mk s' t' =>
        rw [hr] at hview hholder
        simp only [holdView, Prod.mk.injEq] at hview
        have hclosing' : s'.isIdleClosing = s.isIdleClosing := by
          unfold isIdleClosing
          rw [show s'.holder = s.holder from hholder]
        have hs' : s'.HoldAlone := by
          intro hheld
          obtain ⟨htimer, hidle, hclosing⟩ := h (hview.1 ▸ hheld)
          exact ⟨hview.2.1.trans htimer, hview.2.2.trans hidle, hclosing'.trans hclosing⟩
        cases t' with
        | none => exact hs'
        | some t' => exact hs'
  | idleTimerFires =>
    dsimp only [Link.step]
    split_ifs with htimer
    · refine holdAlone_of_not_held ?_
      cases hheld : s.held with
      | false => rfl
      | true => exact absurd htimer (by rw [(h hheld).1]; decide)
    · exact h
  | idleCloseRuns =>
    dsimp only [Link.step]
    split_ifs with hrun
    · refine holdAlone_of_not_held (held_idleClose ?_)
      cases hheld : s.held with
      | false => rfl
      | true => exact absurd hrun.2 (by rw [(h hheld).2.1]; decide)
    · exact h
  | holdOpen => exact fun _ => ⟨rfl, hrest⟩
  | release => exact h.release
  | holdExpires =>
    dsimp only [Link.step]
    split_ifs
    · exact h.release
    · exact h
  | linkLost c => exact h
  | inRange b => exact h

theorem HoldAlone.keepsHold (h : s.HoldAlone) (e : Event) : s.KeepsHold e := by
  intro hcloses
  cases hheld : s.held with
  | false => rfl
  | true =>
    obtain ⟨-, hidle, hclosing⟩ := h hheld
    cases e <;> simp_all [inIdleClose]

end Step

/-! ## Runs -/

/-- In a run in which no hold is taken while an `_idle_close` is about, none closes a held
session. -/
theorem idleClose_keeps_hold (S : Setting) (magic tc : UInt8) (header : Option Bytes)
    (es : List Event) (h : StepsMeet (step S) HoldsAtRest (fresh magic tc header) es) :
    StepsMeet (step S) KeepsHold (fresh magic tc header) es :=
  h.of_invariant (fun _ _ hs hrest => HoldAlone.step hs hrest) (fun _ e hs _ => hs.keepsHold e)
    fun hheld => by cases hheld

/-- A session which is held between two commands. -/
def heldBetween : List Event :=
  opensAndWrites ++ [.resume (.done []), .resume (.done []), .holdOpen, .idleTimerFires,
    .call (.send [0x02]), .resume (.done []), .release, .idleTimerFires, .idleCloseRuns]

theorem idleClose_keeps_heldBetween :
    StepsMeet (step hookedSetting) KeepsHold plainLink heldBetween :=
  idleClose_keeps_hold hookedSetting 0x11 0x11 (some MSG_HEADER) heldBetween (by decide +kernel)

/-- The idle timer of one command fires within the next, which then takes a hold. -/
def heldAfter : List Event :=
  opensAndWrites ++ [.resume (.done []), .resume (.done []), .call (.sendActuation [0x02]),
    .idleTimerFires, .resume (.done []), .resume (.done []), .holdOpen]

/-- The `_idle_close` which has waited for the lock closes the held session. -/
theorem idleClose_closes_held :
    let s := run (step hookedSetting) plainLink heldAfter
    s.held = true ∧ s.isConnected = true ∧ s.inIdleClose .idleCloseRuns = true ∧
      (s.step hookedSetting .idleCloseRuns).isIdleClosing = true ∧
      ¬ StepsMeet (step hookedSetting) KeepsHold plainLink (heldAfter ++ [.idleCloseRuns]) :=
  ⟨by decide +kernel, by decide +kernel, by decide +kernel, by decide +kernel,
    by decide +kernel⟩

end Link
end OrbitBhyve.Connection
