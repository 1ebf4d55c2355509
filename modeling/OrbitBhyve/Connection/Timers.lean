import OrbitBhyve.Connection.Tasks

/-!
# The two timers of a connection

`hold_open` and `_arm_idle_timer` each keep the handle of a `call_later`, which
they cancel before they make the next one. A handle stays where it is kept after
its timer has run. The loop runs any of its pending timers at any time; what
`Connection.Tasks` keeps of the two is whether they are pending.
-/

namespace OrbitBhyve.Connection

open Foundation

inductive TimerKind where
  /-- It runs `_expire_hold`. -/
  | holdExpiry
  /-- It creates an `_idle_close` task. -/
  | idle
  deriving DecidableEq

/-- A timer of the loop, neither run nor cancelled. -/
structure Timer where
  handle : ℕ
  kind : TimerKind

/-- The attributes of a connection behind its hold, and the loop. Handles are numbered as they
are made. -/
structure Timers where
  held : Bool := false
  holdExpiry : Option ℕ := none
  idleTimer : Option ℕ := none
  pending : List Timer := []
  made : ℕ := 0

inductive TimerEvent where
  | holdOpen
  | release
  | armIdleTimer
  /-- A `disconnect`, up to its end; nothing else runs while it is suspended. -/
  | disconnect
  /-- The loop runs the pending timer of a handle. -/
  | fires (handle : ℕ)

namespace Timers

/-- `handle.cancel()`, unless the handle is `None`; one which has run stays as it is. -/
def cancel (handle : Option ℕ) (s : Timers) : Timers :=
  { s with pending := s.pending.filter fun t => some t.handle != handle }

/-- `loop.call_later(...)`, which returns the handle `made`. -/
def callLater (kind : TimerKind) (s : Timers) : Timers :=
  { s with pending := s.pending ++ [⟨s.made, kind⟩], made := s.made + 1 }

def holdOpen (s : Timers) : Timers :=
  let s := { s.cancel s.idleTimer with idleTimer := none }
  let s := { s.cancel s.holdExpiry with held := true }
  { s.callLater .holdExpiry with holdExpiry := some s.made }

def armIdleTimer (idleSec : ℤ) (s : Timers) : Timers :=
  if s.held then s
  else if idleSec ≤ 0 then s
  else
    let s := s.cancel s.idleTimer
    { s.callLater .idle with idleTimer := some s.made }

def release (idleSec : ℤ) (s : Timers) : Timers :=
  let s := { s.cancel s.holdExpiry with holdExpiry := none }
  if s.held then { s with held := false }.armIdleTimer idleSec else s

def disconnect (s : Timers) : Timers :=
  let s := { s with held := false }
  let s := { s.cancel s.holdExpiry with holdExpiry := none }
  { s.cancel s.idleTimer with idleTimer := none }

/-- A timer leaves the loop and runs. -/
def fire (idleSec : ℤ) (handle : ℕ) (s : Timers) : Timers :=
  match s.pending.find? fun t => t.handle == handle with
  | none => s
  | some t =>
    match t.kind with
    | .holdExpiry => (s.cancel (some handle)).release idleSec
    | .idle => s.cancel (some handle)

def step (idleSec : ℤ) (s : Timers) : TimerEvent → Timers
  | .holdOpen => s.holdOpen
  | .release => s.release idleSec
  | .armIdleTimer => s.armIdleTimer idleSec
  | .disconnect => s.disconnect
  | .fires handle => s.fire idleSec handle

/-! ## What is pending -/

def pendingOf (s : Timers) (kind : TimerKind) : List ℕ :=
  (s.pending.filter fun t => t.kind == kind).map Timer.handle

/-- The hold, the two attributes, and what is pending of either kind. -/
structure View where
  held : Bool
  holdExpiry : Option ℕ
  idleTimer : Option ℕ
  expiries : List ℕ
  idles : List ℕ

def view (s : Timers) : View where
  held := s.held
  holdExpiry := s.holdExpiry
  idleTimer := s.idleTimer
  expiries := s.pendingOf .holdExpiry
  idles := s.pendingOf .idle

/-- What is pending has its handle kept, and under a hold no idle timer is. -/
structure Tracked (v : View) : Prop where
  held : v.held = v.holdExpiry.isSome
  expiries : v.expiries.Sublist v.holdExpiry.toList
  idles : v.idles.Sublist v.idleTimer.toList
  heldIdle : v.held = true → v.idles = []

/-- The expiry of every hold is pending. -/
structure Consistent (v : View) : Prop extends Tracked v where
  pending : v.expiries = v.holdExpiry.toList

section View

variable {s : Timers} {kind : TimerKind} {handle : Option ℕ} (idleSec : ℤ)

@[simp] theorem pendingOf_cancel (handle : Option ℕ) (s : Timers) (kind : TimerKind) :
    (s.cancel handle).pendingOf kind = (s.pendingOf kind).filter fun h => some h != handle := by
  unfold pendingOf cancel
  dsimp only
  rw [List.filter_map, List.filter_filter, List.filter_filter]
  congr 1
  refine List.filter_congr fun t _ => ?_
  exact Bool.and_comm _ _

@[simp] theorem pendingOf_callLater (kind' : TimerKind) (s : Timers) (kind : TimerKind) :
    (s.callLater kind').pendingOf kind =
      s.pendingOf kind ++ if kind' = kind then [s.made] else [] := by
  unfold pendingOf callLater
  dsimp only
  rw [List.filter_append, List.map_append]
  by_cases h : kind' = kind
  · simp [h]
  · simp [h]

theorem eq_some_of_mem {hs : List ℕ} {k : ℕ} (h : hs.Sublist handle.toList) (hk : k ∈ hs) :
    handle = some k :=
  Option.mem_toList.mp (h.subset hk)

/-- Cancelling the kept handle leaves nothing of what it tracks. -/
theorem filter_eq_nil_of_sublist {hs : List ℕ} (h : hs.Sublist handle.toList) :
    hs.filter (fun k => some k != handle) = [] := by
  refine List.filter_eq_nil_iff.mpr fun k hk => ?_
  simp [eq_some_of_mem h hk]

theorem filter_expiries (h : Tracked s.view) :
    (s.pendingOf .holdExpiry).filter (fun k => some k != s.holdExpiry) = [] :=
  filter_eq_nil_of_sublist h.expiries

theorem filter_idles (h : Tracked s.view) :
    (s.pendingOf .idle).filter (fun k => some k != s.idleTimer) = [] :=
  filter_eq_nil_of_sublist h.idles

theorem view_holdOpen (h : Tracked s.view) :
    s.holdOpen.view = ⟨true, some s.made, none, [s.made], []⟩ := by
  have hexpiries : s.holdOpen.pendingOf .holdExpiry = [s.made] := by
    change (((s.cancel s.idleTimer).cancel s.holdExpiry).callLater .holdExpiry).pendingOf _ = _
    rw [pendingOf_callLater, pendingOf_cancel, pendingOf_cancel, List.filter_comm,
      filter_expiries h]
    rfl
  have hidles : s.holdOpen.pendingOf .idle = [] := by
    change (((s.cancel s.idleTimer).cancel s.holdExpiry).callLater .holdExpiry).pendingOf _ = _
    rw [pendingOf_callLater, pendingOf_cancel, pendingOf_cancel, filter_idles h]
    rfl
  unfold view
  rw [hexpiries, hidles]
  rfl

theorem Tracked.of_not_held {v : View} (h : Tracked v) (hheld : v.held = false) :
    v.holdExpiry = none ∧ v.expiries = [] := by
  have hnone : v.holdExpiry = none := by
    rw [← Option.isNone_iff_eq_none, ← Option.not_isSome, ← h.held, hheld]
    rfl
  exact ⟨hnone, List.sublist_nil.mp (by simpa [hnone] using h.expiries)⟩

theorem view_armIdleTimer (h : Tracked s.view) :
    (s.armIdleTimer idleSec).view =
      if s.held = true ∨ idleSec ≤ 0 then s.view else ⟨false, none, some s.made, [], [s.made]⟩ := by
  unfold armIdleTimer
  by_cases hheld : s.held = true
  · rw [if_pos hheld, if_pos (.inl hheld)]
  · by_cases hnever : idleSec ≤ 0
    · rw [if_neg hheld, if_pos hnever, if_pos (.inr hnever)]
    · have hfree : s.held = false := Bool.eq_false_iff.mpr hheld
      obtain ⟨hexpiry, hexpiries⟩ := h.of_not_held hfree
      have hexpiry : s.holdExpiry = none := hexpiry
      have hexpiries : s.pendingOf .holdExpiry = [] := hexpiries
      rw [if_neg hheld, if_neg hnever, if_neg (not_or.mpr ⟨hheld, hnever⟩)]
      have hidles : ((s.cancel s.idleTimer).callLater .idle).pendingOf .idle = [s.made] := by
        rw [pendingOf_callLater, pendingOf_cancel, filter_idles h]
        rfl
      have hexpiries' : ((s.cancel s.idleTimer).callLater .idle).pendingOf .holdExpiry = [] := by
        rw [pendingOf_callLater, pendingOf_cancel, hexpiries]
        rfl
      change View.mk s.held s.holdExpiry (some s.made)
        (((s.cancel s.idleTimer).callLater .idle).pendingOf .holdExpiry)
        (((s.cancel s.idleTimer).callLater .idle).pendingOf .idle) = _
      rw [hexpiries', hidles, hfree, hexpiry]

/-- A release leaves a free session alone, and puts the idle timer in the place of a hold. -/
theorem view_release (h : Tracked s.view) :
    (s.release idleSec).view =
      if s.held = true then
        if idleSec ≤ 0 then ⟨false, none, s.idleTimer, [], []⟩
        else ⟨false, none, some s.made, [], [s.made]⟩
      else s.view := by
  have hexpiries : (s.cancel s.holdExpiry).pendingOf .holdExpiry = [] := by
    rw [pendingOf_cancel, filter_expiries h]
  unfold release
  dsimp only
  by_cases hheld : s.held = true
  · have hidles : (s.cancel s.holdExpiry).pendingOf .idle = [] := by
      have hnone : s.pendingOf .idle = [] := h.heldIdle hheld
      rw [pendingOf_cancel, hnone]
      rfl
    have hfree : Timers.view { s.cancel s.holdExpiry with holdExpiry := none, held := false } =
        ⟨false, none, s.idleTimer, [], []⟩ := by
      change View.mk false none s.idleTimer ((s.cancel s.holdExpiry).pendingOf .holdExpiry)
        ((s.cancel s.holdExpiry).pendingOf .idle) = _
      rw [hexpiries, hidles]
    have htracked : Tracked
        (Timers.view { s.cancel s.holdExpiry with holdExpiry := none, held := false }) := by
      rw [hfree]
      exact ⟨rfl, List.nil_sublist _, List.nil_sublist _, fun _ => rfl⟩
    have harm := view_armIdleTimer idleSec htracked
    rw [if_pos hheld]
    have hcancel : (s.cancel s.holdExpiry).held = true := hheld
    rw [if_pos hcancel]
    refine harm.trans ?_
    by_cases hnever : idleSec ≤ 0
    · rw [if_pos (.inr hnever), if_pos hnever, hfree]
    · rw [if_neg (by simp [hnever]), if_neg hnever]
      rfl
  · have hfree : s.held = false := Bool.eq_false_iff.mpr hheld
    obtain ⟨hexpiry, -⟩ := h.of_not_held hfree
    have hexpiry : s.holdExpiry = none := hexpiry
    have hcancel : ¬ (s.cancel s.holdExpiry).held = true := hheld
    rw [if_neg hheld, if_neg hcancel]
    have hsame : s.cancel none = s := by
      have hall : s.pending.filter (fun t => some t.handle != none) = s.pending :=
        List.filter_eq_self.mpr fun _ _ => rfl
      unfold cancel
      rw [hall]
    rw [hexpiry, hsame, ← hexpiry]

theorem view_disconnect (h : Tracked s.view) :
    s.disconnect.view = ⟨false, none, none, [], []⟩ := by
  have hexpiries : s.disconnect.pendingOf .holdExpiry = [] := by
    change ((s.cancel s.holdExpiry).cancel s.idleTimer).pendingOf _ = _
    rw [pendingOf_cancel, pendingOf_cancel, filter_expiries h]
    rfl
  have hidles : s.disconnect.pendingOf .idle = [] := by
    change ((s.cancel s.holdExpiry).cancel s.idleTimer).pendingOf _ = _
    rw [pendingOf_cancel, pendingOf_cancel, List.filter_comm, filter_idles h]
    rfl
  unfold view
  rw [hexpiries, hidles]
  rfl

theorem mem_pendingOf {h : ℕ} :
    h ∈ s.pendingOf kind ↔ ∃ t ∈ s.pending, t.kind = kind ∧ t.handle = h := by
  simp [pendingOf, and_assoc]

theorem find?_pending_cases (s : Timers) (handle : ℕ) :
    s.pending.find? (fun t => t.handle == handle) = none ∨
      ∃ t, s.pending.find? (fun t => t.handle == handle) = some t ∧
        handle ∈ s.pendingOf t.kind := by
  cases h : s.pending.find? (fun t => t.handle == handle) with
  | none => exact .inl rfl
  | some t =>
    have hhandle : t.handle = handle := by simpa using List.find?_some h
    exact .inr ⟨t, rfl, mem_pendingOf.mpr ⟨t, List.mem_of_find?_eq_some h, rfl, hhandle⟩⟩

theorem view_fire_holdExpiry {t : Timer} {handle : ℕ} (h : Tracked s.view)
    (hfind : s.pending.find? (fun t => t.handle == handle) = some t)
    (hpending : handle ∈ s.pendingOf t.kind) (hkind : t.kind = .holdExpiry) :
    s.held = true ∧ (s.fire idleSec handle).view =
      if idleSec ≤ 0 then ⟨false, none, s.idleTimer, [], []⟩
      else ⟨false, none, some s.made, [], [s.made]⟩ := by
  rw [hkind] at hpending
  have hkept : s.holdExpiry = some handle := eq_some_of_mem h.expiries hpending
  have hheld : s.held = true := h.held.trans (congrArg Option.isSome hkept)
  have hnone : s.pendingOf .idle = [] := h.heldIdle hheld
  have hrun : (s.cancel (some handle)).view = ⟨true, some handle, s.idleTimer, [], []⟩ := by
    unfold view
    rw [pendingOf_cancel, pendingOf_cancel, ← hkept, filter_expiries h, hnone]
    exact congrArg (View.mk · s.holdExpiry s.idleTimer [] []) hheld
  have htracked : Tracked (s.cancel (some handle)).view := by
    rw [hrun]
    exact ⟨rfl, List.nil_sublist _, List.nil_sublist _, fun _ => rfl⟩
  have hrelease := view_release idleSec htracked
  rw [if_pos (show (s.cancel (some handle)).held = true from hheld)] at hrelease
  refine ⟨hheld, Eq.trans ?_ hrelease⟩
  unfold fire
  rw [hfind]
  dsimp only
  rw [hkind]

theorem view_fire_idle {t : Timer} {handle : ℕ} (h : Tracked s.view)
    (hfind : s.pending.find? (fun t => t.handle == handle) = some t)
    (hpending : handle ∈ s.pendingOf t.kind) (hkind : t.kind = .idle) :
    s.held = false ∧ (s.fire idleSec handle).view = ⟨false, none, s.idleTimer, [], []⟩ := by
  rw [hkind] at hpending
  have hkept : s.idleTimer = some handle := eq_some_of_mem h.idles hpending
  have hfree : s.held = false := by
    refine Bool.eq_false_iff.mpr fun hheld => ?_
    have hnone : s.pendingOf .idle = [] := h.heldIdle hheld
    rw [hnone] at hpending
    cases hpending
  obtain ⟨hexpiry, hexpiries⟩ := h.of_not_held hfree
  have hexpiry : s.holdExpiry = none := hexpiry
  have hexpiries : s.pendingOf .holdExpiry = [] := hexpiries
  refine ⟨hfree, ?_⟩
  unfold fire
  rw [hfind]
  dsimp only
  rw [hkind]
  change View.mk s.held s.holdExpiry s.idleTimer ((s.cancel (some handle)).pendingOf .holdExpiry)
    ((s.cancel (some handle)).pendingOf .idle) = _
  rw [pendingOf_cancel, pendingOf_cancel, hexpiries, ← hkept, filter_idles h, hfree, hexpiry]
  rfl

end View

/-! ## Runs -/

theorem consistent_held (n : ℕ) : Consistent ⟨true, some n, none, [n], []⟩ :=
  ⟨⟨rfl, List.Sublist.refl _, List.Sublist.refl _, fun _ => rfl⟩, rfl⟩

theorem consistent_free {idleTimer : Option ℕ} {idles : List ℕ}
    (h : idles.Sublist idleTimer.toList) : Consistent ⟨false, none, idleTimer, [], idles⟩ :=
  ⟨⟨rfl, List.Sublist.refl _, h, fun hheld => by cases hheld⟩, rfl⟩

section Runs

variable {s : Timers} {idleSec : ℤ}

theorem Consistent.step (h : Consistent s.view) (e : TimerEvent) :
    Consistent (s.step idleSec e).view := by
  cases e with
  | holdOpen =>
    change Consistent s.holdOpen.view
    rw [view_holdOpen h.toTracked]
    exact consistent_held _
  | release =>
    change Consistent (s.release idleSec).view
    rw [view_release idleSec h.toTracked]
    split_ifs
    · exact consistent_free (List.nil_sublist _)
    · exact consistent_free (List.Sublist.refl _)
    · exact h
  | armIdleTimer =>
    change Consistent (s.armIdleTimer idleSec).view
    rw [view_armIdleTimer idleSec h.toTracked]
    split_ifs
    · exact h
    · exact consistent_free (List.Sublist.refl _)
  | disconnect =>
    change Consistent s.disconnect.view
    rw [view_disconnect h.toTracked]
    exact consistent_free (List.Sublist.refl _)
  | fires handle =>
    change Consistent (s.fire idleSec handle).view
    rcases s.find?_pending_cases handle with hnone | ⟨t, hfind, hpending⟩
    · unfold fire
      rw [hnone]
      exact h
    · cases hkind : t.kind with
      | holdExpiry =>
        rw [(view_fire_holdExpiry idleSec h.toTracked hfind hpending hkind).2]
        split_ifs
        · exact consistent_free (List.nil_sublist _)
        · exact consistent_free (List.Sublist.refl _)
      | idle =>
        rw [(view_fire_idle idleSec h.toTracked hfind hpending hkind).2]
        exact consistent_free (List.nil_sublist _)

theorem consistent_run (h : Consistent s.view) (es : List TimerEvent) :
    Consistent (run (step idleSec) s es).view := by
  induction es generalizing s with
  | nil => exact h
  | cons e es ih => exact ih (h.step e)

theorem length_le_one_of_sublist {hs : List ℕ} {handle : Option ℕ}
    (h : hs.Sublist handle.toList) : hs.length ≤ 1 := by
  refine h.length_le.trans ?_
  cases handle with
  | none => exact Nat.zero_le 1
  | some k => exact le_rfl

theorem pending_eq_nil (hexpiries : s.pendingOf .holdExpiry = [])
    (hidles : s.pendingOf .idle = []) : s.pending = [] := by
  refine List.eq_nil_iff_forall_not_mem.mpr fun t ht => ?_
  have hmem : t.handle ∈ s.pendingOf t.kind := mem_pendingOf.mpr ⟨t, ht, rfl, rfl⟩
  cases hkind : t.kind with
  | holdExpiry =>
    rw [hkind, hexpiries] at hmem
    cases hmem
  | idle =>
    rw [hkind, hidles] at hmem
    cases hmem

end Runs

/-- In every reachable state the session is held exactly when a hold expiry is pending, under a
hold no idle timer is, there is one pending timer of a kind at most, and a disconnect leaves
neither a hold nor a timer. -/
theorem holds_consistent (idleSec : ℤ) (es : List TimerEvent) :
    let s := run (step idleSec) {} es
    (s.held = true ↔ s.pendingOf .holdExpiry ≠ []) ∧
      (s.held = true → s.pendingOf .idle = []) ∧
      (∀ kind, (s.pendingOf kind).length ≤ 1) ∧
      (s.step idleSec .disconnect).held = false ∧
      (s.step idleSec .disconnect).pending = [] := by
  have hfresh : Consistent (view {}) := consistent_free (List.nil_sublist _)
  have h : Consistent (run (step idleSec) {} es).view := consistent_run hfresh es
  generalize run (step idleSec) {} es = s at h
  have hclosed := view_disconnect h.toTracked
  have hpending : s.pendingOf .holdExpiry = s.holdExpiry.toList := h.pending
  have hheld : s.held = s.holdExpiry.isSome := h.held
  refine ⟨?_, h.heldIdle, ?_, congrArg View.held hclosed, ?_⟩
  · rw [hpending, hheld]
    cases s.holdExpiry with
    | none => simp
    | some n => simp
  · intro kind
    cases kind with
    | holdExpiry => exact length_le_one_of_sublist h.expiries
    | idle => exact length_le_one_of_sublist h.idles
  · exact pending_eq_nil (congrArg View.expiries hclosed) (congrArg View.idles hclosed)

/-! ## The flags of a link -/

/-- The hold, and which timers are pending. -/
def View.flags (v : View) : Bool × Bool × Bool := (v.held, !v.expiries.isEmpty, !v.idles.isEmpty)

end Timers

namespace Link

def timerFlags (l : Link) : Bool × Bool × Bool := (l.held, l.holdExpiry, l.idleTimer)

/-- The event on a link. The segments of a `disconnect` after its first do not touch the timers. -/
def timerStep (S : Setting) (s : Timers) (l : Link) : TimerEvent → Link
  | .holdOpen => l.step S .holdOpen
  | .release => l.step S .release
  | .armIdleTimer => l.armIdleTimer S
  | .disconnect => l.beginDisconnect.1
  | .fires handle =>
    match s.pending.find? fun t => t.handle == handle with
    | none => l
    | some t =>
      match t.kind with
      | .holdExpiry => l.step S .holdExpires
      | .idle => l.step S .idleTimerFires

section Simulation

variable {S : Setting} {s : Timers} {l : Link}

theorem timerFlags_release (l : Link) : (l.release S).timerFlags =
    (false, false, if l.held = true ∧ ¬ S.idleSec ≤ 0 then true else l.idleTimer) := by
  unfold release
  dsimp only
  by_cases hheld : l.held = true
  · rw [if_pos hheld]
    unfold armIdleTimer
    by_cases hnever : S.idleSec ≤ 0
    · simp [timerFlags, hnever]
    · simp [timerFlags, hnever, hheld]
  · simp [timerFlags, hheld]

theorem timerFlags_armIdleTimer (l : Link) : (l.armIdleTimer S).timerFlags =
    if l.held = true ∨ S.idleSec ≤ 0 then l.timerFlags else (l.held, l.holdExpiry, true) := by
  unfold armIdleTimer
  by_cases hheld : l.held = true
  · simp [hheld]
  · by_cases hnever : S.idleSec ≤ 0
    · simp [hheld, hnever]
    · simp [hheld, hnever, timerFlags]

theorem timerFlags_beginDisconnect (l : Link) :
    l.beginDisconnect.1.timerFlags = (false, false, false) := by
  unfold beginDisconnect
  cases l.client with
  | none => rfl
  | some c => rfl

/-- The flags of a link follow the timers through every event. -/
theorem timerFlags_timerStep (h : Timers.Consistent s.view) (hl : l.timerFlags = s.view.flags)
    (e : TimerEvent) : (timerStep S s l e).timerFlags = (s.step S.idleSec e).view.flags := by
  have hheld : l.held = s.held := congrArg Prod.fst hl
  have hexpiry : l.holdExpiry = !(s.pendingOf .holdExpiry).isEmpty :=
    congrArg (fun flags => flags.2.1) hl
  have hidle : l.idleTimer = !(s.pendingOf .idle).isEmpty := congrArg (fun flags => flags.2.2) hl
  cases e with
  | holdOpen =>
    change (l.step S .holdOpen).timerFlags = s.holdOpen.view.flags
    rw [Timers.view_holdOpen h.toTracked]
    rfl
  | release =>
    change (l.release S).timerFlags = (s.release S.idleSec).view.flags
    rw [timerFlags_release, Timers.view_release S.idleSec h.toTracked, hheld, hidle]
    by_cases hs : s.held = true
    · have hidles : s.pendingOf .idle = [] := h.heldIdle hs
      by_cases hnever : S.idleSec ≤ 0
      · rw [if_pos hs, if_pos hnever, if_neg fun hand => hand.2 hnever, hidles]
        rfl
      · rw [if_pos hs, if_neg hnever, if_pos ⟨hs, hnever⟩]
        rfl
    · have hfree : s.held = false := Bool.eq_false_iff.mpr hs
      have hexpiries : s.view.expiries = [] := (h.toTracked.of_not_held hfree).2
      rw [if_neg hs, if_neg fun hand => hs hand.1]
      unfold Timers.View.flags
      rw [hexpiries]
      exact congrArg (·, false, !(s.pendingOf .idle).isEmpty) hfree.symm
  | armIdleTimer =>
    change (l.armIdleTimer S).timerFlags = (s.armIdleTimer S.idleSec).view.flags
    rw [timerFlags_armIdleTimer, Timers.view_armIdleTimer S.idleSec h.toTracked, hheld]
    by_cases hs : s.held = true ∨ S.idleSec ≤ 0
    · rw [if_pos hs, if_pos hs, hl]
    · have hfree : s.held = false := Bool.eq_false_iff.mpr fun hheld => hs (.inl hheld)
      have hexpiries : s.pendingOf .holdExpiry = [] := (h.toTracked.of_not_held hfree).2
      rw [if_neg hs, if_neg hs, hfree, hexpiry, hexpiries]
      rfl
  | disconnect =>
    change l.beginDisconnect.1.timerFlags = s.disconnect.view.flags
    rw [timerFlags_beginDisconnect, Timers.view_disconnect h.toTracked]
    rfl
  | fires handle =>
    change (timerStep S s l (.fires handle)).timerFlags = (s.fire S.idleSec handle).view.flags
    unfold timerStep
    dsimp only
    rcases s.find?_pending_cases handle with hnone | ⟨t, hfind, hpending⟩
    · unfold Timers.fire
      rw [hnone]
      exact hl
    · rw [hfind]
      dsimp only
      cases hkind : t.kind with
      | holdExpiry =>
        obtain ⟨hs, hview⟩ := Timers.view_fire_holdExpiry S.idleSec h.toTracked hfind
          hpending hkind
        rw [hkind] at hpending
        have harmed : l.holdExpiry = true := by
          rw [hexpiry, List.isEmpty_eq_false_iff_exists_mem.mpr ⟨handle, hpending⟩]
          rfl
        have hidles : s.pendingOf .idle = [] := h.heldIdle hs
        have hstep : l.step S .holdExpires = l.release S := if_pos harmed
        dsimp only
        rw [hstep, timerFlags_release, hview, hheld, hidle, hidles, hs]
        by_cases hnever : S.idleSec ≤ 0
        · rw [if_pos hnever, if_neg fun hand => hand.2 hnever]
          rfl
        · rw [if_neg hnever, if_pos ⟨rfl, hnever⟩]
          rfl
      | idle =>
        obtain ⟨hs, hview⟩ := Timers.view_fire_idle S.idleSec h.toTracked hfind hpending
          hkind
        rw [hkind] at hpending
        have harmed : l.idleTimer = true := by
          rw [hidle, List.isEmpty_eq_false_iff_exists_mem.mpr ⟨handle, hpending⟩]
          rfl
        have hexpiries : s.pendingOf .holdExpiry = [] := (h.toTracked.of_not_held hs).2
        have hstep : l.step S .idleTimerFires =
            { l with idleTimer := false, idleCloses := l.idleCloses + 1 } := if_pos harmed
        dsimp only
        rw [hstep, hview]
        unfold timerFlags
        dsimp only
        rw [hheld, hs, hexpiry, hexpiries]
        rfl

end Simulation

end Link
end OrbitBhyve.Connection
