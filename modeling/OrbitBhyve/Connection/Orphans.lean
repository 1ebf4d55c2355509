import OrbitBhyve.Connection.Tasks

/-!
# Orphaned sessions

`disconnect` takes no lock: it reads `self._client` again after each `await` and
sets it to `None` at its end. A client which an open has stored in the meantime
is then live and out of reach, and so is the old one if its own `disconnect` has
raised with the link up. Whether a step leaves such a client behind shows in the
state before it, and a run without such a step keeps at most one client live,
the one which `self._client` refers to.
-/

namespace OrbitBhyve.Connection
namespace Link

open Foundation Python Wire

/-- At most one client is live, and it is within reach when no `disconnect` and no open
is in progress. -/
def OneSession (s : Link) : Prop := ∀ c ∈ s.live, ∀ c' ∈ s.live, c = c'

def AtRest (s : Link) : Prop :=
  s.teardowns = [] ∧
    match s.holder with
    | none | some (.refreshing _ _) | some .commanding => True
    | _ => False

def NoOrphan (s : Link) : Prop := s.OneSession ∧ (s.AtRest → ∀ c ∈ s.live, s.client = some c)

/-- Every live client is within reach. -/
def Tidy (s : Link) : Prop := ∀ c ∈ s.live, s.client = some c

theorem Tidy.noOrphan {s : Link} (h : s.Tidy) : s.NoOrphan :=
  ⟨fun c hc c' hc' => Option.some.inj ((h c hc).symm.trans (h c' hc')), fun _ => h⟩

/-! ## The steps which matter -/

/-- The event ends an `establish_connection`. -/
def connects (s : Link) (e : Event) : Bool :=
  match s.holder, e with
  | some (.opening _ _ .connecting), .resume (.done _) => true
  | _, _ => false

/-- The `disconnect` which the event carries on, and how what it has awaited ends. -/
def resumed (s : Link) (e : Event) : Option (Teardown × Outcome) :=
  match e with
  | .resumeDisconnect i o => s.teardowns[i]?.map fun t => (t, o)
  | .resume o =>
    match s.holder with
    | some (.opening _ _ (.disconnecting t)) | some (.reopening _ t) | some (.idleClosing t) =>
      some (t, o)
    | _ => none
  | _ => none

/-- The last segment of a `disconnect` finds `self._client` without a link. -/
def harmless (s : Link) : Option (Teardown × Outcome) → Bool
  | some (.closing c, o) => !(s.closed c o).isConnected
  | _ => true

/-- No live client is replaced, and none is forgotten. -/
def safeStep (s : Link) (e : Event) : Bool :=
  !(s.connects e && s.isConnected) && s.harmless (s.resumed e)

def net (s : Link) : Option ℕ × List ℕ × ℕ := (s.client, s.live, s.made)

def netAfter (s : Link) : Teardown → Outcome → Option ℕ × List ℕ × ℕ
  | .stopping, _ => s.net
  | .closing c, o => (none, (s.closed c o).live, s.made)

def netStep (s : Link) (e : Event) : Option ℕ × List ℕ × ℕ :=
  if s.connects e then (some s.made, s.made :: s.live, s.made + 1)
  else
    match s.resumed e with
    | some (t, o) => s.netAfter t o
    | none =>
      match e with
      | .linkLost c => (s.lose c).net
      | _ => s.net

theorem Within.net {s s' : Link} (h : Within s s') : s'.net = s.net := by
  rw [Link.net, Link.net, h.client, h.live, h.made]

theorem net_closed (s : Link) (c : ℕ) (o : Outcome) :
    (s.closed c o).net = (s.client, (s.closed c o).live, s.made) := by
  cases o <;> rfl

theorem live_closed_subset (s : Link) (c : ℕ) (o : Outcome) : (s.closed c o).live ⊆ s.live := by
  cases o with
  | done rx => exact List.filter_subset_self s.live
  | raised e => exact List.Subset.refl s.live

theorem net_resumeDisconnect (s : Link) (t : Teardown) (o : Outcome) :
    (s.resumeDisconnect t o).1.net = s.netAfter t o := by
  cases t with
  | stopping =>
    unfold resumeDisconnect
    cases hclient : s.client with
    | none => simp only [netAfter, net, clearSession, hclient]
    | some c => rfl
  | closing c => cases o <;> rfl

theorem net_beginDisconnect (s : Link) : s.beginDisconnect.1.net = s.net := by
  obtain ⟨hclient, hlive, hmade, -⟩ := beginDisconnect_fst (s := s)
  rw [net, net, hclient, hlive, hmade]

theorem net_keepTeardown (rest : List Teardown) (r : Link × Option Teardown) :
    (keepTeardown rest r).net = r.1.net := by
  obtain ⟨s, t⟩ := r
  cases t <;> rfl

section Step

variable {S : Setting} {s : Link}

theorem net_connected (job : Job) (attempt : ℕ) :
    (s.connected S job attempt).net = (some s.made, s.made :: s.live, s.made + 1) := by
  unfold connected
  dsimp only
  split_ifs
  · rfl
  · exact within_beginHandshake.net

theorem net_resumeOpening {job : Job} {attempt : ℕ} {stage : Stage} {o : Outcome}
    (h : s.holder = some (.opening job attempt stage)) :
    (s.resumeOpening S job attempt stage o).net = s.netStep (.resume o) := by
  by_cases hdisc : ∃ t, stage = .disconnecting t
  · obtain ⟨t, rfl⟩ := hdisc
    have hstep : s.netStep (.resume o) = s.netAfter t o := by
      simp [netStep, connects, resumed, h]
    rw [hstep, ← net_resumeDisconnect]
    unfold resumeOpening
    dsimp only
    cases s.resumeDisconnect t o with
    | mk s' t' =>
      cases t' with
      | none => exact within_tornDown.net
      | some t' => rfl
  · have hnot : ∀ t, stage ≠ .disconnecting t := fun t ht => hdisc ⟨t, ht⟩
    by_cases hconn : stage = .connecting ∧ ∃ rx, o = .done rx
    · obtain ⟨rfl, rx, rfl⟩ := hconn
      have hstep : s.netStep (.resume (.done rx)) =
          (some s.made, s.made :: s.live, s.made + 1) := by simp [netStep, connects, h]
      rw [hstep]
      exact net_connected job attempt
    · have hstay : Within s (s.resumeOpening S job attempt stage o) :=
        within_resumeOpening (fun hs rx ho => hconn ⟨hs, rx, ho⟩) hnot
      rw [hstay.net]
      cases stage <;> cases o <;> simp_all [netStep, connects, resumed]

theorem net_resume (o : Outcome) : (s.resume S o).net = s.netStep (.resume o) := by
  unfold resume
  cases hholder : s.holder with
  | none => simp [netStep, connects, resumed, hholder]
  | some holder =>
    have hsame : (∀ job attempt stage, holder ≠ .opening job attempt stage) →
        (∀ pt t, holder ≠ .reopening pt t) → (∀ t, holder ≠ .idleClosing t) →
          s.netStep (.resume o) = s.net := by
      intro hopening hreopening hidle
      cases holder <;> simp_all [netStep, connects, resumed]
    cases holder with
    | opening job attempt stage => exact net_resumeOpening hholder
    | hooking job steps =>
      rw [hsame (by simp) (by simp) (by simp)]
      dsimp only
      split
      · exact (within_hookNext _).net
      · exact (within_finish _).net
    | refreshing plaintext steps =>
      rw [hsame (by simp) (by simp) (by simp)]
      dsimp only
      split
      · exact (within_refreshNext _).net
      · exact (within_finish _).net
      · rw [← net_beginDisconnect s]
        exact (within_reopen_fst (s := s.beginDisconnect.1) s.beginDisconnect.2).net
    | reopening plaintext t =>
      have hstep : s.netStep (.resume o) = s.netAfter t o := by
        simp [netStep, connects, resumed, hholder]
      rw [hstep, ← net_resumeDisconnect]
      exact (within_reopen_fst (s := (s.resumeDisconnect t o).1) (s.resumeDisconnect t o).2).net
    | commanding =>
      rw [hsame (by simp) (by simp) (by simp)]
      dsimp only
      split
      · exact within_commandDone.net
      · exact (within_finish _).net
    | idleClosing t =>
      have hstep : s.netStep (.resume o) = s.netAfter t o := by
        simp [netStep, connects, resumed, hholder]
      rw [hstep, ← net_resumeDisconnect]
      dsimp only
      cases s.resumeDisconnect t o with
      | mk s' t' => cases t' <;> rfl

theorem net_idleClose : s.idleClose.net = s.net := by
  unfold idleClose
  dsimp only
  split
  · split
    · next s' t h => exact (congrArg (fun r => r.1.net) h).symm.trans (net_beginDisconnect _)
    · next s' h => exact (congrArg (fun r => r.1.net) h).symm.trans (net_beginDisconnect _)
  · rfl

theorem net_armIdleTimer : (s.armIdleTimer S).net = s.net := by
  unfold armIdleTimer
  split_ifs <;> rfl

theorem net_release : (s.release S).net = s.net := by
  unfold release
  dsimp only
  split_ifs
  · exact net_armIdleTimer
  · rfl

theorem net_step (e : Event) : (s.step S e).net = s.netStep e := by
  have hstay : ∀ e, s.connects e = false → s.resumed e = none → (∀ c, e ≠ .linkLost c) →
      s.netStep e = s.net := by
    intro e hconn hres hlost
    unfold netStep
    rw [hconn, hres]
    cases e <;> simp_all
  cases e with
  | call job =>
    rw [hstay _ (by simp [connects]) rfl (by simp)]
    dsimp only [step]
    split_ifs
    · exact within_call.net
    · rfl
  | resume o => exact net_resume o
  | disconnect =>
    rw [hstay _ (by simp [connects]) rfl (by simp)]
    exact (net_keepTeardown _ _).trans (net_beginDisconnect s)
  | resumeDisconnect i o =>
    dsimp only [step]
    cases ht : s.teardowns[i]? with
    | none => simp [netStep, connects, resumed, ht]
    | some t =>
      have hstep : s.netStep (.resumeDisconnect i o) = s.netAfter t o := by
        simp [netStep, connects, resumed, ht]
      rw [hstep]
      exact (net_keepTeardown _ _).trans (net_resumeDisconnect s t o)
  | idleTimerFires =>
    rw [hstay _ (by simp [connects]) rfl (by simp)]
    dsimp only [step]
    split_ifs <;> rfl
  | idleCloseRuns =>
    rw [hstay _ (by simp [connects]) rfl (by simp)]
    dsimp only [step]
    split_ifs
    · exact net_idleClose
    · rfl
  | holdOpen => rw [hstay _ (by simp [connects]) rfl (by simp)]; rfl
  | release =>
    rw [hstay _ (by simp [connects]) rfl (by simp)]
    exact net_release
  | holdExpires =>
    rw [hstay _ (by simp [connects]) rfl (by simp)]
    dsimp only [step]
    split_ifs
    · exact net_release
    · rfl
  | linkLost c => simp [netStep, connects, resumed, step]
  | inRange b => rw [hstay _ (by simp [connects]) rfl (by simp)]; rfl

end Step

/-! ## Runs -/

/-- Every live client is within reach, and the next one will be new. -/
def TidyNet (n : Option ℕ × List ℕ × ℕ) : Prop := ∀ c ∈ n.2.1, n.1 = some c ∧ c < n.2.2

section TidyNet

variable {S : Setting} {s : Link} {e : Event}

theorem TidyNet.tidy (h : TidyNet s.net) : s.Tidy := fun c hc => (h c hc).1

theorem TidyNet.live_eq_nil (h : TidyNet s.net) (hconn : s.isConnected = false) :
    s.live = [] := by
  refine List.eq_nil_iff_forall_not_mem.mpr fun c hc => ?_
  have hclient : s.client = some c := (h c hc).1
  simp [isConnected, hclient, hc] at hconn

theorem TidyNet.closed (h : TidyNet s.net) (c : ℕ) (o : Outcome) :
    TidyNet (s.closed c o).net := by
  rw [net_closed]
  exact fun c' hc' => h c' (live_closed_subset s c o hc')

theorem exists_client_of_isConnected (h : s.isConnected = true) :
    ∃ c, s.client = some c ∧ c ∈ s.live := by
  unfold isConnected at h
  split at h
  · cases h
  · next c hclient => exact ⟨c, hclient, by simpa using h⟩

theorem resumed_of_connects (h : s.connects e = true) : s.resumed e = none := by
  unfold connects at h
  split at h
  · next hholder => simp only [resumed, hholder]
  · cases h

theorem TidyNet.step (h : TidyNet s.net) (hsafe : s.safeStep e = true) :
    TidyNet (s.step S e).net := by
  rw [net_step]
  simp only [safeStep, Bool.and_eq_true, Bool.not_eq_true', Bool.and_eq_false_iff] at hsafe
  obtain ⟨hconnects, hharmless⟩ := hsafe
  unfold netStep
  split_ifs with hconn
  · have hlive : s.live = [] := by
      refine h.live_eq_nil (hconnects.resolve_left ?_)
      rw [hconn]
      decide
    simp [hlive, TidyNet]
  · split
    · next t o hres =>
      rw [hres] at hharmless
      cases t with
      | stopping => exact h
      | closing c =>
        have hdead : (s.closed c o).isConnected = false := by simpa [harmless] using hharmless
        have hnil : (s.closed c o).live = [] := (h.closed c o).live_eq_nil hdead
        simp [netAfter, hnil, TidyNet]
    · split
      · intro c' hc'
        exact h c' (List.mem_of_mem_filter hc')
      · exact h

/-- A step which is not safe leaves a live client out of reach. -/
theorem TidyNet.not_tidy_step (h : TidyNet s.net) (hbad : s.safeStep e ≠ true) :
    ¬ (s.step S e).Tidy := by
  have hnet := net_step (S := S) (s := s) e
  simp only [safeStep, ne_eq, Bool.and_eq_true, not_and_or, Bool.not_eq_true',
    Bool.not_eq_false, Bool.not_eq_true] at hbad
  intro htidy
  obtain ⟨hconn, hlive⟩ | hharm := hbad
  · obtain ⟨c, hclient, hc⟩ := exists_client_of_isConnected hlive
    unfold netStep at hnet
    rw [if_pos hconn] at hnet
    simp only [net, Prod.mk.injEq] at hnet
    have hstep := htidy c (by rw [hnet.2.1]; exact List.mem_cons_of_mem _ hc)
    rw [hnet.1] at hstep
    have hbound : c < s.made := (h c hc).2
    exact absurd (Option.some.inj hstep) (by omega)
  · obtain ⟨c, o, hres, hlive⟩ : ∃ c o, s.resumed e = some (.closing c, o) ∧
        (s.closed c o).isConnected = true := by
      unfold harmless at hharm
      split at hharm
      · next c o hres => exact ⟨c, o, hres, by simpa using hharm⟩
      · cases hharm
    obtain ⟨c', -, hc'⟩ := exists_client_of_isConnected hlive
    have hconn : ¬ s.connects e = true := fun hconn => by
      rw [resumed_of_connects hconn] at hres
      cases hres
    unfold netStep at hnet
    rw [if_neg hconn, hres] at hnet
    simp only [net, netAfter, Prod.mk.injEq] at hnet
    have hstep := htidy c' (by rw [hnet.2.1]; exact hc')
    rw [hnet.1] at hstep
    cases hstep

end TidyNet

/-- Every live client stays within reach all along a run exactly when every step is safe. -/
theorem tidy_iff (S : Setting) (magic tc : UInt8) (header : Option Bytes) (es : List Event) :
    (∀ k, (run (step S) (fresh magic tc header) (es.take k)).Tidy) ↔
      StepsMeet (step S) (fun s e => s.safeStep e = true) (fresh magic tc header) es :=
  @always_iff_stepsMeet Link Event (step S) (fun s e => s.safeStep e = true)
    (fun s => TidyNet s.net) Tidy (fun _ h => h.tidy) (fun _ _ h hsafe => h.step hsafe)
    (fun _ _ h hbad => h.not_tidy_step hbad) (fresh magic tc header) es
    fun c hc => by simp [net, fresh] at hc

/-- In a run whose steps are safe no session is orphaned. -/
theorem no_orphan (S : Setting) (magic tc : UInt8) (header : Option Bytes) (es : List Event)
    (h : StepsMeet (step S) (fun s e => s.safeStep e = true) (fresh magic tc header) es) (k : ℕ) :
    (run (step S) (fresh magic tc header) (es.take k)).NoOrphan :=
  ((tidy_iff S magic tc header es).mpr h k).noOrphan

/-! ## A disconnect which outlives its link -/

def disconnectBetween : List Event :=
  opensAndWrites ++ [.resume (.done []), .disconnect, .resumeDisconnect 0 (.done []),
    .resumeDisconnect 0 (.done [])] ++ opensAndWrites

theorem no_orphan_between :
    (run (step plainSetting) plainLink (disconnectBetween.take 16)).NoOrphan :=
  no_orphan plainSetting 0x11 0x11 (some MSG_HEADER) disconnectBetween (by decide +kernel) 16

/-- The link is down before the `disconnect` which takes it down returns, and a send which
comes in between opens anew. -/
def disconnectAcross : List Event :=
  opensAndWrites ++ [.resume (.done []), .disconnect, .resumeDisconnect 0 (.done []),
    .linkLost 0] ++ opensAndWrites ++ [.resumeDisconnect 0 (.done []), .resume (.done [])]

/-- The client's own `disconnect` raises and leaves its link up. -/
def disconnectRaises : List Event :=
  opensAndWrites ++ [.resume (.done []), .disconnect, .resumeDisconnect 0 (.done []),
    .resumeDisconnect 0 (.raised .bleakError)]

theorem AtRest.not_noOrphan {s : Link} (hrest : s.AtRest) (hclient : s.client = none) {c : ℕ}
    (hlive : s.live = [c]) : ¬ s.NoOrphan := by
  intro h
  have hreach := h.2 hrest c (by rw [hlive]; exact List.mem_singleton_self c)
  rw [hclient] at hreach
  cases hreach

/-- In both runs a session is live and nothing refers to it; after the first the next send
opens one more. -/
theorem disconnect_orphans :
    let s := run (step plainSetting) plainLink disconnectAcross
    let s' := run (step plainSetting) plainLink disconnectRaises
    (s.AtRest ∧ s.client = none ∧ s.live = [1] ∧ ¬ s.NoOrphan ∧
      ¬ (run (step plainSetting) s opensAndWrites).NoOrphan) ∧
    (s'.AtRest ∧ s'.client = none ∧ s'.live = [0] ∧ ¬ s'.NoOrphan) := by
  intro s s'
  have hrest : s.AtRest := by
    have hholder : s.holder = none := Option.isNone_iff_eq_none.mp (by decide +kernel)
    have htear : s.teardowns = [] := by decide +kernel
    exact ⟨htear, by rw [hholder]; trivial⟩
  have hrest' : s'.AtRest := by
    have hholder : s'.holder = none := Option.isNone_iff_eq_none.mp (by decide +kernel)
    have htear : s'.teardowns = [] := by decide +kernel
    exact ⟨htear, by rw [hholder]; trivial⟩
  have hclient : s.client = none := by decide +kernel
  have hlive : s.live = [1] := by decide +kernel
  have hclient' : s'.client = none := by decide +kernel
  have hlive' : s'.live = [0] := by decide +kernel
  refine ⟨⟨hrest, hclient, hlive, hrest.not_noOrphan hclient hlive, fun h => ?_⟩,
    hrest', hclient', hlive', hrest'.not_noOrphan hclient' hlive'⟩
  have htwo : (run (step plainSetting) s opensAndWrites).live = [2, 1] := by decide +kernel
  exact absurd (h.1 1 (by rw [htwo]; simp) 2 (by rw [htwo]; simp)) (by decide)

end Link
end OrbitBhyve.Connection
