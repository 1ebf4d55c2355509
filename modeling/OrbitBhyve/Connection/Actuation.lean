import OrbitBhyve.Connection.Opening

/-!
# An actuation runs on a fresh init

A device of the mesh family acknowledges a watering command on a stale bind and
ignores it, so `send_actuation` re-runs the hook before every command: in place
on a pooled session, or by opening one. Whatever other tasks do between its
segments, the command goes to a client on which the hook has run to completion
since the call, and it goes out once.
-/

namespace OrbitBhyve.Connection

open Foundation Python Wire

namespace Link

def isCommanding (s : Link) : Bool :=
  match s.holder with
  | some .commanding => true
  | _ => false

/-- The event is the segment in which the lock holder writes its command. -/
def Commands (S : Setting) (s : Link) (e : Event) : Prop :=
  s.isCommanding = false ∧ (s.step S e).isCommanding = true

/-- The client is the one on which the hook has last run to completion. -/
def Prepared (s : Link) : Prop := s.client.isSome ∧ s.initialised = s.client

def Event.isCall : Event → Bool
  | .call _ => true
  | _ => false

/-- An actuation before its command, with no hook run to completion, or at it or past it. -/
def Actuating (atCommand : Link → Prop) (s : Link) : Prop :=
  match s.holder with
  | some (.opening job _ _) | some (.hooking job _) =>
    (∃ plaintext, job = .sendActuation plaintext) ∧ s.initialised = none
  | some (.refreshing _ _) | some (.reopening _ _) => s.initialised = none
  | some .commanding => atCommand s
  | none | some (.idleClosing _) => True

def Resting (s : Link) : Prop :=
  match s.holder with
  | none | some (.idleClosing _) => True
  | _ => False

variable {S : Setting} {s : Link} {plaintext : Bytes}

theorem Actuating.mono {P Q : Link → Prop} (h : s.Actuating P) (himp : P s → Q s) :
    s.Actuating Q := by
  unfold Actuating at h ⊢
  split at h <;> simp_all

theorem actuating_finish (P : Link → Prop) (r : Except PyErr Unit) :
    (s.finish r).Actuating P := trivial

/-! ## The segments of the lock holder -/

theorem isSome_of_beginWrite {s' : Link} (h : s.beginWrite S plaintext = (.ok (), s')) :
    s.client.isSome ∧ s'.client = s.client ∧ s'.initialised = s.initialised := by
  unfold beginWrite at h
  split at h
  · cases h
  · obtain ⟨hres, rfl⟩ := Prod.mk.inj h
    refine ⟨?_, rfl, rfl⟩
    cases hclient : s.client with
    | none => simp [hclient] at hres
    | some c => rfl

theorem actuating_command (h : s.initialised = s.client) :
    (s.command S plaintext).Actuating Prepared := by
  unfold command writeThen
  split
  · exact actuating_finish _ _
  · next s' hwrite =>
    obtain ⟨hsome, hclient, hinit⟩ := isSome_of_beginWrite hwrite
    exact ⟨by rw [hclient]; exact hsome, by rw [hinit, hclient]; exact h⟩

theorem actuating_writeThen {P : Link → Prop} {next : Holder} (h : s.initialised = none)
    (hnext : ∀ s' : Link, s'.initialised = none → Actuating P { s' with holder := some next }) :
    (s.writeThen S plaintext next).Actuating P := by
  unfold writeThen
  split
  · exact actuating_finish _ _
  · next s' hwrite =>
    obtain ⟨-, -, hinit⟩ := isSome_of_beginWrite hwrite
    exact hnext s' (hinit.trans h)

theorem actuating_hookNext (h : s.initialised = none) (steps : List Piece) :
    (s.hookNext S (.sendActuation plaintext) steps).Actuating Prepared := by
  cases steps with
  | nil => exact actuating_command rfl
  | cons step steps =>
    change (s.writeThen S step.pt (.hooking (.sendActuation plaintext) steps)).Actuating Prepared
    exact actuating_writeThen h fun s' hs' => ⟨⟨_, rfl⟩, hs'⟩

theorem actuating_handshook (h : s.initialised = none) :
    (s.handshook S (.sendActuation plaintext)).Actuating Prepared := by
  unfold handshook
  split
  · exact actuating_hookNext h _
  · exact actuating_hookNext (s := s.countHook) h _

theorem actuating_refreshNext (h : s.initialised = none) (steps : List Piece) :
    (s.refreshNext S plaintext steps).Actuating Prepared := by
  cases steps with
  | nil => exact actuating_command rfl
  | cons step steps =>
    change (s.writeThen S step.pt (.refreshing plaintext steps)).Actuating Prepared
    exact actuating_writeThen h fun s' hs' => hs'

theorem actuating_refresh (h : s.initialised = none) :
    (s.refresh S plaintext).Actuating Prepared := by
  unfold refresh
  split
  · exact actuating_refreshNext h _
  · exact actuating_refreshNext (s := s.countHook) h _

theorem actuating_atStage {P : Link → Prop} (h : s.initialised = none) (attempt : ℕ)
    (stage : Stage) : (s.atStage (.sendActuation plaintext) attempt stage).Actuating P :=
  ⟨⟨_, rfl⟩, h⟩

theorem actuating_tornDown {P : Link → Prop} (h : s.initialised = none) (attempt : ℕ) :
    (s.tornDown (.sendActuation plaintext) attempt).Actuating P := by
  unfold tornDown
  split
  · exact actuating_atStage h _ _
  · exact actuating_finish _ _

def hookView (s : Link) : Option Holder × Option ℕ := (s.holder, s.initialised)

theorem hookView_beginDisconnect : s.beginDisconnect.1.hookView = s.hookView := by
  unfold beginDisconnect
  split <;> rfl

theorem hookView_resumeDisconnect (t : Teardown) (o : Outcome) :
    (s.resumeDisconnect t o).1.hookView = s.hookView := by
  unfold resumeDisconnect
  split
  · split <;> rfl
  · cases o <;> rfl

theorem client_of_beginDisconnect (h : s.beginDisconnect.2 = none) :
    s.beginDisconnect.1.client = none := by
  unfold beginDisconnect at h ⊢
  split at h
  · rfl
  · cases h

theorem client_of_resumeDisconnect {t : Teardown} {o : Outcome}
    (h : (s.resumeDisconnect t o).2 = none) : (s.resumeDisconnect t o).1.client = none := by
  unfold resumeDisconnect at h ⊢
  split at h
  · split at h
    · rfl
    · cases h
  · rfl

theorem actuating_attemptFailed {P : Link → Prop} (h : s.initialised = none) (attempt : ℕ) :
    (s.attemptFailed (.sendActuation plaintext) attempt).Actuating P := by
  have hinit : s.beginDisconnect.1.initialised = s.initialised :=
    congrArg Prod.snd hookView_beginDisconnect
  unfold attemptFailed
  split
  · next s' t heq =>
    rw [heq] at hinit
    exact actuating_atStage (hinit.trans h) _ _
  · next s' heq =>
    rw [heq] at hinit
    exact actuating_tornDown (hinit.trans h) _

theorem actuating_beginHandshake {P : Link → Prop} (h : s.initialised = none) (attempt : ℕ) :
    (s.beginHandshake (.sendActuation plaintext) attempt).Actuating P := by
  unfold beginHandshake
  dsimp only
  split_ifs
  · exact actuating_finish _ _
  · exact actuating_atStage (s := { s with conn := s.conn.clearForHandshake }) h _ _

theorem actuating_keyRead (h : s.initialised = none) (attempt : ℕ) (initTx : Vector UInt8 20)
    (rx : Bytes) : (s.keyRead S (.sendActuation plaintext) attempt initTx rx).Actuating Prepared := by
  unfold keyRead
  split
  · next conn _ => exact actuating_handshook (s := { s with conn := conn }) h
  · next conn _ => exact actuating_attemptFailed (s := { s with conn := conn }) h _
  · exact actuating_finish _ _

theorem actuating_resumeOpening (h : s.initialised = none) (attempt : ℕ) (stage : Stage)
    (o : Outcome) :
    (s.resumeOpening S (.sendActuation plaintext) attempt stage o).Actuating Prepared := by
  have hfailed : (s.attemptFailed (.sendActuation plaintext) attempt).Actuating Prepared :=
    actuating_attemptFailed h attempt
  cases stage with
  | settling => exact actuating_beginHandshake h attempt
  | pausing => exact actuating_atStage h _ _
  | disconnecting t =>
    have hinit : (s.resumeDisconnect t o).1.initialised = s.initialised :=
      congrArg Prod.snd (hookView_resumeDisconnect t o)
    unfold resumeOpening
    dsimp only
    split
    · next s' t' heq =>
      rw [heq] at hinit
      exact actuating_atStage (hinit.trans h) _ _
    · next s' heq =>
      rw [heq] at hinit
      exact actuating_tornDown (hinit.trans h) _
  | connecting =>
    cases o with
    | done rx =>
      unfold resumeOpening connected
      dsimp only
      split_ifs
      · exact actuating_atStage (s := s.storeClient) h _ _
      · exact actuating_beginHandshake (s := s.storeClient) h _
    | raised e => exact hfailed
  | subscribing =>
    cases o with
    | done rx =>
      unfold resumeOpening
      dsimp only
      split_ifs
      · exact actuating_finish _ _
      · exact actuating_atStage h _ _
    | raised e => exact hfailed
  | writingKey initTx =>
    cases o with
    | done rx =>
      unfold resumeOpening
      dsimp only
      split_ifs
      · exact actuating_finish _ _
      · exact actuating_atStage h _ _
    | raised e => exact hfailed
  | readingKey initTx =>
    cases o with
    | done rx => exact actuating_keyRead h attempt initTx rx
    | raised e => exact hfailed

theorem actuating_ensureConnected (h : s.initialised = none)
    (hshut : (s.isConnected && s.conn.handshaken) = false) :
    (s.ensureConnected S (.sendActuation plaintext)).Actuating Prepared := by
  unfold ensureConnected
  rw [hshut, if_neg (by decide)]
  split_ifs
  · exact actuating_atStage h _ _
  · exact actuating_finish _ _

theorem actuating_reopen {r : Link × Option Teardown} (h : r.1.initialised = none)
    (hshut : r.2 = none → r.1.client = none) :
    (reopen S plaintext r).Actuating Prepared := by
  obtain ⟨s', t⟩ := r
  cases t with
  | some t => exact h
  | none =>
    refine actuating_ensureConnected h ?_
    rw [isConnected_of_client (hshut rfl), Bool.false_and]

theorem actuating_call (h : s.initialised = none) :
    (s.call S (.sendActuation plaintext)).Actuating Prepared := by
  unfold call
  dsimp only
  split_ifs with hopen
  · exact actuating_refresh h
  · exact actuating_ensureConnected h (by simpa using hopen)

theorem Actuating.resume (h : s.Actuating fun _ => True) (o : Outcome) :
    (s.resume S o).Actuating Prepared := by
  unfold Actuating at h
  unfold Link.resume
  split at h
  · next job attempt stage hholder =>
    obtain ⟨⟨plaintext, rfl⟩, hinit⟩ := h
    rw [hholder]
    exact actuating_resumeOpening hinit attempt stage o
  · next job steps hholder =>
    obtain ⟨⟨plaintext, rfl⟩, hinit⟩ := h
    rw [hholder]
    dsimp only
    split
    · exact actuating_hookNext hinit steps
    · exact actuating_finish _ _
  · next plaintext steps hholder =>
    rw [hholder]
    dsimp only
    split
    · exact actuating_refreshNext h steps
    · exact actuating_finish _ _
    · exact actuating_reopen ((congrArg Prod.snd hookView_beginDisconnect).trans h)
        client_of_beginDisconnect
  · next plaintext t hholder =>
    rw [hholder]
    exact actuating_reopen ((congrArg Prod.snd (hookView_resumeDisconnect t o)).trans h)
      client_of_resumeDisconnect
  · next hholder =>
    rw [hholder]
    dsimp only
    split
    · unfold commandDone armIdleTimer
      dsimp only
      split_ifs <;> exact actuating_finish _ _
    · exact actuating_finish _ _
  · next hholder =>
    rw [hholder]
    unfold Actuating
    rw [hholder]
    trivial
  · next t hholder =>
    rw [hholder]
    dsimp only
    split
    · trivial
    · trivial

/-! ## The segments of other tasks -/

theorem hookView_keepTeardown (rest : List Teardown) (r : Link × Option Teardown) :
    (keepTeardown rest r).hookView = r.1.hookView := by
  obtain ⟨s', t⟩ := r
  cases t <;> rfl

theorem hookView_release : (s.release S).hookView = s.hookView := by
  unfold release armIdleTimer
  dsimp only
  split_ifs <;> rfl

theorem hookView_step {e : Event} (hcall : e.isCall = false) (hresume : ∀ o, e ≠ .resume o)
    (hidle : s.holder = none → e ≠ .idleCloseRuns) : (s.step S e).hookView = s.hookView := by
  cases e with
  | call job => cases hcall
  | resume o => exact absurd rfl (hresume o)
  | disconnect => exact (hookView_keepTeardown _ _).trans hookView_beginDisconnect
  | resumeDisconnect i o =>
    unfold step
    dsimp only
    split
    · rfl
    · exact (hookView_keepTeardown _ _).trans (hookView_resumeDisconnect _ _)
  | idleTimerFires =>
    unfold step
    dsimp only
    split_ifs <;> rfl
  | idleCloseRuns =>
    unfold step
    dsimp only
    rw [if_neg fun h => hidle (Option.isNone_iff_eq_none.mp h.1) rfl]
  | holdOpen => rfl
  | release => exact hookView_release
  | holdExpires =>
    unfold step
    dsimp only
    split_ifs
    · exact hookView_release
    · rfl
  | linkLost client => rfl
  | inRange b => rfl

theorem resting_idleClose (hfree : s.holder = none) : s.idleClose.Resting := by
  unfold idleClose
  dsimp only
  split_ifs
  · split
    · trivial
    · next s' heq =>
      have hholder : s'.holder = s.holder := by
        have := congrArg Prod.fst
          (hookView_beginDisconnect (s := { s with idleCloses := s.idleCloses - 1 }))
        rw [heq] at this
        exact this
      rw [Resting, hholder, hfree]
      trivial
  · rw [Resting, hfree]
    trivial

theorem Actuating.of_hookView {s' : Link} (h : s.Actuating fun _ => True)
    (hview : s'.hookView = s.hookView) : s'.Actuating fun _ => True := by
  obtain ⟨hholder, hinit⟩ := Prod.mk.inj hview
  unfold Actuating at h ⊢
  rw [hholder, hinit]
  exact h

theorem isCommanding_of_hookView {s' : Link} (hview : s'.hookView = s.hookView) :
    s'.isCommanding = s.isCommanding := by
  rw [isCommanding, isCommanding, (Prod.mk.inj hview).1]

theorem Actuating.prepared (h : s.Actuating Prepared) (hcommand : s.isCommanding = true) :
    s.Prepared := by
  unfold Actuating at h
  unfold isCommanding at hcommand
  split at hcommand
  · next hholder =>
    rw [hholder] at h
    exact h
  · cases hcommand

theorem Resting.actuating (h : s.Resting) (P : Link → Prop) : s.Actuating P := by
  unfold Resting at h
  unfold Actuating
  split at h
  · next hholder => rw [hholder]; trivial
  · next hholder => rw [hholder]; trivial
  · exact h.elim

theorem Resting.not_commanding (h : s.Resting) : s.isCommanding = false := by
  unfold Resting at h
  unfold isCommanding
  split
  · next hholder =>
    rw [hholder] at h
    exact h.elim
  · rfl

theorem resting_of_holder (h : s.holder = none) : s.Resting := by
  rw [Resting, h]
  trivial

theorem Resting.of_hookView {s' : Link} (h : s.Resting) (hview : s'.hookView = s.hookView) :
    s'.Resting := by
  unfold Resting at h ⊢
  rw [(Prod.mk.inj hview).1]
  exact h

theorem resting_idleCloseRuns (hfree : s.holder = none) : (s.step S .idleCloseRuns).Resting := by
  unfold step
  dsimp only
  split_ifs
  · exact resting_idleClose hfree
  · exact resting_of_holder hfree

theorem Resting.step (h : s.Resting) {e : Event} (hcall : e.isCall = false) :
    (s.step S e).Resting := by
  by_cases hresume : ∃ o, e = .resume o
  · obtain ⟨o, rfl⟩ := hresume
    have hinv := h
    unfold Resting at hinv
    change (s.resume S o).Resting
    unfold Link.resume
    split at hinv
    · next hholder =>
      rw [hholder]
      exact h
    · next t hholder =>
      rw [hholder]
      dsimp only
      split
      · trivial
      · trivial
    · exact hinv.elim
  by_cases hidle : s.holder = none ∧ e = .idleCloseRuns
  · obtain ⟨hfree, rfl⟩ := hidle
    exact resting_idleCloseRuns hfree
  · exact h.of_hookView (hookView_step hcall (fun o heq => hresume ⟨o, heq⟩)
      fun hfree heq => hidle ⟨hfree, heq⟩)

/-- A command's write is followed by the end of its operation. -/
theorem spent_step (h : s.isCommanding = true ∨ s.Resting) {e : Event} (hcall : e.isCall = false) :
    ((s.step S e).isCommanding = true ∨ (s.step S e).Resting) ∧ ¬ s.Commands S e := by
  rcases h with hcommand | hrest
  · have hholder : s.holder = some .commanding := by
      unfold isCommanding at hcommand
      split at hcommand
      · assumption
      · cases hcommand
    refine ⟨?_, fun hagain => absurd (hcommand.symm.trans hagain.1) (by decide)⟩
    by_cases hresume : ∃ o, e = .resume o
    · obtain ⟨o, rfl⟩ := hresume
      refine .inr (resting_of_holder ?_)
      change (s.resume S o).holder = none
      unfold Link.resume
      rw [hholder]
      dsimp only
      split
      · unfold commandDone armIdleTimer
        dsimp only
        split_ifs <;> rfl
      · rfl
    · have hview : (s.step S e).hookView = s.hookView :=
        hookView_step hcall (fun o heq => hresume ⟨o, heq⟩) fun hfree => by
          rw [hholder] at hfree
          cases hfree
      exact .inl ((isCommanding_of_hookView hview).trans hcommand)
  · have hnext := hrest.step (S := S) hcall
    refine ⟨.inr hnext, fun hagain => ?_⟩
    exact absurd (hnext.not_commanding.symm.trans hagain.2) (by decide)

/-- The step rule: an event which writes a command finds the client prepared. -/
theorem Actuating.step (h : s.Actuating fun _ => True) {e : Event} (hcall : e.isCall = false) :
    (s.step S e).Actuating (fun _ => True) ∧ (s.Commands S e → (s.step S e).Prepared) := by
  by_cases hresume : ∃ o, e = .resume o
  · obtain ⟨o, rfl⟩ := hresume
    have hstrict : (s.step S (.resume o)).Actuating Prepared := h.resume o
    exact ⟨hstrict.mono fun _ => trivial, fun hcommand => hstrict.prepared hcommand.2⟩
  by_cases hidle : s.holder = none ∧ e = .idleCloseRuns
  · obtain ⟨hfree, rfl⟩ := hidle
    have hrest := resting_idleCloseRuns (S := S) hfree
    exact ⟨hrest.actuating _, fun hcommand =>
      absurd (hrest.not_commanding.symm.trans hcommand.2) (by decide)⟩
  · have hview : (s.step S e).hookView = s.hookView :=
      hookView_step hcall (fun o heq => hresume ⟨o, heq⟩) fun hfree heq => hidle ⟨hfree, heq⟩
    refine ⟨h.of_hookView hview, fun hcommand => ?_⟩
    have hsame := hcommand.2
    rw [isCommanding_of_hookView hview, hcommand.1] at hsame
    cases hsame

/-! ## A whole actuation -/

/-- A command is written to a client on which the hook has run to completion since the call. -/
theorem commands_prepared (hfree : s.holder = none) (hinit : s.initialised = none)
    {es : List Event} (hes : ∀ e ∈ es, e.isCall = false) :
    StepsMeet (step S) (fun s e => s.Commands S e → (s.step S e).Prepared) s
      (.call (.sendActuation plaintext) :: es) := by
  have hcall : (s.step S (.call (.sendActuation plaintext))).Actuating Prepared := by
    change (if s.holder.isNone then s.call S (.sendActuation plaintext) else s).Actuating _
    rw [if_pos (by simp [hfree])]
    exact actuating_call hinit
  refine ⟨fun hcommand => hcall.prepared hcommand.2, ?_⟩
  exact StepsMeet.of_invariant (fun s e hs he => (hs.step he).1) (fun s e hs he => (hs.step he).2)
    (hcall.mono fun _ => trivial) (.of_forall hes _)

/-- After a command none follows without another call. -/
theorem not_commands_again (h : s.isCommanding = true) {es : List Event}
    (hes : ∀ e ∈ es, e.isCall = false) :
    StepsMeet (step S) (fun s e => ¬ s.Commands S e) s es := by
  have hstep : ∀ (s : Link) (e : Event), (s.isCommanding = true ∨ s.Resting) →
      e.isCall = false → ((s.step S e).isCommanding = true ∨ (s.step S e).Resting) :=
    fun _ _ hs he => (spent_step hs he).1
  exact StepsMeet.of_invariant hstep (fun _ _ hs he => (spent_step hs he).2) (.inl h)
    (.of_forall hes _)

/-- However the segments of one `send_actuation` are interleaved with those of other tasks,
from any state in which the lock is free: where its command is written, the client is one on
which the hook has run to completion since the call, and it is written once at most. The
record of the hook is cleared at the call, so that no earlier run of it counts. -/
theorem actuation_on_fresh_init (S : Setting) (s : Link) (hfree : s.holder = none)
    (plaintext : Bytes) (es : List Event) (hes : ∀ e ∈ es, e.isCall = false) :
    let events := .call (.sendActuation plaintext) :: es
    let at_ := fun before : List Event => run (step S) { s with initialised := none } before
    ∀ before e after, events = before ++ e :: after → (at_ before).Commands S e →
      ((at_ before).step S e).Prepared ∧
        ∀ before' e' after', after = before' ++ e' :: after' →
          ¬ (at_ (before ++ e :: before')).Commands S e' := by
  intro events at_ before e after hsplit hcommand
  have hprepared := stepsMeet_iff_forall_append.mp
    (commands_prepared (S := S) (s := { s with initialised := none }) hfree rfl hes)
    before e after hsplit hcommand
  refine ⟨hprepared, fun before' e' after' hafter => ?_⟩
  have hrest : ∀ e ∈ after, e.isCall = false := by
    intro e'' he''
    refine hes e'' ?_
    cases before with
    | nil =>
      obtain ⟨-, rfl⟩ := List.cons.inj hsplit
      exact he''
    | cons b before =>
      obtain ⟨-, rfl⟩ := List.cons.inj hsplit
      simp [he'']
  have honce := stepsMeet_iff_forall_append.mp
    (not_commands_again (S := S) hcommand.2 hrest) before' e' after' hafter
  change ¬ (run (step S) _ (before ++ e :: before')).Commands S e'
  rw [run_append, run_cons]
  exact honce

/-- A cold actuation during which another task disconnects after the hook's write. -/
theorem actuation_on_fresh_init_disconnect :
    let es : List Event := List.replicate 4 (.resume (.done [])) ++
      [.resume (.done goodReply), .disconnect, .resume (.done []), .resumeDisconnect 0 (.done [])]
    let events := .call (.sendActuation [0xB6]) :: es
    let at_ := fun before : List Event =>
      run (step hookedSetting) { plainLink with initialised := none } before
    ∀ before e after, events = before ++ e :: after → (at_ before).Commands hookedSetting e →
      ((at_ before).step hookedSetting e).Prepared ∧
        ∀ before' e' after', after = before' ++ e' :: after' →
          ¬ (at_ (before ++ e :: before')).Commands hookedSetting e' :=
  actuation_on_fresh_init hookedSetting plainLink rfl [0xB6] _ (by simp [Event.isCall])

end Link
end OrbitBhyve.Connection
