import OrbitBhyve.Devices.Protobuf
import OrbitBhyve.Devices.Written

/-!
# What the methods move along

A method moves the world along a preorder when the radio's operations and the
method's own assignments do.
-/

namespace OrbitBhyve.Devices

open Foundation Python Wire

variable {R : Radio ProtobufDevice} {ok : Bytes → Prop}
  {M : World ProtobufDevice → World ProtobufDevice → Prop} [IsPreorder _ M]

theorem moves_getDev {δ : Type} {M : World δ → World δ → Prop} [IsPreorder _ M] :
    Moves M getDev :=
  Moves.bind .get fun _ => .pure _

theorem moves_getClock {δ : Type} {M : World δ → World δ → Prop} [IsPreorder _ M] :
    Moves M getClock :=
  Moves.bind .get fun _ => .pure _

omit [IsPreorder _ M] in
theorem moves_modState {f : DeviceState → DeviceState}
    (h : ∀ w, M w { w with dev := { w.dev with state := f w.dev.state } }) :
    Moves M (modState f) :=
  h

theorem moves_stampCommand {label : String} {notifs : ℕ}
    (h : ∀ (w : World ProtobufDevice) at_ l n, M w { w with dev := { w.dev with state :=
      { w.dev.state with
        lastCommandAt := at_, lastCommandLabel := l, notificationsLastCmd := n } } }) :
    Moves M (stampCommand label notifs) :=
  Moves.bind moves_getClock fun _ => moves_modState fun w => h w _ _ _

theorem moves_sendMessage (h : R.Operates ok M) {pb : Bytes} (hok : Sends ok pb) :
    Moves M (sendMessage R pb) :=
  Moves.bind_raising fun msg hmsg => h.send (hok msg hmsg)

theorem moves_sendMessage_ (h : R.Operates ok M) {pb : Bytes} (hok : Sends ok pb) :
    Moves M (sendMessage_ R pb) :=
  Moves.bind (moves_sendMessage h hok) fun _ => .pure _

theorem run_sendMessage_of_reliable (h : R.Reliable) {pb msg : Bytes}
    (hmsg : buildMessage pb = .ok msg) (hfits : msg.length ≤ 255) (w : World ProtobufDevice) :
    sendMessage_ R pb w = .ok () (w.exchanged R msg) := by
  have hsend : R.send msg w = .ok (R.replies w.tick).drained (w.exchanged R msg) :=
    run_bind_ok (h.run_exchange hfits w)
  rw [sendMessage_, sendMessage, run_bind_ok, run_pure]
  rw [run_bind_ok (run_raising_ok hmsg w), hsend]

theorem noopRainDelayPb_eq_ok {s : DeviceState} {pb : Bytes} (h : noopRainDelayPb s = .ok pb) :
    ∃ block, pb = pbFieldBytes 17 block := by
  unfold noopRainDelayPb at h
  split at h
  · cases h
  · split at h
    · split_ifs at h <;> cases h <;> exact ⟨_, rfl⟩
    · cases h
      exact ⟨_, rfl⟩

theorem moves_elicitByNoop (h : R.Operates ok M)
    (hok : ∀ block, Sends ok (pbFieldBytes 17 block)) : Moves M (elicitByNoop R) :=
  Moves.bind moves_getDev fun _ => .ite (.pure _) (Moves.bind_raising fun pb hpb => by
    obtain ⟨block, rfl⟩ := noopRainDelayPb_eq_ok hpb
    exact Moves.bind (moves_sendMessage_ h (hok block)) fun _ => Moves.bind moves_getDev
      fun _ => .pure _)

/-- What a status read asks of a relation which its run is to move along. -/
structure StatusTraffic (R : Radio ProtobufDevice) (ok : Bytes → Prop)
    (M : World ProtobufDevice → World ProtobufDevice → Prop) : Prop where
  operates : R.Operates ok M
  /-- The request, the flow subscription and the clock. -/
  sends : ∀ f ∈ [15, 57, 75], ∀ block, Sends ok (pbFieldBytes f block)
  elicits : Moves M (elicitByNoop R)

theorem StatusTraffic.of_blocks (h : R.Operates ok M)
    (hok : ∀ f ∈ [15, 17, 57, 75], ∀ block, Sends ok (pbFieldBytes f block)) :
    StatusTraffic R ok M where
  operates := h
  sends := fun f hf => hok f (by
    simp only [List.mem_cons, List.not_mem_nil, or_false] at hf ⊢
    tauto)
  elicits := moves_elicitByNoop h (hok 17 (by simp))

namespace StatusTraffic

variable (h : StatusTraffic R ok M)
include h

omit [IsPreorder _ M] in
theorem sends_subscribe : Sends ok FLOW_SUBSCRIBE_PB :=
  FLOW_SUBSCRIBE_PB_eq ▸ h.sends 57 (by simp) _

omit [IsPreorder _ M] in
theorem sends_unsubscribe : Sends ok FLOW_UNSUBSCRIBE_PB :=
  FLOW_UNSUBSCRIBE_PB_eq ▸ h.sends 57 (by simp) _

omit [IsPreorder _ M] in
theorem sends_request : Sends ok REQUEST_STATUS_PB :=
  REQUEST_STATUS_PB_eq ▸ h.sends 15 (by simp) _

omit [IsPreorder _ M] in
theorem sends_elicitor (syncClock : Bool) (now : DateTime) :
    Sends ok (statusElicitor R syncClock now) := by
  unfold statusElicitor
  split_ifs
  · exact h.sends 75 (by simp) _
  · exact h.sends_request

theorem moves_recoverAttempt : Moves M (recoverAttempt R) :=
  Moves.bind h.operates.suspend fun _ => Moves.bind moves_getDev fun _ =>
    Moves.bind (.onlyIf (Moves.bind (moves_sendMessage_ h.operates h.sends_subscribe) fun _ =>
        moves_sendMessage_ h.operates h.sends_unsubscribe))
      fun _ => Moves.bind (moves_sendMessage_ h.operates h.sends_request) fun _ => h.elicits

theorem moves_recoverStatus : Moves M (recoverStatus R) :=
  Moves.bind (h.moves_recoverAttempt.tryCatch fun _ => .pure _) fun _ =>
    .onlyIf (Moves.bind (h.moves_recoverAttempt.tryCatch fun _ => .pure _) fun _ => .pure _)

theorem moves_requestStatus (syncClock : Bool) : Moves M (requestStatus R syncClock) :=
  Moves.bind moves_getDev fun _ =>
    Moves.bind (.onlyIf (moves_sendMessage_ h.operates h.sends_unsubscribe).swallow) fun _ =>
      Moves.bind moves_getClock fun _ =>
        Moves.bind (moves_sendMessage_ h.operates (h.sends_elicitor _ _)) fun _ =>
          Moves.bind moves_getDev fun _ => .onlyIf h.moves_recoverStatus

theorem moves_refreshStatus
    (hmark : ∀ w, M w { w with dev := { w.dev with statusParsed := some false } })
    (syncClock : Bool) : Moves M (refreshStatus R syncClock) :=
  Moves.bind moves_getDev fun _ => .onlyIf
    (Moves.bind hmark fun _ => h.moves_requestStatus syncClock)

end StatusTraffic

theorem moves_readPrograms (h : R.Operates ok M) (hok : Sends ok buildSyncRequestPb)
    (hprog : ∀ (w : World ProtobufDevice) p, M w { w with dev := { w.dev with state :=
      { w.dev.state with programs := p } } }) : Moves M (readPrograms R) :=
  Moves.bind_raising fun msg hmsg => Moves.bind (h.sendStream (hok msg hmsg)) fun _ =>
    Moves.bind (.raising _) fun _ => Moves.bind moves_getDev fun _ =>
      Moves.bind (moves_modState fun w => hprog w _) fun _ => .pure _

/-! ## The flow read -/

theorem moves_sampleFlow (samples : List (ℤ × PbVal)) : Moves M (sampleFlow samples) := by
  refine Moves.bind .get fun w => ?_
  cases w.dev.state.flowTotal with
  | none => exact .pure _
  | some total => exact .pure _

theorem moves_collectFlow (h : R.Operates ok M) (n : ℕ) (samples : List (ℤ × PbVal)) :
    Moves M (collectFlow R n samples) := by
  induction n generalizing samples with
  | zero => exact .pure _
  | succ n ih =>
    exact Moves.bind h.suspend fun _ => Moves.bind (moves_sampleFlow _) fun _ => ih _

section FlowRead

variable (h : R.Operates ok M) (hsub : Sends ok FLOW_SUBSCRIBE_PB)
  (hunsub : Sends ok FLOW_UNSUBSCRIBE_PB)
  (htotal : ∀ (w : World ProtobufDevice) v, M w { w with dev := { w.dev with state :=
    { w.dev.state with flowTotal := v } } })
  (hgpm : ∀ (w : World ProtobufDevice) v, M w { w with dev := { w.dev with state :=
    { w.dev.state with flowGpm := v } } })
include h hsub htotal hgpm

theorem moves_flowAttempts (left : ℕ) : Moves M (flowAttempts R left) := by
  induction left with
  | zero => exact .pure _
  | succ left ih =>
    refine Moves.bind (moves_modState fun w => htotal w _) fun _ =>
      Moves.bind (moves_sendMessage_ h hsub) fun _ => Moves.bind (moves_sampleFlow _) fun _ =>
        Moves.bind (moves_collectFlow h _ _) fun _ => ?_
    exact .ite (Moves.bind h.suspend fun _ => ih)
      (Moves.bind moves_getDev fun _ => Moves.bind (.raising _) fun _ =>
        moves_modState fun w => hgpm w _)

include hunsub in
theorem moves_readFlowLocked : Moves M (readFlowLocked R) :=
  Moves.bind moves_getDev fun _ => .onlyIf (Moves.tryFinally
    (moves_flowAttempts h hsub htotal hgpm 2)
    (Moves.bind .get fun _ => .onlyIf (moves_sendMessage_ h hunsub).swallow))

end FlowRead

/-! ## Guarded sessions -/

theorem run_tryFinally_disconnect {δ α : Type} {R : Radio δ} (body : Task δ α) (w : World δ) :
    tryFinally body R.disconnect w = match body w with
      | .ok a w₁ => .ok a (w₁.opened R)
      | .error e w₁ => .error e (w₁.opened R) := by
  have hclose : ∀ w, R.disconnect w = .ok () (w.opened R) := Radio.run_suspend
  rw [run_tryFinally]
  cases body w with
  | ok a w₁ => simp only [hclose]
  | error e w₁ => simp only [hclose]

theorem after_tryFinally_disconnect {δ α : Type} {R : Radio δ} (body : Task δ α) (w : World δ) :
    after (tryFinally body R.disconnect) w = (after body w).opened R := by
  rw [after_tryFinally]
  exact after_of_ok (Radio.run_suspend _)

section Guarded

variable {body : ProtobufTask Bool} {w w' : World ProtobufDevice}

theorem run_guardedSession (hconn : w.dev.hasConnection = true) :
    guardedSession R body w = match body w with
      | .ok b w₁ => .ok b (w₁.opened R)
      | .error e w₁ =>
        if PyErr.isLinkError e then .ok false (w₁.opened R) else .error e (w₁.opened R) := by
  rw [guardedSession, bleWriteGuard, run_tryCatch, run_bind_ok (run_getDev w), hconn, if_pos rfl,
    run_tryFinally_disconnect]
  cases body w with
  | ok b w₁ => rfl
  | error e w₁ =>
    dsimp only
    split_ifs
    · rfl
    · rfl

theorem run_guardedSession_of_not (hconn : w.dev.hasConnection = false) :
    guardedSession R body w = .ok false w := by
  rw [guardedSession, bleWriteGuard, run_tryCatch, run_bind_ok (run_getDev w), hconn]
  rfl

theorem after_guardedSession (hconn : w.dev.hasConnection = true) :
    after (guardedSession R body) w = (after body w).opened R := by
  rw [after, after, run_guardedSession hconn]
  cases body w with
  | ok b w₁ => rfl
  | error e w₁ =>
    dsimp only
    split_ifs
    · rfl
    · rfl

theorem after_guardedSession_of_not (hconn : w.dev.hasConnection = false) :
    after (guardedSession R body) w = w :=
  after_of_ok (run_guardedSession_of_not hconn)

/-- A guarded method returns `True` exactly when its body does, and has then disconnected. -/
theorem guardedSession_eq_ok_true : guardedSession R body w = .ok true w' ↔
    w.dev.hasConnection = true ∧ ∃ w₁, body w = .ok true w₁ ∧ w' = w₁.opened R := by
  cases hconn : w.dev.hasConnection with
  | false => simp [run_guardedSession_of_not hconn]
  | true =>
    rw [run_guardedSession hconn]
    cases body w with
    | ok b w₁ => simp [eq_comm]
    | error e w₁ =>
      dsimp only
      split_ifs
      · simp
      · simp

theorem slotBit_of_pos {slot : ℕ} (h : 0 < slot) :
    slotBit (.int slot) = .ok (2 ^ (slot - 1)) := by
  obtain ⟨n, rfl⟩ : ∃ n, slot = n + 1 := ⟨slot - 1, by omega⟩
  exact congrArg Except.ok (Nat.one_shiftLeft n)

end Guarded

/-! ## What is written -/

/-- The log has grown, and every plaintext written since is `ok`. -/
def WritesOnly {δ : Type} (ok : Bytes → Prop) (w w' : World δ) : Prop :=
  ∃ new, w'.log = w.log ++ new ∧ ∀ pt, .wrote pt ∈ new → ok pt

section WritesOnly

variable {δ : Type} {ok : Bytes → Prop}

instance writesOnlyPreorder (ok : Bytes → Prop) : IsPreorder (World δ) (WritesOnly ok) where
  refl w := ⟨[], by simp, by simp⟩
  trans := by
    rintro w₁ w₂ w₃ ⟨new, hlog, hok⟩ ⟨new', hlog', hok'⟩
    refine ⟨new ++ new', by rw [hlog', hlog, List.append_assoc], fun pt hpt => ?_⟩
    rcases List.mem_append.mp hpt with h | h
    · exact hok pt h
    · exact hok' pt h

theorem WritesOnly.of_same {w w' : World δ} (h : w'.log = w.log) : WritesOnly ok w w' :=
  ⟨[], by simp [h], by simp⟩

theorem operates_writesOnly (R : Radio δ) (ok : Bytes → Prop) : R.Operates ok (WritesOnly ok) :=
  Radio.Operates.of_steps
    (fun _ n _ w => ⟨[.heard n w.dev], rfl, by simp⟩)
    (fun _ _ _ _ => .of_same rfl) (fun _ => .of_same rfl)
    fun _ pt hpt _ => ⟨[.wrote pt], rfl, by simpa using hpt⟩

theorem writesOnly_opened (ok : Bytes → Prop) (R : Radio δ) (w : World δ) :
    WritesOnly ok w (w.opened R) :=
  (operates_writesOnly R ok).suspend.of_ok (Radio.run_suspend w)

theorem writesOnly_exchanged (ok : Bytes → Prop) (R : Radio δ) (msg : Bytes) (w : World δ) :
    WritesOnly ok (w.written R msg) (w.exchanged R msg) := by
  obtain ⟨hs, hlog, hheard⟩ := Radio.log_foldl_hears (R := R) (R.replies w.tick).frames
    (w.written R msg)
  refine ⟨hs, hlog, fun pt hpt => ?_⟩
  obtain ⟨n, met, -, heq⟩ := hheard _ hpt
  cases heq

theorem grows_sendMessage_ (R : Radio ProtobufDevice) (pb : Bytes) :
    Moves (WritesOnly fun _ => True) (sendMessage_ R pb) :=
  moves_sendMessage_ (operates_writesOnly R _) fun _ _ => trivial

theorem grows_readPrograms (R : Radio ProtobufDevice) :
    Moves (WritesOnly fun _ => True) (readPrograms R) :=
  moves_readPrograms (operates_writesOnly R _) (fun _ _ => trivial) fun _ _ => .of_same rfl

theorem grows_stampCommand (label : String) (notifs : ℕ) :
    Moves (WritesOnly fun _ => True) (stampCommand label notifs) :=
  moves_stampCommand fun _ _ _ _ => .of_same rfl

theorem WritesOnly.wrote {w w' : World δ} (h : WritesOnly ok w w') :
    ∀ pt, .wrote pt ∈ w'.log.drop w.log.length → ok pt := by
  obtain ⟨new, hlog, hok⟩ := h
  rw [hlog, List.drop_left]
  exact hok

end WritesOnly

end OrbitBhyve.Devices
