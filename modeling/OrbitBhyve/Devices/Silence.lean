import OrbitBhyve.Devices.Traffic

/-!
# A silent radio

From some operation on every write goes out, nothing fails and nothing is
heard. The methods then work from what the device object knew before, which is
where they can be wrong.
-/

namespace OrbitBhyve.Devices

open Foundation Python Wire

/-- The radio is silent from its `k`-th operation on, under a clock which stands still. -/
def SilentFrom (t : DateTime) (k : ℕ) (replies : ℕ → Reply) : Prop :=
  ∀ j, k ≤ j → replies j = { clock := t }

/-- The quantity `q` of the device stays, and only writes are logged. -/
def Unheard {δ γ : Type} (q : δ → γ) (k : ℕ) (w w' : World δ) : Prop :=
  k ≤ w.tick → k ≤ w'.tick ∧ q w'.dev = q w.dev ∧
    ∃ pts : List Bytes, w'.log = w.log ++ pts.map .wrote

def openingThenSilence (opening : List Notice) (t : DateTime) (k j : ℕ) : Reply :=
  if j = k then { opening := opening, clock := t } else { clock := t }

theorem openingThenSilence_self (opening : List Notice) (t : DateTime) (k : ℕ) :
    openingThenSilence opening t k k = { opening := opening, clock := t } :=
  if_pos rfl

theorem silentFrom_openingThenSilence (opening : List Notice) (t : DateTime) (k : ℕ) :
    SilentFrom t (k + 1) (openingThenSilence opening t k) :=
  fun j hj => if_neg (by omega)

section Unheard

variable {δ γ : Type} {R : Radio δ} {q : δ → γ} {t : DateTime} {k : ℕ} {w w' : World δ}

instance (q : δ → γ) (k : ℕ) : IsPreorder (World δ) (Unheard q k) where
  refl w hk := ⟨hk, rfl, [], by simp⟩
  trans := by
    intro w₁ w₂ w₃ h h' hk
    obtain ⟨hk₂, hq, pts, hlog⟩ := h hk
    obtain ⟨hk₃, hq', pts', hlog'⟩ := h' hk₂
    exact ⟨hk₃, hq'.trans hq, pts ++ pts', by rw [hlog', hlog, List.map_append, List.append_assoc]⟩

theorem Unheard.of_same (htick : w'.tick = w.tick) (hlog : w'.log = w.log)
    (hq : q w'.dev = q w.dev) : Unheard q k w w' :=
  fun hk => ⟨htick ▸ hk, hq, [], by simp [hlog]⟩

theorem opened_silent (hs : SilentFrom t k R.replies) (hk : k ≤ w.tick) :
    w.opened R = { w with tick := w.tick + 1, clock := t, linkUp := true, monotonic := 0 } := by
  rw [World.opened, hs _ hk]
  rfl

theorem exchanged_silent (hs : SilentFrom t k R.replies) (hk : k ≤ w.tick) (pt : Bytes) :
    w.exchanged R pt =
      { w with
        tick := w.tick + 1, clock := t, linkUp := true, monotonic := 0,
        log := w.log ++ [.wrote pt] } := by
  rw [World.exchanged, World.written, opened_silent hs hk, hs _ hk]
  rfl

theorem run_exchange_silent (hs : SilentFrom t k R.replies) (hk : k ≤ w.tick) {pt : Bytes}
    (hpt : pt.length ≤ 255) :
    R.exchange pt w = .ok { clock := t } (w.exchanged R pt) := by
  have hfits : ¬ 255 < pt.length := by omega
  rw [Radio.run_exchange, hs _ hk]
  exact if_neg hfits

theorem operates_unheard (hs : SilentFrom t k R.replies) (q : δ → γ) :
    R.Operates (fun _ => True) (Unheard q k) where
  exchange pt _ := by
    intro w hk
    by_cases hpt : pt.length ≤ 255
    · rw [after_of_ok (run_exchange_silent hs hk hpt), exchanged_silent hs hk]
      exact ⟨Nat.le_succ_of_le hk, rfl, [pt], rfl⟩
    · have hfail : R.exchange pt w = .error .valueError (w.opened R) := by
        rw [Radio.run_exchange, hs _ hk]
        exact if_pos (by omega)
      rw [after_of_error hfail, opened_silent hs hk]
      exact ⟨Nat.le_succ_of_le hk, rfl, [], by simp⟩
  suspend := by
    intro w hk
    rw [after_of_ok (Radio.run_suspend w), opened_silent hs hk]
    exact ⟨Nat.le_succ_of_le hk, rfl, [], by simp⟩
  ensureConnected := by
    intro w hk
    have hrun : R.ensureConnected w = .ok () (w.opened R) := by
      rw [Radio.ensureConnected, run_bind_ok (Radio.run_nextReply w), Radio.run_openSession,
        hs _ hk, opened_silent hs hk]
      rfl
    rw [after_of_ok hrun, opened_silent hs hk]
    exact ⟨Nat.le_succ_of_le hk, rfl, [], by simp⟩

end Unheard

section Methods

variable {R : Radio ProtobufDevice} {t : DateTime} {k : ℕ} {w : World ProtobufDevice}

theorem run_sendMessage_silent (hs : SilentFrom t k R.replies) (hk : k ≤ w.tick) {pb msg : Bytes}
    (hmsg : buildMessage pb = .ok msg) (hfits : msg.length ≤ 255) :
    sendMessage_ R pb w = .ok () (w.exchanged R msg) := by
  have hsend : R.send msg w = .ok 0 (w.exchanged R msg) :=
    run_bind_ok (run_exchange_silent hs hk hfits)
  rw [sendMessage_, sendMessage, run_bind_ok, run_pure]
  rw [run_bind_ok (run_raising_ok hmsg w), hsend]

/-- Past the elicitor a status request on a silent radio only falls into the recovery. -/
theorem run_refreshStatus_silent (hs : SilentFrom t k R.replies) (hk : k ≤ w.tick) :
    ∃ w', refreshStatus R false w = .ok () w' := by
  have hops := operates_unheard hs (fun _ : ProtobufDevice => ())
  rw [refreshStatus, run_bind_ok (run_getDev w)]
  cases w.dev.hasConnection with
  | false => exact ⟨w, rfl⟩
  | true =>
    rw [run_onlyIf_true, elicitStatus, run_bind_ok (run_modDev _ w), requestStatus,
      run_bind_ok (run_getDev _)]
    set w₁ : World ProtobufDevice :=
      { w with dev := { w.dev with statusParsed := some false } } with hw₁
    set unsubscribe : ProtobufTask Unit :=
      onlyIf w₁.dev.hasFlow (swallow (sendMessage_ R FLOW_UNSUBSCRIBE_PB)) with hun
    have hret : Returns unsubscribe := .onlyIf (.swallow _)
    have hmoves : Moves (Unheard (fun _ => ()) k) unsubscribe :=
      .onlyIf (moves_sendMessage_ hops fun _ _ => trivial).swallow
    obtain ⟨hk₂, -⟩ := hmoves w₁ hk
    set w₂ := after unsubscribe w₁
    have hmsg : ∃ msg, buildMessage REQUEST_STATUS_PB = .ok msg ∧ msg.length ≤ 255 :=
      ⟨_, rfl, by decide⟩
    obtain ⟨msg, hbuild, hfits⟩ := hmsg
    have helicit : sendMessage_ R (statusElicitor R false w₂.clock) w₂ =
        .ok () (w₂.exchanged R msg) :=
      run_sendMessage_silent hs hk₂ hbuild hfits
    rw [run_bind_ok (hret w₁), run_bind_ok (run_getClock w₂), run_bind_ok helicit,
      run_bind_ok (run_getDev _)]
    exact ⟨_, (recoverStatus_returns R).onlyIf _⟩

/-- The status read's elicitor always fits a frame. -/
theorem exists_elicitor (R : Radio ProtobufDevice) (syncClock : Bool) (now : DateTime) :
    ∃ msg, buildMessage (statusElicitor R syncClock now) = .ok msg ∧ msg.length ≤ 255 := by
  have hlen : (statusElicitor R syncClock now).length ≤ 247 := by
    unfold statusElicitor
    split_ifs
    · have hclock : (pbVarint now.intTimestamp).length ≤ 6 := by
        refine length_pbVarint_int_le ?_
        have hhi := now.hi
        have hmax : maxMicros.tdiv 1000000 < 128 ^ 6 := by decide
        exact lt_of_le_of_lt (Int.tdiv_le_tdiv (by decide) hhi) hmax
      have hoffset : (pbVarint (if R.utcOffset.seconds < 0 then R.utcOffset.seconds % 2 ^ 64
          else R.utcOffset.seconds)).length ≤ 10 := by
        refine length_pbVarint_int_le ?_
        have hhi := R.utcOffset.hi
        split_ifs <;> omega
      set body := pbFieldVarint 1 now.intTimestamp ++
        pbFieldVarintSigned 2 R.utcOffset.seconds with hbody
      have hbodyLen : body.length ≤ 18 := by
        have hfirst : (pbVarint ((1 <<< 3 ||| 0 : ℕ) : ℤ)).length ≤ 1 :=
          length_pbVarint_le (k := 0) (by decide)
        have hsecond : (pbVarint ((2 <<< 3 ||| 0 : ℕ) : ℤ)).length ≤ 1 :=
          length_pbVarint_le (k := 0) (by decide)
        rw [hbody, pbFieldVarint, pbFieldVarintSigned]
        simp only [List.length_append]
        omega
      have htag : (pbVarint ((75 <<< 3 ||| 2 : ℕ) : ℤ)).length ≤ 2 :=
        length_pbVarint_le (k := 1) (by decide)
      have hlenByte : (pbVarint (body.length : ℕ)).length ≤ 1 :=
        length_pbVarint_le (k := 0) (by omega)
      rw [buildSetEpochTimePb, ← hbody, pbFieldBytes]
      simp only [List.length_append]
      omega
    · decide
  have hfits : (statusElicitor R syncClock now).length ≤ 253 := by omega
  refine ⟨_, Body.buildMessage_eq ⟨statusElicitor R syncClock now, hfits⟩, ?_⟩
  rw [Body.length_frame]
  exact Nat.add_le_add_right hlen 8

/-- A round of the recovery on a silent radio ends with the elicitor. -/
theorem run_recoverAttempt_silent (hs : SilentFrom t k R.replies) (hk : k ≤ w.tick)
    (hparsed : w.dev.parsed = false) {pb msg : Bytes}
    (hnoop : noopRainDelayPb w.dev.state = .ok pb) (hmsg : buildMessage pb = .ok msg)
    (hfits : msg.length ≤ 255) :
    ∃ w', recoverAttempt R w = .ok false w' ∧ k ≤ w'.tick ∧ w'.dev = w.dev ∧
      ∃ pts : List Bytes, w'.log = w.log ++ pts.map .wrote ++ [.wrote msg] := by
  have hops := operates_unheard hs (id : ProtobufDevice → ProtobufDevice)
  have hsend : ∀ {w : World ProtobufDevice} (pb : Bytes) {msg : Bytes}, k ≤ w.tick →
      buildMessage pb = .ok msg → msg.length ≤ 255 →
      ∃ w', sendMessage_ R pb w = .ok () w' := fun _ _ hk hmsg hfits =>
    ⟨_, run_sendMessage_silent hs hk hmsg hfits⟩
  have hmoves : ∀ pb, Moves (Unheard id k) (sendMessage_ R pb) := fun pb =>
    moves_sendMessage_ hops fun _ _ => trivial
  -- the reconnect
  have hclose : R.disconnect w = .ok () (w.opened R) := Radio.run_suspend w
  obtain ⟨hk₁, hdev₁, pts₁, hlog₁⟩ := hops.suspend.of_ok hclose hk
  -- the flow subscription
  obtain ⟨w₂, hflow⟩ : ∃ w₂, onlyIf (w.opened R).dev.hasFlow (do
      sendMessage_ R FLOW_SUBSCRIBE_PB
      sendMessage_ R FLOW_UNSUBSCRIBE_PB) (w.opened R) = .ok () w₂ := by
    cases (w.opened R).dev.hasFlow with
    | false => exact ⟨_, rfl⟩
    | true =>
      obtain ⟨u, hu⟩ := hsend FLOW_SUBSCRIBE_PB hk₁ rfl (by decide)
      obtain ⟨hku, -⟩ := (hmoves _).of_ok hu hk₁
      obtain ⟨v, hv⟩ := hsend FLOW_UNSUBSCRIBE_PB hku rfl (by decide)
      exact ⟨v, (run_onlyIf_true _ _).trans ((run_bind_ok hu).trans hv)⟩
  obtain ⟨hk₂, hdev₂, pts₂, hlog₂⟩ := (Moves.onlyIf (Moves.bind (hmoves FLOW_SUBSCRIBE_PB)
    fun _ => hmoves FLOW_UNSUBSCRIBE_PB)).of_ok hflow hk₁
  -- the bare status request
  obtain ⟨w₃, hrequest⟩ := hsend REQUEST_STATUS_PB hk₂ rfl (by decide)
  obtain ⟨hk₃, hdev₃, pts₃, hlog₃⟩ := (hmoves _).of_ok hrequest hk₂
  have hdev : w₃.dev = w.dev := hdev₃.trans (hdev₂.trans hdev₁)
  have hlast := run_sendMessage_silent hs hk₃ hmsg hfits
  refine ⟨w₃.exchanged R msg, ?_, ?_, ?_, pts₁ ++ pts₂ ++ pts₃, ?_⟩
  · rw [recoverAttempt, run_bind_ok hclose, run_bind_ok (run_getDev _), run_bind_ok hflow,
      run_bind_ok hrequest, elicitByNoop, run_bind_ok (run_getDev _), hdev, hparsed,
      if_neg (by simp), run_bind_ok (run_raising_ok hnoop _), run_bind_ok hlast,
      run_bind_ok (run_getDev _), run_pure, exchanged_silent hs hk₃]
    dsimp only
    rw [hdev, hparsed]
  · rw [exchanged_silent hs hk₃]
    exact Nat.le_succ_of_le hk₃
  · rw [exchanged_silent hs hk₃]
    exact hdev
  · rw [exchanged_silent hs hk₃]
    dsimp only
    rw [hlog₃, hlog₂, hlog₁]
    simp

/-- On a silent radio a status read ends with the elicitor. -/
theorem log_requestStatus_silent (hs : SilentFrom t k R.replies) (hk : k ≤ w.tick)
    (hparsed : w.dev.parsed = false) {pb msg : Bytes}
    (hnoop : noopRainDelayPb w.dev.state = .ok pb) (hmsg : buildMessage pb = .ok msg)
    (hfits : msg.length ≤ 255) (syncClock : Bool) :
    ∃ pts : List Bytes, (after (requestStatus R syncClock) w).log =
      w.log ++ pts.map .wrote ++ [.wrote msg] := by
  have hops := operates_unheard hs (id : ProtobufDevice → ProtobufDevice)
  set unsubscribe : ProtobufTask Unit :=
    onlyIf w.dev.hasFlow (swallow (sendMessage_ R FLOW_UNSUBSCRIBE_PB)) with hun
  have hret : Returns unsubscribe := .onlyIf (.swallow _)
  have hmoves : Moves (Unheard id k) unsubscribe :=
    .onlyIf (moves_sendMessage_ hops fun _ _ => trivial).swallow
  obtain ⟨hk₁, hdev₁, pts₁, hlog₁⟩ := hmoves w hk
  set w₁ := after unsubscribe w
  obtain ⟨elicitor, hbuild, hshort⟩ := exists_elicitor R syncClock w₁.clock
  have helicit := run_sendMessage_silent hs hk₁ hbuild hshort
  set w₂ := w₁.exchanged R elicitor
  obtain ⟨hk₂, hdev₂, pts₂, hlog₂⟩ :=
    (moves_sendMessage_ hops fun _ _ => trivial).of_ok helicit hk₁
  have hdev : w₂.dev = w.dev := hdev₂.trans hdev₁
  obtain ⟨w₃, hattempt, hk₃, hdev₃, pts₃, hlog₃⟩ := run_recoverAttempt_silent hs hk₂
    (hdev ▸ hparsed) (hdev ▸ hnoop) hmsg hfits
  have hdev' : w₃.dev = w.dev := hdev₃.trans hdev
  obtain ⟨w₄, hattempt', -, -, pts₄, hlog₄⟩ := run_recoverAttempt_silent hs hk₃
    (hdev' ▸ hparsed) (hdev' ▸ hnoop) hmsg hfits
  have hcatch : ∀ {w w' : World ProtobufDevice}, recoverAttempt R w = .ok false w' →
      (tryCatch (recoverAttempt R) fun _ => pure false : ProtobufTask Bool) w = .ok false w' := by
    intro w w' h
    rw [run_tryCatch, h]
  have hrecover : recoverStatus R w₂ = .ok () w₄ := by
    rw [recoverStatus, run_bind_ok (hcatch hattempt), Bool.not_false, run_onlyIf_true,
      run_bind_ok (hcatch hattempt')]
    rfl
  have hrun : requestStatus R syncClock w = .ok () w₄ := by
    rw [requestStatus, run_bind_ok (run_getDev w), run_bind_ok (hret w),
      run_bind_ok (run_getClock w₁), run_bind_ok helicit, run_bind_ok (run_getDev w₂), hdev, hparsed,
      Bool.not_false, run_onlyIf_true, hrecover]
  refine ⟨pts₁ ++ pts₂ ++ (pts₃ ++ [msg]) ++ pts₄, ?_⟩
  rw [after_of_ok hrun, hlog₄, hlog₃, hlog₂, hlog₁]
  simp

end Methods
end OrbitBhyve.Devices
