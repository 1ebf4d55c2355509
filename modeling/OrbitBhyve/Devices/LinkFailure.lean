import OrbitBhyve.Devices.Settings
import OrbitBhyve.Foundation.Propagation

/-!
# Link failures in guarded methods

Five methods run under `_ble_write_guard`. Each operation they await is a send, a
sleep, or part of a status read's best effort: the flow unsubscribe before the
request and the recovery after an unanswered one, which swallow what they meet.
A link error at any other send comes out of the body, is closed by the
disconnect and turned into `False` by the guard.
-/

namespace OrbitBhyve.Devices

open Foundation Python Wire

inductive GuardedMethod where
  | setProgram (spec : ProgramSpec)
  | deleteProgram (slot : ℕ)
  | setProgramEnabled (slot : ℕ) (on : Bool)
  | setControllerMode (on : Bool)
  | identify (seconds : ℤ)

namespace GuardedMethod

variable (R : Radio ProtobufDevice)

def body : GuardedMethod → ProtobufTask Bool
  | setProgram spec => setProgramBody R spec
  | deleteProgram slot => deleteProgramBody R slot
  | setProgramEnabled slot on => setProgramEnabledBody R slot on
  | setControllerMode on => setControllerModeBody R on
  | identify seconds => identifyBody R seconds

def call : GuardedMethod → ProtobufTask Bool
  | setProgram spec => Devices.setProgram R spec
  | deleteProgram slot => Devices.deleteProgram R slot
  | setProgramEnabled slot on => Devices.setProgramEnabled R slot on
  | setControllerMode on => Devices.setControllerMode R on
  | identify seconds => Devices.identify R seconds

theorem call_eq (m : GuardedMethod) : m.call R = guardedSession R (m.body R) := by
  cases m <;> rfl

end GuardedMethod

/-! ## The operations of a body -/

section Operations

variable (R : Radio ProtobufDevice)

/-- `self.connection.send(_build_message(_FLOW_UNSUBSCRIBE_PB))` under its `try`. -/
def bestEffortUnsubscribe : ProtobufTask Unit := swallow (sendMessage_ R FLOW_UNSUBSCRIBE_PB)

/-- The operations which a part of a body awaits. -/
inductive Awaited : {β : Type} → ProtobufTask β → World ProtobufDevice → ℕ → Prop
  | send (pt : Bytes) (w : World ProtobufDevice) : Awaited (R.exchange pt) w w.tick
  | sleep (w : World ProtobufDevice) : Awaited R.sleep w w.tick
  | unsubscribe {w : World ProtobufDevice} {k : ℕ} :
      w.tick ≤ k → k < (after (bestEffortUnsubscribe R) w).tick →
        Awaited (bestEffortUnsubscribe R) w k
  | recovery {w : World ProtobufDevice} {k : ℕ} :
      w.tick ≤ k → k < (after (recoverStatus R) w).tick → Awaited (recoverStatus R) w k

/-- Every operation of a program is one of these. -/
abbrev Accounts {α : Type} (x : ProtobufTask α) : Prop :=
  Accounted World.tick (Awaited R) x

variable {R}

theorem accounts_exchange (pt : Bytes) : Accounts R (R.exchange pt) := by
  refine .of_known fun w k hlo hhi => ?_
  have htick : (after (R.exchange pt) w).tick = w.tick + 1 := by
    have hrun := Radio.run_exchange (R := R) pt w
    rw [after, hrun]
    cases (R.replies w.tick).failed with
    | some e => exact Radio.tick_opened w
    | none =>
      dsimp only
      split_ifs
      · exact Radio.tick_opened w
      · cases (R.replies w.tick).raised <;> exact Radio.tick_exchanged pt w
  obtain rfl : k = w.tick := by omega
  exact .send pt w

theorem accounts_sleep : Accounts R R.sleep := by
  refine .of_known fun w k hlo hhi => ?_
  have htick : (after R.sleep w).tick = w.tick + 1 := by
    rw [Radio.sleep, after_of_ok (Radio.run_suspend w)]
    exact Radio.tick_opened w
  obtain rfl : k = w.tick := by omega
  exact .sleep w

theorem accounts_getDev : Accounts R getDev := .of_keeps fun _ => rfl

theorem accounts_getClock : Accounts R getClock := .of_keeps fun _ => rfl

theorem accounts_modState (f : DeviceState → DeviceState) : Accounts R (modState f) :=
  .of_keeps fun _ => rfl

theorem accounts_stampCommand (label : String) (notifs : ℕ) :
    Accounts R (stampCommand label notifs) :=
  .of_keeps fun _ => rfl

theorem accounts_raising {α : Type} (r : Except PyErr α) : Accounts R (raising r) :=
  .of_keeps (Moves.raising r)

theorem accounts_sendMessage (pb : Bytes) : Accounts R (sendMessage R pb) :=
  (accounts_raising _).bind fun msg => (accounts_exchange msg).bind fun _ => .pure _

theorem accounts_sendMessage_ (pb : Bytes) : Accounts R (sendMessage_ R pb) :=
  (accounts_sendMessage pb).bind fun _ => .pure _

theorem accounts_sendStream (msg : Bytes) : Accounts R (R.sendStream msg) :=
  (accounts_exchange msg).bind fun _ => .pure _

theorem accounts_readPrograms : Accounts R (readPrograms R) := by
  apply (accounts_raising _).bind
  intro msg
  apply (accounts_sendStream msg).bind
  intro stream
  apply (accounts_raising _).bind
  intro dump
  apply accounts_getDev.bind
  intro d
  exact (accounts_modState _).bind fun _ => .pure _

theorem accounts_requestStatus (syncClock : Bool) : Accounts R (requestStatus R syncClock) := by
  have hunsubscribe : Accounts R (bestEffortUnsubscribe R) :=
    .of_known fun _ _ => .unsubscribe
  have hrecovery : Accounts R (recoverStatus R) := .of_known fun _ _ => .recovery
  apply accounts_getDev.bind
  intro d
  apply hunsubscribe.onlyIf.bind
  intro _
  apply accounts_getClock.bind
  intro now
  apply (accounts_sendMessage_ _).bind
  intro _
  exact accounts_getDev.bind fun d => hrecovery.onlyIf

theorem accounts_refreshStatus (syncClock : Bool) : Accounts R (refreshStatus R syncClock) := by
  apply accounts_getDev.bind
  intro d
  apply Accounted.onlyIf
  exact (Accounted.of_keeps fun _ => rfl).bind fun _ => accounts_requestStatus syncClock

theorem accounts_currentMask (mask : Option PbVal) : Accounts R (currentMask mask) :=
  accounts_getDev.bind fun _ => accounts_raising _

/-! ## The five bodies -/

theorem accounts_storeOnly (mask : PbVal) (bit : ℕ) (stored : Bool) :
    Accounts R (storeOnly R mask bit stored) := by
  apply (accounts_raising _).bind
  intro flags
  apply (accounts_sendMessage_ _).bind
  intro _
  exact (accounts_sendMessage_ _).bind fun _ => .pure _

theorem accounts_enableHandshake (mask : PbVal) (bit : ℕ) (pb : Bytes) :
    Accounts R (enableHandshake R mask bit pb) := by
  apply (accounts_raising _).bind
  intro flags
  have hmask : Accounts R (writeMask R flags) := accounts_sendMessage_ _
  apply hmask.bind
  intro _
  apply (accounts_sendMessage_ _).bind
  intro _
  apply (accounts_sendMessage_ pb).bind
  intro _
  apply hmask.bind
  intro _
  apply (accounts_refreshStatus false).bind
  intro _
  apply accounts_getDev.bind
  intro d
  rcases d.state.nextStartFlags with _ | n | b
  · exact .pure _
  · exact .pure _
  · exact .ite (.pure _) (.of_keeps (Moves.throw _))

theorem accounts_setProgramBody (spec : ProgramSpec) : Accounts R (setProgramBody R spec) := by
  apply accounts_readPrograms.bind
  intro read
  apply (accounts_currentMask _).bind
  intro mask
  apply (accounts_sendMessage_ _).bind
  intro _
  apply (accounts_stampCommand _ _).bind
  intro _
  apply accounts_readPrograms.bind
  intro readBack
  apply (accounts_raising _).bind
  intro bit
  exact .ite (accounts_enableHandshake _ _ _) (accounts_storeOnly _ _ _)

theorem accounts_deleteProgramBody (slot : ℕ) : Accounts R (deleteProgramBody R slot) := by
  apply accounts_readPrograms.bind
  intro read
  apply (accounts_raising _).bind
  intro bit
  apply (accounts_currentMask _).bind
  intro mask
  apply (accounts_raising _).bind
  intro flags
  apply (accounts_sendMessage_ _).bind
  intro _
  apply (accounts_sendMessage_ _).bind
  intro _
  apply (accounts_sendMessage_ _).bind
  intro _
  apply (accounts_stampCommand _ _).bind
  intro _
  apply accounts_readPrograms.bind
  intro readBack
  cases readBack.1.get (.int slot) <;> exact .pure _

theorem accounts_setProgramEnabledBody (slot : ℕ) (on : Bool) :
    Accounts R (setProgramEnabledBody R slot on) := by
  apply accounts_readPrograms.bind
  intro read
  apply (accounts_currentMask _).bind
  intro mask
  apply (accounts_raising _).bind
  intro bit
  apply (accounts_raising _).bind
  intro flags
  have hmask : Accounts R (writeMask R flags) := accounts_sendMessage_ _
  apply hmask.bind
  intro _
  apply (accounts_sendMessage_ _).bind
  intro _
  apply hmask.onlyIf.bind
  intro _
  apply (accounts_stampCommand _ _).bind
  intro _
  apply (accounts_refreshStatus false).bind
  intro _
  apply accounts_readPrograms.bind
  intro readBack
  exact (accounts_currentMask _).bind fun _ => accounts_raising _

theorem accounts_commandMode (on : Bool) : Accounts R (commandMode R on) := by
  apply (accounts_sendMessage _).bind
  intro notifs
  exact (accounts_stampCommand _ _).bind fun _ => accounts_refreshStatus false

theorem accounts_setControllerModeBody (on : Bool) : Accounts R (setControllerModeBody R on) :=
  (accounts_commandMode on).bind fun _ => accounts_getDev.bind fun _ => .pure _

theorem accounts_identifyBody (seconds : ℤ) : Accounts R (identifyBody R seconds) := by
  apply (accounts_sendMessage_ _).bind
  intro _
  apply (accounts_stampCommand _ _).bind
  intro _
  apply accounts_sleep.bind
  intro _
  exact (accounts_sendMessage_ _).bind fun _ => .pure _

theorem accounts_body (m : GuardedMethod) : Accounts R (m.body R) := by
  cases m with
  | setProgram spec => exact accounts_setProgramBody spec
  | deleteProgram slot => exact accounts_deleteProgramBody slot
  | setProgramEnabled slot on => exact accounts_setProgramEnabledBody slot on
  | setControllerMode on => exact accounts_setControllerModeBody on
  | identify seconds => exact accounts_identifyBody seconds

end Operations

/-! ## The law of link failures -/

section Law

variable {R : Radio ProtobufDevice} {m : GuardedMethod} {w : World ProtobufDevice}

/-- Operation `k` of the call is a send, and a link error there makes the call return `False`
with the disconnect behind it. -/
def EndsInFalse (R : Radio ProtobufDevice) (m : GuardedMethod) (w : World ProtobufDevice)
    (k : ℕ) : Prop :=
  ∃ pt u, u.tick = k ∧ Reaches (R.exchange pt) (m.body R) w u ∧
    ∀ e u', R.exchange pt u = .error e u' → PyErr.isLinkError e = true →
      ∃ w', m.call R w = .ok false w' ∧ R.disconnect u' = .ok () w'

def IsSleep (R : Radio ProtobufDevice) (m : GuardedMethod) (w : World ProtobufDevice)
    (k : ℕ) : Prop :=
  ∃ u, u.tick = k ∧ Reaches R.sleep (m.body R) w u

/-- Operation `k` of the call is one of a best effort, which never raises. -/
def IsBestEffort (R : Radio ProtobufDevice) (m : GuardedMethod) (w : World ProtobufDevice)
    (k : ℕ) : Prop :=
  ∃ effort ∈ [bestEffortUnsubscribe R, recoverStatus R], Returns effort ∧
    ∃ u, Reaches effort (m.body R) w u ∧ u.tick ≤ k ∧ k < (after effort u).tick

/-- What a body raises for the link is `False` for the caller, disconnected. -/
theorem call_of_linkError {e : PyErr} {u : World ProtobufDevice}
    (hconn : w.dev.hasConnection = true) (hbody : m.body R w = .error e u)
    (hlink : PyErr.isLinkError e = true) : m.call R w = .ok false (u.opened R) := by
  rw [GuardedMethod.call_eq, run_guardedSession hconn, hbody]
  exact if_pos hlink

/-- A link error at any operation of a guarded method ends the call in `False`, unless the
operation is a sleep or one of a status read's best effort. -/
theorem linkFailure_endsInFalse (m : GuardedMethod) (k : ℕ) (hconn : w.dev.hasConnection = true)
    (hlo : w.tick ≤ k) (hhi : k < (after (m.body R) w).tick) :
    EndsInFalse R m w k ∨ IsSleep R m w k ∨ IsBestEffort R m w k := by
  obtain ⟨β, part, u, hreach, hawaits⟩ := accounts_body m w k hlo hhi
  cases hawaits with
  | send pt u =>
    refine .inl ⟨pt, u, rfl, hreach, fun e u' hraises hlink => ⟨u'.opened R, ?_, ?_⟩⟩
    · exact call_of_linkError hconn (hreach.raises hraises) hlink
    · exact Radio.run_suspend u'
  | sleep u => exact .inr (.inl ⟨u, rfl, hreach⟩)
  | unsubscribe hfrom hto =>
    exact .inr (.inr ⟨bestEffortUnsubscribe R, by simp, .swallow _, u, hreach, hfrom, hto⟩)
  | recovery hfrom hto =>
    exact .inr (.inr ⟨recoverStatus R, by simp, recoverStatus_returns R, u, hreach, hfrom, hto⟩)

end Law

/-- The radio fails to open the session of its `k`-th operation. -/
def failingAt (k : ℕ) (e : PyErr) (j : ℕ) : Reply :=
  { failed := if j = k then some e else none, clock := .epoch }

/-- An identify which fails to start its flash. -/
theorem linkFailure_endsInFalse_identify :
    EndsInFalse (protobufRadio (failingAt 0 .bleakError) .utc) (.identify 6)
        { dev := {}, clock := .epoch } 0 ∨
      IsSleep (protobufRadio (failingAt 0 .bleakError) .utc) (.identify 6)
        { dev := {}, clock := .epoch } 0 ∨
      IsBestEffort (protobufRadio (failingAt 0 .bleakError) .utc) (.identify 6)
        { dev := {}, clock := .epoch } 0 :=
  linkFailure_endsInFalse (.identify 6) 0 rfl (by decide) (by decide +kernel)

def connectionErrors : List PyErr :=
  [.bleakError, .timeoutError, .osError, .bleHandshakeError, .bleNotConnectable]

/-- Operation `k` failing to open its session makes the call return `False`. -/
def ReturnsFalseAt (R : Radio ProtobufDevice) (m : GuardedMethod) (w : World ProtobufDevice)
    (k : ℕ) : Prop :=
  w.tick ≤ k → k < (after (m.body R) w).tick →
    ∀ e ∈ connectionErrors, (R.replies k).failed = some e →
      (result (m.call R) w).toOption = some false

/-- The unsubscribe before the read-back fails and the mode is confirmed all the same; a
device out of range raises out of the guard. -/
theorem linkFailure_swallowed_or_raised :
    ¬ ReturnsFalseAt (protobufRadio (failingAt 1 .bleakError) .utc) (.setControllerMode true)
        { dev := { hasFlow := true, state := { controllerMode := some (.int 1) } },
          clock := .epoch } 1 ∧
      ¬ ReturnsFalseAt (protobufRadio (failingAt 0 .bleNotConnectable) .utc)
        (.setControllerMode true) { dev := {}, clock := .epoch } 0 := by
  constructor
  · intro hfalse
    have hreturns := hfalse (by decide) (by decide +kernel) .bleakError (by decide) rfl
    have htrue : (result (GuardedMethod.call (protobufRadio (failingAt 1 .bleakError) .utc)
        (.setControllerMode true)) { dev := { hasFlow := true, state :=
          { controllerMode := some (.int 1) } }, clock := .epoch }).toOption = some true := by
      decide +kernel
    rw [hreturns] at htrue
    cases htrue
  · intro hfalse
    have hreturns := hfalse (by decide) (by decide +kernel) .bleNotConnectable (by decide) rfl
    have hraises : (result (GuardedMethod.call (protobufRadio (failingAt 0 .bleNotConnectable)
        .utc) (.setControllerMode true)) { dev := {}, clock := .epoch }).toOption = none := by
      decide +kernel
    rw [hreturns] at hraises
    cases hraises

end OrbitBhyve.Devices
