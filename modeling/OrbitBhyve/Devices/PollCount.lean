import OrbitBhyve.Devices.Traffic
import OrbitBhyve.Wire.Stream

/-!
# How a poll is booked

A poll which decodes a status is stamped as a success before its flow read and
its program read. The program read is best effort. A flow read which raises is
caught by the handler of the whole poll, which books a failure on top of the
stamp.
-/

namespace OrbitBhyve.Devices

open Foundation Python Wire

structure PollBooks where
  isConnected : Bool
  lastSuccessfulPoll : Option DateTime
  consecutiveTimeouts : ℕ
  deriving DecidableEq

def ProtobufDevice.books (d : ProtobufDevice) : PollBooks :=
  ⟨d.state.isConnected, d.state.lastSuccessfulPoll, d.state.consecutiveTimeouts⟩

namespace PollBooks

def stamp (now : DateTime) : PollBooks := ⟨true, some now, 0⟩

/-- The device was reached and returned no status. -/
def silent (b : PollBooks) : PollBooks :=
  { b with isConnected := true, consecutiveTimeouts := b.consecutiveTimeouts + 1 }

def failed (b : PollBooks) : PollBooks :=
  { b with isConnected := false, consecutiveTimeouts := b.consecutiveTimeouts + 1 }

end PollBooks

variable {replies : ℕ → Reply} {utcOffset : UtcOffset} {w u v : World ProtobufDevice}

/-! ## What keeps the books -/

theorem books_observe (now : DateTime) (pt : Bytes) (d : ProtobufDevice) :
    (observe now pt d).books = d.books := by
  have hrest : ∀ st, Keeps ProtobufDevice.books (applyRest st) := fun st =>
    keeps_applyRest (fun _ _ => rfl) (fun _ _ => rfl) (fun _ _ => rfl) (fun _ _ => rfl)
      (fun _ _ => rfl) fun _ _ => rfl
  have hplain : Keeps ProtobufDevice.books (applyStatusPlaintext now pt) := by
    unfold applyStatusPlaintext
    split
    · exact Moves.pure ()
    · refine Moves.bind (Moves.raising _) fun st => ?_
      refine Moves.bind (keeps_applyClock fun _ _ => rfl) fun _ => ?_
      refine Moves.bind (keeps_applyBattery fun _ _ => rfl) fun _ => ?_
      refine Moves.bind (keeps_applyFlow (fun _ _ => rfl) fun _ _ => rfl) fun _ => ?_
      refine Moves.bind (keeps_applyWatering (fun _ _ => rfl) (fun _ _ => rfl) (fun _ _ => rfl)
        (fun _ _ => rfl) (fun _ _ => rfl) fun _ => rfl) fun _ => ?_
      exact hrest st
  exact hplain d

abbrev SameBooks (w w' : World ProtobufDevice) : Prop := w'.dev.books = w.dev.books

theorem operates_sameBooks :
    (protobufRadio replies utcOffset).Operates (fun _ => True) SameBooks := by
  apply Radio.Operates.of_steps
  · intro k n _ w
    rw [SameBooks, dev_hears]
    exact books_observe n.clock n.pt w.dev
  · intro w clock linkUp monotonic
    rfl
  · intro w
    rfl
  · intro w pt _ _
    rfl

theorem sameBooks_refreshStatus (syncClock : Bool) :
    Moves SameBooks (refreshStatus (protobufRadio replies utcOffset) syncClock) :=
  StatusTraffic.moves_refreshStatus (.of_blocks operates_sameBooks fun _ _ _ _ _ => trivial)
    (fun _ => rfl) syncClock

theorem sameBooks_readFlowLocked :
    Moves SameBooks (readFlowLocked (protobufRadio replies utcOffset)) :=
  moves_readFlowLocked operates_sameBooks (fun _ _ => trivial) (fun _ _ => trivial)
    (fun _ _ => rfl) fun _ _ => rfl

theorem sameBooks_readPrograms :
    Moves SameBooks (readPrograms (protobufRadio replies utcOffset)) :=
  moves_readPrograms operates_sameBooks (fun _ _ => trivial) fun _ _ => rfl

theorem books_opened (w : World ProtobufDevice) :
    (w.opened (protobufRadio replies utcOffset)).dev.books = w.dev.books :=
  operates_sameBooks.suspend.of_ok (Radio.run_suspend w)

/-! ## The ends of a poll -/

inductive PollEnd where
  /-- The status read raises. -/
  | unreachable
  /-- The device is reached and no status is decoded. -/
  | silent
  /-- A status is decoded, and then the flow read raises. -/
  | flowLost
  /-- A status is decoded, and nothing after it raises past its handler. -/
  | read
  deriving DecidableEq

def stamped (u : World ProtobufDevice) : World ProtobufDevice :=
  { u with dev := { u.dev with state :=
    { u.dev.state with
      isConnected := true
      lastSuccessfulPoll := some u.clock
      consecutiveTimeouts := 0 } } }

/-- The flow read of a poll which has just been stamped: none unless a run is on. -/
def pollFlow (R : Radio ProtobufDevice) : ProtobufTask Unit := do
  let d ← getDev
  onlyIf (d.hasFlow && d.state.isWatering) (readFlowLocked R)

def endAfter (R : Radio ProtobufDevice) (u : World ProtobufDevice) : PollEnd :=
  if u.dev.parsed then
    if (result (pollFlow R) (stamped u)).isOk then .read else .flowLost
  else .silent

def pollEnd (R : Radio ProtobufDevice) (w : World ProtobufDevice) : PollEnd :=
  if (result (refreshStatus R true) w).isOk then endAfter R (after (refreshStatus R true) w)
  else .unreachable

/-- The clock at the end of the status read. -/
def pollTime (R : Radio ProtobufDevice) (w : World ProtobufDevice) : DateTime :=
  (after (refreshStatus R true) w).clock

def PollEnd.booked (now : DateTime) (b : PollBooks) : PollEnd → PollBooks
  | .unreachable => b.failed
  | .silent => b.silent
  | .flowLost => (PollBooks.stamp now).failed
  | .read => PollBooks.stamp now

def pollSession (R : Radio ProtobufDevice) : ProtobufTask Unit :=
  tryCatch (pollStatus R) fun _ =>
    modState fun s =>
      { s with consecutiveTimeouts := s.consecutiveTimeouts + 1, isConnected := false }

theorem sameBooks_pollFlow :
    Moves SameBooks (pollFlow (protobufRadio replies utcOffset)) :=
  Moves.bind moves_getDev fun _ => .onlyIf sameBooks_readFlowLocked

def pollPrograms (R : Radio ProtobufDevice) : ProtobufTask Unit := do
  let d ← getDev
  onlyIf (!d.state.isWatering) (swallow (do
    let _ ← readPrograms R))

theorem sameBooks_pollPrograms :
    Moves SameBooks (pollPrograms (protobufRadio replies utcOffset)) :=
  Moves.bind moves_getDev fun _ => .onlyIf (Moves.swallow
    (Moves.bind sameBooks_readPrograms fun _ => .pure _))

theorem pollPrograms_returns (R : Radio ProtobufDevice) : Returns (pollPrograms R) := by
  intro w
  rw [pollPrograms, run_bind_ok (run_getDev w), after_bind_ok (run_getDev w)]
  exact (Returns.swallow _).onlyIf w

theorem run_pollStatus_of_parsed (R : Radio ProtobufDevice)
    (hread : refreshStatus R true w = .ok () u) (hparsed : u.dev.parsed = true) :
    pollStatus R w = (do
      pollFlow R
      pollPrograms R : ProtobufTask Unit) (stamped u) := by
  rw [pollStatus, run_bind_ok hread, run_bind_ok (run_modState _ u), run_bind_ok (run_getDev _)]
  have hparsed' : ({ u.dev with state := { u.dev.state with isConnected := true } } :
      ProtobufDevice).parsed = true := hparsed
  rw [if_pos hparsed', run_bind_ok (run_getClock _), run_bind_ok (run_modState _ _)]
  simp only [pollPrograms, pollFlow, bind_assoc]
  rfl

theorem isOk_of_ok {α : Type} {x : ProtobufTask α} {a : α} (h : x w = .ok a v) :
    (result x w).isOk = true := by
  rw [result, h]
  rfl

theorem isOk_of_error {α : Type} {x : ProtobufTask α} {e : PyErr} (h : x w = .error e v) :
    (result x w).isOk = false := by
  rw [result, h]
  rfl

theorem books_pollSession (w : World ProtobufDevice) :
    (after (pollSession (protobufRadio replies utcOffset)) w).dev.books =
      (pollEnd (protobufRadio replies utcOffset) w).booked
        (pollTime (protobufRadio replies utcOffset) w) w.dev.books := by
  unfold pollEnd pollTime
  cases hread : refreshStatus (protobufRadio replies utcOffset) true w with
  | error e u =>
    have hsame : u.dev.books = w.dev.books := (sameBooks_refreshStatus true).of_error hread
    have hpoll : pollStatus (protobufRadio replies utcOffset) w = .error e u :=
      run_bind_error hread
    rw [isOk_of_error hread, if_neg Bool.false_ne_true, pollSession, after, run_tryCatch, hpoll,
      ← hsame]
    rfl
  | ok a u =>
    have hsame : u.dev.books = w.dev.books := (sameBooks_refreshStatus true).of_ok hread
    rw [isOk_of_ok hread, if_pos rfl, after_of_ok hread, endAfter]
    by_cases hparsed : u.dev.parsed = true
    · rw [if_pos hparsed]
      have hpoll := run_pollStatus_of_parsed (protobufRadio replies utcOffset) hread hparsed
      cases hflow : pollFlow (protobufRadio replies utcOffset) (stamped u) with
      | error e v =>
        have hstamp : v.dev.books = PollBooks.stamp u.clock := sameBooks_pollFlow.of_error hflow
        have hraises : pollStatus (protobufRadio replies utcOffset) w = .error e v :=
          hpoll.trans (run_bind_error hflow)
        rw [isOk_of_error hflow, if_neg Bool.false_ne_true, pollSession, after, run_tryCatch,
          hraises, PollEnd.booked, ← hstamp]
        rfl
      | ok b v =>
        have hstamp : v.dev.books = PollBooks.stamp u.clock := sameBooks_pollFlow.of_ok hflow
        rw [isOk_of_ok hflow, if_pos rfl, pollSession, after, run_tryCatch, hpoll,
          run_bind_ok hflow, pollPrograms_returns]
        exact (sameBooks_pollPrograms v).trans hstamp
    · have hpoll : pollStatus (protobufRadio replies utcOffset) w =
          modState (fun s => { s with consecutiveTimeouts := s.consecutiveTimeouts + 1 })
            { u with dev := { u.dev with state := { u.dev.state with isConnected := true } } } := by
        rw [pollStatus, run_bind_ok hread, run_bind_ok (run_modState _ u),
          run_bind_ok (run_getDev _)]
        exact congrFun (if_neg hparsed) _
      rw [if_neg hparsed, pollSession, after, run_tryCatch, hpoll, ← hsame]
      rfl

/-- What a poll writes, whatever becomes of its operations. -/
theorem books_refreshState (hconn : w.dev.hasConnection = true) :
    (after (refreshState (protobufRadio replies utcOffset)) w).dev.books =
      (pollEnd (protobufRadio replies utcOffset) w).booked
        (pollTime (protobufRadio replies utcOffset) w) w.dev.books := by
  rw [← books_pollSession, refreshState, after_bind_ok (run_getDev w), hconn]
  exact (congrArg (fun w : World ProtobufDevice => w.dev.books)
    (after_tryFinally_disconnect (pollSession _) w)).trans (books_opened _)

/-! ## Counted once -/

/-- After the call the poll is stamped as a success, or one more timeout is counted and the
stamp is the old one. -/
def PollCountedOnce (R : Radio ProtobufDevice) (w : World ProtobufDevice) : Prop :=
  (after (refreshState R) w).dev.books = PollBooks.stamp (pollTime R w) ∨
  ((after (refreshState R) w).dev.books.lastSuccessfulPoll = w.dev.books.lastSuccessfulPoll ∧
    (after (refreshState R) w).dev.books.consecutiveTimeouts =
      w.dev.books.consecutiveTimeouts + 1)

/-- The second booking of a poll does not show: there are no timeouts and the stamp is the same. -/
def StampUnchanged (now : DateTime) (b : PollBooks) : Prop :=
  b.lastSuccessfulPoll = some now ∧ b.consecutiveTimeouts = 0

/-- A poll is counted once exactly when no flow read raises after the stamp, or the stamp does
not change what was there. -/
theorem pollCountedOnce_iff (hconn : w.dev.hasConnection = true) :
    PollCountedOnce (protobufRadio replies utcOffset) w ↔
      pollEnd (protobufRadio replies utcOffset) w ≠ .flowLost ∨
        StampUnchanged (pollTime (protobufRadio replies utcOffset) w) w.dev.books := by
  unfold PollCountedOnce StampUnchanged
  rw [books_refreshState hconn]
  cases pollEnd (protobufRadio replies utcOffset) w with
  | unreachable =>
    apply iff_of_true
    · exact .inr ⟨rfl, rfl⟩
    · exact .inl (by decide)
  | silent =>
    apply iff_of_true
    · exact .inr ⟨rfl, rfl⟩
    · exact .inl (by decide)
  | read =>
    apply iff_of_true
    · exact .inl rfl
    · exact .inl (by decide)
  | flowLost =>
    constructor
    · rintro (hstamp | ⟨hlast, htimeouts⟩)
      · have hone := congrArg PollBooks.consecutiveTimeouts hstamp
        cases hone
      · exact .inr ⟨hlast.symm, (Nat.succ.inj htimeouts).symm⟩
    · rintro (hnot | ⟨hlast, htimeouts⟩)
      · exact absurd rfl hnot
      · exact .inr ⟨hlast.symm, by rw [htimeouts]; rfl⟩

/-! ### A flow read which raises -/

/-- `#16 {#1=4, #6 {#4=0, #5=200}}`: station 1 is watering. -/
def runningBody : Body :=
  ⟨[0x82, 0x01, 0x09, 0x08, 0x04, 0x32, 0x05, 0x20, 0x00, 0x28, 0xC8, 0x01], by decide⟩

/-- The second operation is answered with a status, and the third does not go out. -/
def flowLostReplies : ℕ → Reply
  | 1 => { frames := [⟨runningBody.frame, .epoch⟩], clock := .epoch }
  | 2 => { failed := some .bleakError, clock := .epoch }
  | _ => { clock := .epoch }

def flowDevice : World ProtobufDevice := { dev := { hasFlow := true }, clock := .epoch }

theorem pollCountedOnce_iff_flowDevice :
    PollCountedOnce (protobufRadio flowLostReplies .utc) flowDevice ↔
      pollEnd (protobufRadio flowLostReplies .utc) flowDevice ≠ .flowLost ∨
        StampUnchanged (pollTime (protobufRadio flowLostReplies .utc) flowDevice)
          flowDevice.dev.books :=
  pollCountedOnce_iff rfl

/-- The stamp is new and the poll is counted as a timeout all the same. -/
theorem poll_booked_twice :
    (after (refreshState (protobufRadio flowLostReplies .utc)) flowDevice).dev.books =
        ⟨false, some .epoch, 1⟩ ∧
      ¬ PollCountedOnce (protobufRadio flowLostReplies .utc) flowDevice := by
  have hbooks : (after (refreshState (protobufRadio flowLostReplies .utc)) flowDevice).dev.books =
      ⟨false, some .epoch, 1⟩ := by
    decide +kernel
  refine ⟨hbooks, ?_⟩
  unfold PollCountedOnce
  rw [hbooks]
  rintro (hstamp | ⟨hlast, -⟩)
  · have hone := congrArg PollBooks.consecutiveTimeouts hstamp
    cases hone
  · cases hlast

end OrbitBhyve.Devices
