import OrbitBhyve.Coordinator.Invariant
import OrbitBhyve.Devices.Confirmation

/-!
# Open valves and their off times

The wall-clock auto-close needs an off time. A run of the integration never
shows an open valve without one exactly when every report of a run is heard
under an off time which is set, or brings one along. A mesh device which has
once reported a run without a countdown stays open for good: its poll does not
connect while it is watering.
-/

namespace OrbitBhyve.Coordinator

open Foundation Python Wire Devices

variable {δ : Type}

/-- What the frames of a device class say about the run, and that they act by it. -/
structure Reader (c : DeviceClass δ) where
  report : Notice → δ → Option RunReport
  run_heard : ∀ n d, (c.state (c.heard n d)).run = (c.state d).run.hears n.clock (report n d)

def protobufReader (replies : ℕ → Reply) (utcOffset : UtcOffset) :
    Reader (protobufClass replies utcOffset) where
  report n _ := protobufReport n.pt
  run_heard n d := by
    rw [heard_protobufClass]
    exact run_observe n.clock n.pt d

def meshReader (replies : ℕ → Reply) : Reader (meshClass replies) where
  report n d := meshReport n.clock n.pt d
  run_heard n d := run_meshObserve n.clock n.pt d

theorem protobufReader_report (replies : ℕ → Reply) (utcOffset : UtcOffset) (n : Notice)
    (d : ProtobufDevice) : (protobufReader replies utcOffset).report n d = protobufReport n.pt :=
  rfl

theorem meshReader_report (replies : ℕ → Reply) (n : Notice) (d : Ht25Device) :
    (meshReader replies).report n d = meshReport n.clock n.pt d := rfl

/-- The report of a frame needs no off time, finds one set, or names one. -/
def Reader.Covers {c : DeviceClass δ} (rd : Reader c) (n : Notice) (met : δ) : Prop :=
  ∀ rep, rd.report n met = some rep → rep.Covered n.clock (c.state met).expectedOffAt

def Reader.AllCovered {c : DeviceClass δ} (rd : Reader c) (log : List (LogEntry δ)) : Prop :=
  ∀ n met, .heard n met ∈ log → rd.Covers n met

/-- Every device of the log has an off time if it is watering, before and after the frame. -/
def AllTimed (c : DeviceClass δ) (log : List (LogEntry δ)) : Prop :=
  ∀ n met, .heard n met ∈ log →
    (c.state met).run.Timed ∧ (c.state (c.heard n met)).run.Timed

/-- No state of a run is watering without an off time: none between two events, and none
at a point inside an event where a frame can be heard. -/
def NeverStuck (c : DeviceClass δ) (s : Setup δ) (es : List Event) : Prop :=
  (∀ k, (c.state (run (Setup.step c) s (es.take k)).world.dev).run.Timed) ∧
    AllTimed c (run (Setup.step c) s es).world.log

theorem Reader.timed_heard {c : DeviceClass δ} (rd : Reader c) {n : Notice} {d : δ}
    (hd : (c.state d).run.Timed) :
    (c.state (c.heard n d)).run.Timed ↔ rd.Covers n d := by
  rw [rd.run_heard, Covers]
  cases rd.report n d with
  | none => simpa [RunView.hears] using hd
  | some rep =>
    simp only [RunView.hears, RunReport.timed_after, Option.some.injEq, forall_eq']
    rfl

theorem Reader.run_notify {c : DeviceClass δ} (rd : Reader c) (s : Setup δ) (n : Notice) :
    (c.state (s.step c (.notify n)).world.dev).run =
      (c.state s.world.dev).run.hears n.clock (rd.report n s.world.dev) :=
  rd.run_heard n s.world.dev

theorem run_of_runFields {s s' : DeviceState} (h : s'.runFields = s.runFields) :
    s'.run = s.run :=
  congrArg (fun r : RunFields => RunView.mk r.isWatering r.expectedOffAt) h

/-- A run without open ends: it is never stuck exactly when every frame is covered. -/
theorem neverStuck_iff {c : DeviceClass δ} {rd : Reader c}
    (hrules : RunRules c (Maintains c rd.Covers fun s => s.run.Timed)) {s : Setup δ}
    (hlog : s.world.log = []) (hs : (c.state s.world.dev).run.Timed) (es : List Event) :
    NeverStuck c s es ↔ rd.AllCovered (run (Setup.step c) s es).world.log := by
  constructor
  · rintro ⟨-, htimed⟩ n met hmem
    obtain ⟨hmet, hafter⟩ := htimed n met hmem
    exact (rd.timed_heard hmet).mp hafter
  · exact fun hcov => always_of_rules hrules hlog hs hcov

/-! ## The two families -/

theorem runRules_timed_protobuf (replies : ℕ → Reply) (utcOffset : UtcOffset) :
    RunRules (protobufClass replies utcOffset) (Maintains (protobufClass replies utcOffset)
      (protobufReader replies utcOffset).Covers fun s => s.run.Timed) := by
  refine runRules_maintains_protobuf ?_ ?_ ?_ ?_ ?_ ?_
  · intro s s' hrun hs
    rwa [run_of_runFields hrun]
  · intro n d hcov hd
    have hheard := ((protobufReader replies utcOffset).timed_heard hd).mpr hcov
    rwa [heard_protobufClass] at hheard
  · -- a booking only ever sets the off time
    intro station durationSec w _ hw
    rw [confirmStart, after_bind_ok (run_getClock w), after_bind_ok (run_modState _ w)]
    cases hoff : w.clock.addSeconds durationSec with
    | error e =>
      rw [after_bind_error (run_raising_error rfl _)]
      exact hw
    | ok off =>
      rw [after_bind_ok (run_raising_ok rfl _)]
      exact fun _ => rfl
  · exact fun s hflag _ htrue => absurd (hflag.symm.trans htrue) (by decide)
  · exact fun s _ _ htrue => (Bool.false_ne_true htrue).elim
  · exact fun s n _ hs => hs

theorem runRules_timed_mesh (replies : ℕ → Reply) :
    RunRules (meshClass replies) (Maintains (meshClass replies)
      (meshReader replies).Covers fun s => s.run.Timed) := by
  refine runRules_maintains_mesh ?_ ?_ ?_ ?_
  · intro s s' hrun hs
    rwa [run_of_runFields hrun]
  · exact fun n d hcov hd => ((meshReader replies).timed_heard hd).mpr hcov
  · exact fun s _ _ htrue => (Bool.false_ne_true htrue).elim
  · exact fun s n _ hs => hs

/-- From start-up on, and whatever is heard, commanded and polled, a device of either
family is never watering without an off time exactly when every report of a run is heard
under an off time, or names one. -/
theorem offTime_set_iff (replies : ℕ → Reply) (utcOffset : UtcOffset) (k : DeviceCoordinator)
    (clock : DateTime) (es : List Event) :
    (∀ d : ProtobufDevice,
      NeverStuck (protobufClass replies utcOffset) (freshProtobuf d k clock) es ↔
        (protobufReader replies utcOffset).AllCovered
          (run (Setup.step (protobufClass replies utcOffset))
            (freshProtobuf d k clock) es).world.log) ∧
    (∀ d : Ht25Device,
      NeverStuck (meshClass replies) (freshMesh d k clock) es ↔
        (meshReader replies).AllCovered
          (run (Setup.step (meshClass replies)) (freshMesh d k clock) es).world.log) :=
  ⟨fun d => neverStuck_iff (s := freshProtobuf d k clock)
      (runRules_timed_protobuf replies utcOffset) rfl (fun h => (Bool.false_ne_true h).elim) es,
    fun d => neverStuck_iff (s := freshMesh d k clock)
      (runRules_timed_mesh replies) rfl (fun h => (Bool.false_ne_true h).elim) es⟩

/-! ### A run which never ends -/

theorem run_update_mesh_of_untimed (replies : ℕ → Reply) (s : Setup Ht25Device)
    (clock : DateTime) (h : s.world.dev.run = ⟨true, none⟩) :
    (s.update (meshClass replies) clock).world.dev.run = ⟨true, none⟩ := by
  set w := s.atClock clock with hw
  have hrun : w.dev.run = ⟨true, none⟩ := h
  have hflag : w.dev.state.isWatering = true := congrArg RunView.isWatering hrun
  have hoff : w.dev.state.expectedOffAt = none := congrArg RunView.expectedOffAt hrun
  have hrefresh := run_refreshState_mesh replies hflag
  have hpoll : (tryCatch (meshClass replies).refreshState fun _ => throw .updateFailed) w =
      .ok () w := by
    rw [run_tryCatch, hrefresh]
  have hclose : (meshClass replies).autoClose w = .ok false w := by
    have hstate : (meshClass replies).state w.dev = w.dev.state := rfl
    rw [DeviceClass.autoClose, run_bind_ok (run_getDev w), hstate, if_pos hflag, hoff]
    rfl
  have hkeep : Keeps (fun w : World Ht25Device => w.dev.run)
      ((meshClass replies).modState (expireRainDelay clock)) := by
    refine Moves.modify fun w => ?_
    exact congrArg (fun r : RunFields => RunView.mk r.isWatering r.expectedOffAt)
      (runFields_expireRainDelay clock w.dev.state)
  rw [Setup.world_update, ← hw, DeviceClass.asyncUpdateData, after_bind_ok hpoll,
    after_bind_ok hclose, after_bind_ok (run_getClock w)]
  refine Eq.trans ?_ hrun
  exact (Moves.bind hkeep fun _ => Moves.bind moves_getDev fun _ => Moves.bind (.raising _)
    fun _ => .pure _ : Keeps (fun w : World Ht25Device => w.dev.run) _) w

/-- A mesh run without an off time stays open under any number of updates, however late. -/
theorem run_updates_mesh_of_untimed (replies : ℕ → Reply) (s : Setup Ht25Device)
    (clocks : List DateTime) (h : s.world.dev.run = ⟨true, none⟩) :
    (run (Setup.step (meshClass replies)) s (clocks.map .update)).world.dev.run =
      ⟨true, none⟩ := by
  induction clocks generalizing s with
  | nil => exact h
  | cons clock clocks ih => exact ih _ (run_update_mesh_of_untimed replies s clock h)

/-- A STATUS frame of six bytes: the mode `04` and no countdown. -/
def shortStatus : Bytes := [0xD7, 0x47, 0x42, 0x02, 0x40, 0x04]

/-- A `#16` with the run-state 4 and nothing else, or a STATUS without a countdown: the
valve is open without an off time, and on a mesh device for good. -/
theorem offTime_not_set :
    let replies : ℕ → Reply := fun _ => { clock := DateTime.epoch }
    ¬ NeverStuck (protobufClass replies .utc) (freshProtobuf {} {} DateTime.epoch)
        [.notify ⟨runningReport.frame, DateTime.epoch⟩] ∧
      ¬ NeverStuck (meshClass replies) (freshMesh {} {} DateTime.epoch)
        [.notify ⟨shortStatus, DateTime.epoch⟩] ∧
      ∀ clocks : List DateTime,
        (run (Setup.step (meshClass replies)) (freshMesh {} {} DateTime.epoch)
          (.notify ⟨shortStatus, DateTime.epoch⟩ :: clocks.map .update)).world.dev.run =
            ⟨true, none⟩ := by
  intro replies
  set p₀ := freshProtobuf {} {} DateTime.epoch with hp₀
  set m₀ := freshMesh {} {} DateTime.epoch with hm₀
  have hprotobuf : ((protobufClass replies .utc).state (p₀.step (protobufClass replies .utc)
      (.notify ⟨runningReport.frame, DateTime.epoch⟩)).world.dev).run = ⟨true, none⟩ := by
    have hreport : protobufReport runningReport.frame = some (.running none) := by decide +kernel
    rw [(protobufReader replies .utc).run_notify, protobufReader_report, hreport]
    rfl
  have hmesh : ((meshClass replies).state (m₀.step (meshClass replies)
      (.notify ⟨shortStatus, DateTime.epoch⟩)).world.dev).run = ⟨true, none⟩ := by
    have hreport : meshReport DateTime.epoch shortStatus m₀.world.dev = some (.running none) := by
      decide +kernel
    rw [(meshReader replies).run_notify, meshReader_report, hreport]
    rfl
  have hstuck : ¬ (⟨true, none⟩ : RunView).Timed := by decide
  refine ⟨fun h => hstuck ?_, fun h => hstuck ?_, fun clocks => ?_⟩
  · have hone := h.1 1
    rwa [List.take_succ_cons, List.take_zero, run_cons, run_nil, hprotobuf] at hone
  · have hone := h.1 1
    rwa [List.take_succ_cons, List.take_zero, run_cons, run_nil, hmesh] at hone
  · exact run_updates_mesh_of_untimed replies _ clocks hmesh

end OrbitBhyve.Coordinator
