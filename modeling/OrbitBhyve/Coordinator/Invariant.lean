import OrbitBhyve.Coordinator.Update

/-!
# Invariants of a device state

A property of the state which the notifications, the bookings and the
auto-close preserve holds in every state of a run: between two events, and
inside one wherever a frame can be heard. A suspension at which a radio lets
nothing be heard is one at which another radio does.
-/

namespace OrbitBhyve.Coordinator

open Foundation Python Wire Devices

variable {δ : Type}

def DeviceClass.heard (c : DeviceClass δ) (n : Notice) (d : δ) : δ :=
  if c.radio.passes n.pt then c.radio.observer n.clock n.pt d else d

variable (c : DeviceClass δ) (ok : Notice → δ → Prop) (P : DeviceState → Prop)

/-- Every device of the log meets `P`, before and after the frame. -/
def HoldsThroughout (log : List (LogEntry δ)) : Prop :=
  ∀ n met, .heard n met ∈ log → P (c.state met) ∧ P (c.state (c.heard n met))

/-- Every frame of the log is `ok` for the device it meets. -/
def AllHeard (log : List (LogEntry δ)) : Prop := ∀ n met, .heard n met ∈ log → ok n met

/-- Where every frame is `ok`, the property is kept. -/
def Maintains (w w' : World δ) : Prop :=
  ∃ new, w'.log = w.log ++ new ∧ (AllHeard ok new → P (c.state w.dev) →
    P (c.state w'.dev) ∧ HoldsThroughout c P new)

/-- The property holds in every state of a run. -/
def Always (s : Setup δ) (es : List Event) : Prop :=
  (∀ k, P (c.state (run (Setup.step c) s (es.take k)).world.dev)) ∧
    HoldsThroughout c P (run (Setup.step c) s es).world.log

variable {c ok P}

theorem AllHeard.mono {log log' : List (LogEntry δ)} (h : AllHeard ok log')
    (hsub : ∀ e ∈ log, e ∈ log') : AllHeard ok log :=
  fun n met hmem => h n met (hsub _ hmem)

theorem HoldsThroughout.append {log log' : List (LogEntry δ)} (h : HoldsThroughout c P log)
    (h' : HoldsThroughout c P log') : HoldsThroughout c P (log ++ log') := by
  intro n met hmem
  rcases List.mem_append.mp hmem with hmem | hmem
  · exact h n met hmem
  · exact h' n met hmem

instance maintainsPreorder : IsPreorder (World δ) (Maintains c ok P) where
  refl w := ⟨[], by simp, fun _ hw => ⟨hw, by simp [HoldsThroughout]⟩⟩
  trans := by
    rintro w₁ w₂ w₃ ⟨new, hlog, hkeep⟩ ⟨new', hlog', hkeep'⟩
    refine ⟨new ++ new', by rw [hlog', hlog, List.append_assoc], fun hok hw => ?_⟩
    obtain ⟨hw₂, hnew⟩ := hkeep (hok.mono fun e => List.mem_append_left _) hw
    obtain ⟨hw₃, hnew'⟩ := hkeep' (hok.mono fun e => List.mem_append_right _) hw₂
    exact ⟨hw₃, hnew.append hnew'⟩

theorem Maintains.of_step {w w' : World δ} (hlog : w'.log = w.log)
    (h : P (c.state w.dev) → P (c.state w'.dev)) : Maintains c ok P w w' :=
  ⟨[], by simp [hlog], fun _ hw => ⟨h hw, by simp [HoldsThroughout]⟩⟩

theorem maintains_writes (w : World δ) (pt : Bytes) :
    Maintains c ok P w { w with log := w.log ++ [.wrote pt] } :=
  ⟨[.wrote pt], rfl, fun _ hw => ⟨hw, by simp [HoldsThroughout]⟩⟩

theorem maintains_hears
    (hheard : ∀ n d, ok n d → P (c.state d) → P (c.state (c.heard n d))) (n : Notice)
    (w : World δ) : Maintains c ok P w (w.hears c.radio n) := by
  refine ⟨[.heard n w.dev], rfl, fun hok hw => ?_⟩
  have hafter := hheard n w.dev (hok n w.dev (by simp)) hw
  refine ⟨hafter, fun n' met hmem => ?_⟩
  obtain ⟨rfl, rfl⟩ : n' = n ∧ met = w.dev := by simpa using hmem
  exact ⟨hw, hafter⟩

/-- The run rule: from a start which meets it, the property holds as long as every frame is
`ok`. -/
theorem always_of_rules (hrules : RunRules c (Maintains c ok P)) {s : Setup δ}
    (hlog : s.world.log = []) (hs : P (c.state s.world.dev)) {es : List Event}
    (hok : AllHeard ok (run (Setup.step c) s es).world.log) : Always c P s es := by
  refine ⟨fun k => ?_, ?_⟩
  · obtain ⟨rest, hrest, -⟩ := hrules.run (run (Setup.step c) s (es.take k)) (es.drop k)
    obtain ⟨new, hnew, hkeep⟩ := hrules.run s (es.take k)
    rw [← run_append, List.take_append_drop] at hrest
    rw [hlog, List.nil_append] at hnew
    rw [hrest, hnew] at hok
    exact (hkeep (hok.mono fun e => List.mem_append_left _) hs).1
  · obtain ⟨new, hnew, hkeep⟩ := hrules.run s es
    rw [hlog, List.nil_append] at hnew
    rw [hnew] at hok ⊢
    exact (hkeep hok hs).2

/-! ## The two families -/

def freshProtobuf (d : ProtobufDevice) (k : DeviceCoordinator) (clock : DateTime) :
    Setup ProtobufDevice :=
  ⟨k, { dev := { d with state := {} }, clock := clock }⟩

def freshMesh (d : Ht25Device) (k : DeviceCoordinator) (clock : DateTime) : Setup Ht25Device :=
  ⟨k, { dev := { d with state := {} }, clock := clock }⟩

theorem heard_protobufClass (replies : ℕ → Reply) (utcOffset : UtcOffset) (n : Notice)
    (d : ProtobufDevice) :
    (protobufClass replies utcOffset).heard n d = observe n.clock n.pt d :=
  dev_hears replies utcOffset { dev := d, clock := n.clock } n

theorem runRules_maintains_protobuf {replies : ℕ → Reply} {utcOffset : UtcOffset}
    {ok : Notice → ProtobufDevice → Prop} {P : DeviceState → Prop}
    (hfields : ∀ {s s' : DeviceState}, s'.runFields = s.runFields → P s → P s')
    (hheard : ∀ n d, ok n d → P d.state → P (observe n.clock n.pt d).state)
    (hbook : ∀ station durationSec (w : World ProtobufDevice), w.dev.state.isWatering = true →
      P w.dev.state → P (after (confirmStart station durationSec) w).dev.state)
    (hclear : ∀ s : DeviceState, s.isWatering = false → P s → P (stoppedState s))
    (hclose : ∀ s : DeviceState, s.isWatering = true → P s → P (closedState s))
    (hcount : ∀ (s : DeviceState) n, s.isWatering = true → P s →
      P { s with secondsRemaining := n }) :
    RunRules (protobufClass replies utcOffset) (Maintains (protobufClass replies utcOffset) ok P) := by
  refine runRules_protobufClass (fun n w => maintains_hears (fun n d hok hd => ?_) n w)
    (fun w pt => maintains_writes w pt) (fun hlog hrun => .of_step hlog (hfields hrun)) ?_ ?_ ?_ ?_
  · rw [heard_protobufClass]
    exact hheard n d hok hd
  · intro station durationSec w hflag
    refine .of_step ?_ (hbook station durationSec w hflag)
    rw [confirmStart, after_bind_ok (run_getClock w), after_bind_ok (run_modState _ w)]
    cases w.clock.addSeconds durationSec <;> rfl
  · exact fun w hflag => .of_step rfl (hclear w.dev.state hflag)
  · exact fun w hflag => .of_step rfl (hclose w.dev.state hflag)
  · exact fun w n hflag => .of_step rfl (hcount w.dev.state n hflag)

theorem runRules_maintains_mesh {replies : ℕ → Reply} {ok : Notice → Ht25Device → Prop}
    {P : DeviceState → Prop}
    (hfields : ∀ {s s' : DeviceState}, s'.runFields = s.runFields → P s → P s')
    (hheard : ∀ n d, ok n d → P d.state → P (meshObserve n.clock n.pt d).state)
    (hclose : ∀ s : DeviceState, s.isWatering = true → P s → P (closedState s))
    (hcount : ∀ (s : DeviceState) n, s.isWatering = true → P s →
      P { s with secondsRemaining := n }) :
    RunRules (meshClass replies) (Maintains (meshClass replies) ok P) := by
  refine runRules_meshClass (fun n w => maintains_hears (fun n d hok hd => ?_) n w)
    (fun w pt => maintains_writes w pt) (fun hlog hrun => .of_step hlog (hfields hrun)) ?_ ?_
  · exact hheard n d hok hd
  · exact fun w hflag => .of_step rfl (hclose w.dev.state hflag)
  · exact fun w n hflag => .of_step rfl (hcount w.dev.state n hflag)

end OrbitBhyve.Coordinator
