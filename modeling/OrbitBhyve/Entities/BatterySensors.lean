import OrbitBhyve.Devices.Battery
import OrbitBhyve.Foundation.Runs

/-!
# The battery sensors

A live reading wins over what the sensors had shown before the restart, and the
percentage follows the chemistry which is selected. What is shown over a restart
is the last percentage, under the chemistry of its time.
-/

namespace OrbitBhyve.Entities

open Foundation Python Wire Devices

def chemistryLabel : Chemistry → String
  | .alkaline => "Alkaline"
  | .nimh => "Ni-MH rechargeable"
  | .lithiumPrimary => "Lithium (primary)"
  | .lithiumRegulated => "Lithium (regulated 1.5V)"

def labelToChemistry (label : String) : Option Chemistry :=
  [Chemistry.alkaline, .nimh, .lithiumPrimary, .lithiumRegulated].find? fun c =>
    chemistryLabel c == label

/-- The device, its chemistry, and the `_restored_value` of the two sensors, both of them enabled. -/
structure BatteryEntities where
  world : World ProtobufDevice
  chemistry : Chemistry := .alkaline
  restoredPct : Option ℤ := none
  restoredMv : Option ℕ := none

inductive BatteryEvent where
  /-- Operations of the device, with what comes back to them. -/
  | operate (replies : ℕ → Reply) (utcOffset : UtcOffset) (ops : List ProtobufOp)
  /-- `async_select_option` of `BHyveBatteryChemistrySelect`. -/
  | select (label : String)
  /-- A restart, which makes a new device. -/
  | restart (d : ProtobufDevice)

namespace BatteryEntities

/-- `native_value` of `BHyveBatterySensor`. -/
def percent (s : BatteryEntities) : Option ℤ :=
  (s.world.dev.batteryMv.map fun mv => mvToPct mv s.chemistry).or s.restoredPct

/-- `native_value` of `BHyveBatteryVoltageSensor`. -/
def voltage (s : BatteryEntities) : Option ℕ := s.world.dev.batteryMv.or s.restoredMv

/-- A device right after `__init__`, and entities which have nothing to restore. -/
def installed (w : World ProtobufDevice) : BatteryEntities where
  world := { w with dev := { w.dev with batteryMv := none } }

/-- An unknown label is a `KeyError`; a restart restores the label of the select, and what the
sensors last showed. -/
def step (s : BatteryEntities) : BatteryEvent → BatteryEntities
  | .operate replies utcOffset ops =>
    { s with world := after (ProtobufOp.run (protobufRadio replies utcOffset) ops) s.world }
  | .select label =>
    match labelToChemistry label with
    | some c => { s with chemistry := c }
    | none => s
  | .restart d => {
      world := { s.world with dev := { d with batteryMv := none } }
      chemistry := (labelToChemistry (chemistryLabel s.chemistry)).getD .alkaline
      restoredPct := s.percent
      restoredMv := s.voltage }

/-- The sensors restored the two sides of one reading. -/
def Restored (s : BatteryEntities) : Prop :=
  ∃ c, s.restoredPct = s.restoredMv.map fun mv => mvToPct mv c

/-- Both sensors show one reading. Its chemistry is the selected one if it is of this session. -/
theorem Restored.agree {s : BatteryEntities} (h : s.Restored) :
    ∃ c, (s.percent = s.voltage.map fun mv => mvToPct mv c) ∧
      (s.world.dev.batteryMv.isSome → c = s.chemistry) := by
  cases hmv : s.world.dev.batteryMv with
  | some mv =>
    refine ⟨s.chemistry, ?_, fun _ => rfl⟩
    rw [percent, voltage, hmv]
    rfl
  | none =>
    obtain ⟨c, hc⟩ := h
    refine ⟨c, ?_, fun hlive => by cases hlive⟩
    rw [percent, voltage, hmv]
    exact hc

theorem Restored.step {s : BatteryEntities} (h : s.Restored) (e : BatteryEvent) :
    (s.step e).Restored := by
  cases e with
  | operate replies utcOffset ops => exact h
  | select label =>
    unfold BatteryEntities.step
    dsimp only
    cases labelToChemistry label with
    | none => exact h
    | some c => exact h
  | restart d =>
    obtain ⟨c, hc, -⟩ := h.agree
    exact ⟨c, hc⟩

theorem voltage_step (s : BatteryEntities) (e : BatteryEvent) :
    ∃ new, (s.step e).world.log = s.world.log ++ new ∧
      (s.step e).voltage = (lastSaid batteryHeard new).or s.voltage := by
  cases e with
  | operate replies utcOffset ops =>
    obtain ⟨new, hlog, hmv⟩ := battery_after_run replies utcOffset ops s.world
    refine ⟨new, hlog, ?_⟩
    rw [voltage, voltage, ← Option.or_assoc, ← hmv]
    rfl
  | select label =>
    refine ⟨[], ?_⟩
    rw [List.append_nil]
    unfold BatteryEntities.step
    dsimp only
    cases labelToChemistry label with
    | none => exact ⟨rfl, rfl⟩
    | some c => exact ⟨rfl, rfl⟩
  | restart d =>
    refine ⟨[], ?_, rfl⟩
    rw [List.append_nil]
    rfl

theorem voltage_run (s : BatteryEntities) (es : List BatteryEvent) :
    ∃ new, (run step s es).world.log = s.world.log ++ new ∧
      (run step s es).voltage = (lastSaid batteryHeard new).or s.voltage := by
  induction es generalizing s with
  | nil => exact ⟨[], (List.append_nil _).symm, rfl⟩
  | cons e es ih =>
    obtain ⟨new, hlog, hvoltage⟩ := s.voltage_step e
    obtain ⟨new', hlog', hvoltage'⟩ := ih (s.step e)
    refine ⟨new ++ new', ?_, ?_⟩
    · rw [run_cons, hlog', hlog, List.append_assoc]
    · rw [run_cons, hvoltage', hvoltage, lastSaid_append, Option.or_assoc]

/-- Over any life of the entities, with any operations, restarts and selections in between: the
voltage sensor shows the last reading in range which was ever heard, and the battery sensor
the percentage of that reading, under the selected chemistry if it was heard since the last
restart. -/
theorem sensors_over_restarts (w : World ProtobufDevice) (es : List BatteryEvent) :
    ∃ new, (run step (installed w) es).world.log = w.log ++ new ∧
      (run step (installed w) es).voltage = lastSaid batteryHeard new ∧
      (∃ c, ((run step (installed w) es).percent =
          (lastSaid batteryHeard new).map fun mv => mvToPct mv c) ∧
        ((run step (installed w) es).world.dev.batteryMv.isSome →
          c = (run step (installed w) es).chemistry)) ∧
      ∀ p, (run step (installed w) es).percent = some p → 0 ≤ p ∧ p ≤ 100 := by
  obtain ⟨new, hlog, hvoltage⟩ := (installed w).voltage_run es
  have hinstalled : (installed w).voltage = none := rfl
  rw [hinstalled, Option.or_none] at hvoltage
  have hmeets : StepsMeet step (fun _ _ => True) (installed w) es :=
    StepsMeet.of_forall (fun _ _ => trivial) _
  have hstep : ∀ (s : BatteryEntities) e, s.Restored → True → (s.step e).Restored :=
    fun _ e h _ => h.step e
  have hstart : (installed w).Restored := ⟨.alkaline, rfl⟩
  have hrestored := run_invariant hstep hstart hmeets
  obtain ⟨c, hpercent, hlive⟩ := hrestored.agree
  rw [hvoltage] at hpercent
  refine ⟨new, hlog, hvoltage, ⟨c, hpercent, hlive⟩, fun p hp => ?_⟩
  rw [hpercent] at hp
  obtain ⟨mv, -, rfl⟩ := Option.map_eq_some_iff.mp hp
  exact mvToPct_bounds mv c

/-- `#46 {#3=2828}`: a battery report on its own. -/
def batteryReport : Body := ⟨pbFieldBytes 46 (pbFieldVarint 3 2828), by decide⟩

/-- Every operation hears of 2828 mV. -/
def batteryReplies (_ : ℕ) : Reply where
  frames := [⟨batteryReport.frame, .epoch⟩]
  clock := .epoch

-- Another chemistry, selected before the new session has a reading, leaves the percentage.
example :
    let s := run step (installed { dev := {}, clock := .epoch })
      [.operate batteryReplies .utc [.refreshStatus false], .restart {},
        .select "Ni-MH rechargeable"]
    s.voltage = some 2828 ∧ s.percent = some 71 ∧ s.chemistry = .nimh := by
  decide +kernel

end BatteryEntities

end OrbitBhyve.Entities
