import OrbitBhyve.Devices.Faults
import OrbitBhyve.Python.Rounding

/-!
# The battery

A reading is taken over if it lies in the range of two cells, whatever becomes of
the rest of its status. The gauge runs straight between the two ends of a
chemistry.
-/

namespace OrbitBhyve.Devices

open Foundation Python Wire

/-! ## The gauge -/

inductive Chemistry where
  | alkaline
  | nimh
  | lithiumPrimary
  | lithiumRegulated
  deriving DecidableEq

/-- `BATTERY_CHEMISTRIES`: the millivolts at 0% and at 100%. -/
def BATTERY_CHEMISTRIES : Chemistry → ℕ × ℕ
  | .alkaline => (2400, 3000)
  | .nimh => (2350, 2750)
  | .lithiumPrimary => (2600, 3400)
  | .lithiumRegulated => (2400, 3000)

/-- `round(num / den)`. The quotients of the gauge are far enough from a tie for their floats
to round as they do. -/
def roundQuotient (num : ℤ) (den : ℕ) : ℤ :=
  if num < 0 then -(roundHalfEven num.natAbs den : ℤ) else roundHalfEven num.natAbs den

def mvToPct (mv : ℕ) (chemistry : Chemistry) : ℤ :=
  let (lo, hi) := BATTERY_CHEMISTRIES chemistry
  let pct := roundQuotient (((mv : ℤ) - lo) * 100) (hi - lo)
  max 0 (min 100 pct)

theorem mvToPct_bounds (mv : ℕ) (chemistry : Chemistry) :
    0 ≤ mvToPct mv chemistry ∧ mvToPct mv chemistry ≤ 100 :=
  ⟨le_max_left _ _, max_le (by decide) (min_le_left _ _)⟩

example : mvToPct 2828 .alkaline = 71 := by decide

/-! ## The observer -/

def DeviceStatus.batteryReading (st : DeviceStatus) : Option ℕ :=
  match st.batteryMv with
  | some (.int mv) => if 1500 ≤ mv ∧ mv ≤ 4000 then some mv else none
  | _ => none

section Observer

variable {now : DateTime} {st : DeviceStatus} (d : ProtobufDevice)

theorem batteryMv_withSensors :
    (withSensors st (withClock st d)).batteryMv = st.batteryReading.or d.batteryMv := by
  unfold withSensors DeviceStatus.batteryReading
  cases st.batteryMv with
  | none => rfl
  | some v =>
    cases v with
    | bytes b => rfl
    | int mv =>
      dsimp only
      split_ifs <;> rfl

theorem batteryMv_withStartFlags : (withStartFlags st d).batteryMv = d.batteryMv := by
  unfold withStartFlags
  split
  · rfl
  · split_ifs <;> rfl

theorem batteryMv_withStart : (withStart st d).batteryMv = d.batteryMv := by
  unfold withStart
  split_ifs <;> rfl

theorem batteryReading_of_failure {e : PyErr} (h : firstFailure now st d = some (.battery, e)) :
    st.batteryReading = none := by
  obtain ⟨c, -, hc⟩ := List.exists_of_findSome?_eq_some h
  obtain ⟨e', hfail, heq⟩ := Option.map_eq_some_iff.mp hc
  cases heq
  rw [Conversion.failure] at hfail
  rw [DeviceStatus.batteryReading]
  cases hmv : st.batteryMv with
  | none => rfl
  | some v =>
    cases v with
    | bytes b => rfl
    | int mv =>
      rw [hmv] at hfail
      cases hfail

theorem batteryMv_observe (now : DateTime) (pt : Bytes) :
    (observe now pt d).batteryMv =
      ((decodedStatus pt).bind DeviceStatus.batteryReading).or d.batteryMv := by
  rw [observe_eq]
  cases decodedStatus pt with
  | none => rfl
  | some st =>
    have hsensors : (withSensors st (withClock st d)).batteryMv =
        st.batteryReading.or d.batteryMv := batteryMv_withSensors d
    have hkept : ∀ d' : ProtobufDevice, d'.reports = (withSensors st (withClock st d)).reports →
        d'.batteryMv = st.batteryReading.or d.batteryMv := by
      intro d' hd'
      have hmv : d'.batteryMv = (withSensors st (withClock st d)).batteryMv := congrArg Prod.fst hd'
      exact hmv.trans hsensors
    have hfaults : (withFaults st (withRain st (withWatering now st
        (withSensors st (withClock st d))))).batteryMv = st.batteryReading.or d.batteryMv :=
      hkept (withRain st (withWatering now st (withSensors st (withClock st d))))
        ((reports_withRain _).trans (reports_withWatering _))
    rw [Option.bind_some]
    dsimp only
    cases hfail : firstFailure now st d with
    | none =>
      dsimp only
      rw [writtenAll, batteryMv_withStart, batteryMv_withStartFlags, hfaults]
    | some stop =>
      obtain ⟨c, e⟩ := stop
      cases c with
      | battery =>
        rw [batteryReading_of_failure d hfail]
        rfl
      | station => exact hsensors
      | offTime => exact hkept _ ((reports_withRemaining _).trans (reports_withZone _))
      | rainExpiry => exact hkept _ (reports_withWatering _)
      | nextStart => exact (batteryMv_withStartFlags _).trans hfaults

end Observer

def batteryHeard : LogEntry ProtobufDevice → Option ℕ
  | .heard n _ => (decodedStatus n.pt).bind DeviceStatus.batteryReading
  | .wrote _ => none

theorem register_battery (replies : ℕ → Reply) (utcOffset : UtcOffset) :
    Register (protobufRadio replies utcOffset) (fun e => (batteryHeard e).map some)
      (fun d => d.batteryMv) where
  hears n w := by
    have hheard : batteryHeard (.heard n w.dev) =
        (decodedStatus n.pt).bind DeviceStatus.batteryReading := rfl
    rw [dev_hears, batteryMv_observe, hheard]
    cases (decodedStatus n.pt).bind DeviceStatus.batteryReading <;> rfl
  writes _ := rfl

theorem battery_after_run (replies : ℕ → Reply) (utcOffset : UtcOffset) (ops : List ProtobufOp)
    (w : World ProtobufDevice) :
    ∃ new, (after (ProtobufOp.run (protobufRadio replies utcOffset) ops) w).log = w.log ++ new ∧
      (after (ProtobufOp.run (protobufRadio replies utcOffset) ops) w).dev.batteryMv =
        (lastSaid batteryHeard new).or w.dev.batteryMv := by
  obtain ⟨new, hlog, hmv⟩ := (register_battery replies utcOffset).moves_run
    (fun _ _ h => congrArg ObserverFields.batteryMv h) ops w
  refine ⟨new, hlog, ?_⟩
  rw [lastSaid_map] at hmv
  cases hlast : lastSaid batteryHeard new with
  | none =>
    rw [hlast] at hmv
    exact hmv
  | some mv =>
    rw [hlast] at hmv
    exact hmv

end OrbitBhyve.Devices
