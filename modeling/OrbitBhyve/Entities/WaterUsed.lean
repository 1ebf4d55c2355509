import OrbitBhyve.Foundation.PairSum
import OrbitBhyve.Foundation.Runs
import Mathlib.Data.Rat.Lemmas

/-!
# Water used

The sensor books the rate of one coordinator update until the next, as long as
the earlier one was watering, and no more than a cap of it. Times, rates and
totals are exact rationals here where the source has floats.
-/

namespace OrbitBhyve.Entities

open Foundation

/-- What the sensor reads at a coordinator update. -/
structure Update where
  /-- `time.monotonic()`, in seconds. -/
  now : ℚ
  flowGpm : Option ℚ
  isWatering : Bool
  pollWatering : ℤ

/-- `max(120.0, 2.0 * self.coordinator.poll_watering)`. -/
def Update.cap (u : Update) : ℚ := max 120 (2 * u.pollWatering)

def accumulateGallons (total : ℚ) (prevGpm : Option ℚ) (dtSec capSec : ℚ) : ℚ :=
  match prevGpm with
  | none => total
  | some gpm => if gpm ≤ 0 ∨ dtSec ≤ 0 then total else total + gpm * (min dtSec capSec / 60)

structure WaterUsed where
  total : ℚ := 0
  lastUpdate : Option ℚ := none
  prevGpm : Option ℚ := none
  prevWatering : Bool := false

/-- `self._restored_value`. -/
inductive Restored where
  | nothing
  /-- `float` turns it down. -/
  | unreadable
  | gallons (q : ℚ)

/-- The gallons which were restored, none where nothing was that can be read. -/
def Restored.value : Restored → ℚ
  | nothing | unreadable => 0
  | gallons q => q

def asyncAddedToHass (restored : Restored) : WaterUsed where
  total :=
    match restored with
    | .nothing | .unreadable => 0
    | .gallons q => q

def handleCoordinatorUpdate (s : WaterUsed) (u : Update) : WaterUsed where
  total :=
    match s.lastUpdate with
    | none => s.total
    | some last =>
      if s.prevWatering then accumulateGallons s.total s.prevGpm (u.now - last) u.cap else s.total
  lastUpdate := some u.now
  prevGpm := u.flowGpm
  prevWatering := u.isWatering

def waterUsed (restored : Restored) (us : List Update) : WaterUsed :=
  run handleCoordinatorUpdate (asyncAddedToHass restored) us

namespace Update

/-- The rate, zero where there is none. -/
def gpm (u : Update) : ℚ := u.flowGpm.getD 0

def flows (u : Update) : Bool := u.isWatering && decide (0 < u.gpm)

def gallons (u v : Update) : ℚ := u.gpm * min (v.now - u.now) v.cap / 60

def booked (u v : Update) : ℚ := if u.flows then u.gallons v else 0

/-- An update which shows the same run at the same rate. -/
structure Repeats (x u : Update) : Prop where
  flowGpm : x.flowGpm = u.flowGpm
  isWatering : x.isWatering = u.isWatering

variable {u v x : Update}

theorem cap_pos (u : Update) : 0 < u.cap := lt_max_of_lt_left (by norm_num)

theorem flows_eq_true : u.flows = true ↔ u.isWatering = true ∧ 0 < u.gpm := by
  simp [flows]

theorem booked_nonneg (h : u.now ≤ v.now) : 0 ≤ u.booked v := by
  unfold booked
  split_ifs with hflows
  · have hgpm := (flows_eq_true.mp hflows).2
    have hmin : 0 ≤ min (v.now - u.now) v.cap := le_min (sub_nonneg.mpr h) v.cap_pos.le
    unfold gallons
    positivity
  · exact le_rfl

theorem Repeats.booked (h : x.Repeats u) (v : Update) :
    x.booked v = if u.flows then u.gpm * min (v.now - x.now) v.cap / 60 else 0 := by
  have hgpm : x.gpm = u.gpm := congrArg (Option.getD · 0) h.flowGpm
  unfold Update.booked flows gallons
  rw [hgpm, h.isWatering]

/-- An interval within the cap is booked the same in two parts. -/
theorem booked_add_booked (hrepeats : x.Repeats u) (hux : u.now ≤ x.now) (hxv : x.now ≤ v.now)
    (hpoll : x.pollWatering = v.pollWatering) (hcap : v.now - u.now ≤ v.cap) :
    u.booked x + x.booked v = u.booked v := by
  have hcap' : x.cap = v.cap := by
    unfold cap
    rw [hpoll]
  have hsum : (x.now - u.now) + (v.now - x.now) = v.now - u.now := by ring
  have hparts := min_add_min_of_le (sub_nonneg.mpr hux) (sub_nonneg.mpr hxv)
    (hsum.le.trans hcap)
  rw [hrepeats.booked]
  unfold booked gallons
  rw [hcap']
  split_ifs
  · rw [← hsum, ← hparts]
    ring
  · exact add_zero 0

end Update

section Sensor

variable {u v : Update}

def sensorAt (total : ℚ) (u : Update) : WaterUsed where
  total := total
  lastUpdate := some u.now
  prevGpm := u.flowGpm
  prevWatering := u.isWatering

theorem accumulateGallons_eq (total : ℚ) (h : u.now ≤ v.now) (hwatering : u.isWatering = true) :
    accumulateGallons total u.flowGpm (v.now - u.now) v.cap = total + u.booked v := by
  unfold accumulateGallons Update.booked
  cases hgpm : u.flowGpm with
  | none => simp [Update.flows, Update.gpm, hgpm]
  | some q =>
    have hq : u.gpm = q := congrArg (Option.getD · 0) hgpm
    have hflows : u.flows = true ↔ 0 < q := by
      rw [Update.flows_eq_true, hq, hwatering]
      exact and_iff_right rfl
    dsimp only
    unfold Update.gallons
    rw [hq]
    by_cases hpos : 0 < q
    · rw [if_pos (hflows.mpr hpos)]
      split_ifs with hnothing
      · -- no time has passed
        have hsame : v.now - u.now = 0 :=
          le_antisymm (hnothing.resolve_left (not_le.mpr hpos)) (sub_nonneg.mpr h)
        rw [hsame, min_eq_left v.cap_pos.le, mul_zero, zero_div, add_zero]
      · rw [mul_div_assoc]
    · rw [if_neg fun hf => hpos (hflows.mp hf), if_pos (.inl (not_lt.mp hpos)), add_zero]

theorem handleCoordinatorUpdate_sensorAt (total : ℚ) (h : u.now ≤ v.now) :
    handleCoordinatorUpdate (sensorAt total u) v = sensorAt (total + u.booked v) v := by
  have htotal : (handleCoordinatorUpdate (sensorAt total u) v).total = total + u.booked v := by
    cases hwatering : u.isWatering with
    | true =>
      refine Eq.trans ?_ (accumulateGallons_eq total h hwatering)
      exact if_pos hwatering
    | false =>
      have hidle : u.booked v = 0 := by simp [Update.booked, Update.flows, hwatering]
      rw [hidle, add_zero]
      exact if_neg (Bool.eq_false_iff.mp hwatering)
  calc handleCoordinatorUpdate (sensorAt total u) v
      = sensorAt (handleCoordinatorUpdate (sensorAt total u) v).total v := rfl
    _ = sensorAt (total + u.booked v) v := by rw [htotal]

theorem total_run_sensorAt (total : ℚ) {us : List Update}
    (h : (u :: us).IsChain fun u v => u.now ≤ v.now) :
    (run handleCoordinatorUpdate (sensorAt total u) us).total =
      total + pairSum Update.booked (u :: us) := by
  induction us generalizing total u with
  | nil => exact (add_zero total).symm
  | cons v us ih =>
    obtain ⟨huv, hrest⟩ := List.isChain_cons_cons.mp h
    rw [run_cons, handleCoordinatorUpdate_sensorAt total huv, ih _ hrest, pairSum_cons_cons,
      add_assoc]

theorem total_asyncAddedToHass (restored : Restored) :
    (asyncAddedToHass restored).total = restored.value := by
  cases restored <;> rfl

theorem total_waterUsed (restored : Restored) {us : List Update}
    (h : us.IsChain fun u v => u.now ≤ v.now) :
    (waterUsed restored us).total = restored.value + pairSum Update.booked us := by
  rw [← total_asyncAddedToHass]
  cases us with
  | nil => exact (add_zero _).symm
  | cons u us =>
    have hfirst : waterUsed restored (u :: us) =
      run handleCoordinatorUpdate (sensorAt (asyncAddedToHass restored).total u) us := rfl
    rw [hfirst, total_run_sensorAt _ h]

end Sensor

/-- The total is what was restored and the gallons of every interval which flows, it never
decreases, and an update in between changes it only where the interval is longer than the cap. -/
theorem waterUsed_integrates (restored : Restored) (us : List Update)
    (h : us.IsChain fun u v => u.now ≤ v.now) :
    (waterUsed restored us).total = restored.value +
        (((us.zip us.tail).filter fun p => p.1.flows).map fun p => p.1.gallons p.2).sum ∧
      (∀ k, (waterUsed restored (us.take k)).total ≤ (waterUsed restored us).total) ∧
      ∀ before u x v rest, us = before ++ u :: v :: rest → x.Repeats u →
        u.now ≤ x.now → x.now ≤ v.now → x.pollWatering = v.pollWatering →
        (waterUsed restored (before ++ u :: x :: v :: rest)).total ≠ (waterUsed restored us).total →
        v.cap < v.now - u.now := by
  refine ⟨?_, fun k => ?_, ?_⟩
  · rw [total_waterUsed restored h]
    exact congrArg _ (pairSum_eq_sum_filter Update.flows Update.gallons us)
  · have hsplit := List.take_append_drop k us
    have hbooked : (us.take k ++ us.drop k).IsChain fun u v => 0 ≤ u.booked v := by
      rw [hsplit]
      exact h.imp fun _ _ => Update.booked_nonneg
    rw [total_waterUsed restored h, total_waterUsed restored (h.take k)]
    refine add_le_add_right ?_ _
    calc pairSum Update.booked (us.take k)
        ≤ pairSum Update.booked (us.take k ++ us.drop k) := pairSum_le_append hbooked
      _ = pairSum Update.booked us := by rw [hsplit]
  · rintro before u x v rest rfl hrepeats hux hxv hpoll hchanged
    by_contra hcap
    refine hchanged ?_
    have hchain : (before ++ u :: x :: v :: rest).IsChain fun u v => u.now ≤ v.now := by
      rw [List.isChain_split] at h ⊢
      obtain ⟨hbefore, hafter⟩ := h
      rw [List.isChain_cons_cons] at hafter ⊢
      rw [List.isChain_cons_cons]
      exact ⟨hbefore, hux, hxv, hafter.2⟩
    rw [total_waterUsed restored h, total_waterUsed restored hchain,
      pairSum_insert (Update.booked_add_booked hrepeats hux hxv hpoll (not_lt.mp hcap))]

/-- Half a minute at 4.5 gallons a minute, and a quarter of an hour without an update. -/
def outage : List Update :=
  [⟨0, some (9 / 2), true, 30⟩, ⟨30, some (9 / 2), true, 30⟩, ⟨930, none, false, 30⟩]

theorem waterUsed_integrates_outage :
    (waterUsed (.gallons 10) outage).total = 10 + (9 / 4 + 9) := by
  have hchain : outage.IsChain fun u v => u.now ≤ v.now := by
    refine List.isChain_cons_cons.mpr ⟨?_, List.isChain_pair.mpr ?_⟩
    · norm_num
    · norm_num
  rw [(waterUsed_integrates (.gallons 10) outage hchain).1]
  norm_num [outage, Restored.value, Update.flows, Update.gpm, Update.gallons, Update.cap]

end OrbitBhyve.Entities
