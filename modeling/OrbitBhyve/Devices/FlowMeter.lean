import OrbitBhyve.Devices.MeshWrites
import OrbitBhyve.Foundation.Runs

/-!
# The meter of a mesh device

What the device object knows of the flow is a function of the flow samples among
the frames: every other frame leaves it alone. A sample which is not zero is
booked, and one which is stops the rate.
-/

namespace OrbitBhyve.Devices

open Foundation Python Wire

structure FlowView where
  meter : Gen1Meter := {}
  rate : Option ℚ := none
  volume : Option ℚ := none

def Ht25Device.flow (d : Ht25Device) : FlowView :=
  ⟨d.gen1, d.state.flowLpmGen1, d.state.waterUsedGen1L⟩

def flowSample (pt : Bytes) (d : Ht25Device) : Option (ℕ × ℕ) :=
  match isOwnFrame 11 SEQ_FLOW pt d with
  | .ok true => some (wordAt pt 7, wordAt pt 9)
  | _ => none

namespace FlowView

variable (countsPerLitre : ℕ+)

/-- A sample of a run. One whose rate cannot be formed leaves nothing but its wraps. -/
def book (elapsed cum : ℕ) (v : FlowView) : FlowView :=
  let dt := (v.meter.advance elapsed cum).1
  let wraps := (v.meter.advance elapsed cum).2
  let total := wraps * 65536 + cum
  match gen1Rate dt v.meter.lastTotal total countsPerLitre with
  | .error _ => { v with meter := { v.meter with wraps := wraps } }
  | .ok rate => {
      meter := {
        lastElapsed := some elapsed
        lastCum := cum
        lastTotal := some total
        wraps := wraps }
      rate := rate <|> v.rate
      volume := some (roundTo 100 (floatOf (total / countsPerLitre))) }

variable {countsPerLitre} in
theorem book_of_rate {v : FlowView} {elapsed cum wraps total : ℕ} {dt : Option ℤ}
    {rate : Option ℚ} (hadvance : v.meter.advance elapsed cum = (dt, wraps))
    (htotal : wraps * 65536 + cum = total)
    (hrate : gen1Rate dt v.meter.lastTotal total countsPerLitre = .ok rate) :
    v.book countsPerLitre elapsed cum = {
      meter := {
        lastElapsed := some elapsed
        lastCum := cum
        lastTotal := some total
        wraps := wraps }
      rate := rate <|> v.rate
      volume := some (roundTo 100 (floatOf (total / countsPerLitre))) } := by
  unfold book
  dsimp only
  rw [hadvance]
  dsimp only
  rw [htotal, hrate]

def stop (v : FlowView) : FlowView :=
  if v.rate ≠ none ∧ v.rate ≠ some 0 then { v with rate := some 0 } else v

def hears (v : FlowView) (s : ℕ × ℕ) : FlowView :=
  if s.1 = 0 then v.stop else v.book countsPerLitre s.1 s.2

end FlowView

section Samples

variable {d : Ht25Device} {pt : Bytes}

theorem flow_bookGen1Sample (elapsed cum : ℕ) (d : Ht25Device) :
    (after (bookGen1Sample elapsed cum) d).flow =
      d.flow.book d.flowCountsPerLitre elapsed cum := by
  unfold bookGen1Sample FlowView.book
  rw [after_bind_ok (run_get d), after_bind_ok (run_modify _ d)]
  dsimp only [Ht25Device.flow]
  cases gen1Rate (d.gen1.advance elapsed cum).1 d.gen1.lastTotal
      ((d.gen1.advance elapsed cum).2 * 65536 + cum) d.flowCountsPerLitre with
  | error e =>
    rw [after_bind_error (run_raising_error rfl _)]
  | ok rate =>
    rw [after_bind_ok (run_raising_ok rfl _)]
    cases rate with
    | none => rfl
    | some r => rfl

theorem flow_stopGen1Rate (d : Ht25Device) : (after stopGen1Rate d).flow = d.flow.stop := by
  unfold stopGen1Rate FlowView.stop
  rw [after_bind_ok (run_get d)]
  by_cases hrate : d.state.flowLpmGen1 ≠ none ∧ d.state.flowLpmGen1 ≠ some 0
  · rw [decide_eq_true hrate]
    exact (if_pos hrate).symm
  · rw [decide_eq_false hrate]
    exact (if_neg hrate).symm

theorem flow_applyGen1Sample (elapsed cum : ℕ) (d : Ht25Device) :
    (after (applyGen1Sample elapsed cum) d).flow =
      d.flow.hears d.flowCountsPerLitre (elapsed, cum) := by
  unfold applyGen1Sample FlowView.hears
  dsimp only
  split_ifs
  · exact flow_stopGen1Rate d
  · exact flow_bookGen1Sample elapsed cum d

/-! ## What is not a sample -/

/-- What tells the samples of a device and reads them. -/
def meterConfig (d : Ht25Device) : Option ℤ × ℕ+ := (d.meshDeviceId, d.flowCountsPerLitre)

theorem runWrites_meterConfig : RunWrites fun d d' => meterConfig d' = meterConfig d where
  state _ _ _ := rfl
  battery _ _ := rfl
  notified _ _ := rfl

theorem flowWrites_meterConfig : FlowWrites fun d d' => meterConfig d' = meterConfig d where
  meter _ _ := rfl
  rate _ _ := rfl
  volume _ _ := rfl
  release _ := rfl
  notified _ _ := rfl

theorem meterConfig_meshObserve (now : DateTime) (pt : Bytes) (d : Ht25Device) :
    meterConfig (meshObserve now pt d) = meterConfig d :=
  runWrites_meterConfig.moves_meshObserve flowWrites_meterConfig now pt d

theorem runWrites_flow : RunWrites fun d d' => d'.flow = d.flow where
  state := by
    rintro d _ ⟨_, _, _, _, _, _, rfl⟩
    rfl
  battery _ _ := rfl
  notified _ _ := rfl

theorem keeps_flow_applyFlowEnd (pt : Bytes) : Keeps Ht25Device.flow (applyFlowEnd pt) := by
  refine Moves.bind Moves.get fun d => ?_
  apply Moves.ite
  · exact Moves.bind (Moves.raising _) fun _ => Moves.onlyIf (Moves.modify fun _ => rfl)
  · exact Moves.pure ()

theorem keeps_flow_rest (now : DateTime) (pt : Bytes) :
    Keeps Ht25Device.flow (do
      applyFlowEnd pt
      applyAck now pt) :=
  Moves.bind (keeps_flow_applyFlowEnd pt) fun _ => runWrites_flow.moves_applyAck now pt

theorem flowSample_congr {d d' : Ht25Device} (h : meterConfig d' = meterConfig d) (pt : Bytes) :
    flowSample pt d' = flowSample pt d := by
  have hid : d'.meshDeviceId = d.meshDeviceId := congrArg Prod.fst h
  unfold flowSample isOwnFrame Ht25Device.meshAddress
  rw [hid]

/-- The flow part of a frame which is no sample returns with the device as it was, or raises. -/
theorem after_applyGen1FlowFrame_of_none (h : flowSample pt d = none) :
    after (applyGen1FlowFrame pt) d = d := by
  unfold flowSample at h
  rw [applyGen1FlowFrame, after_bind_ok (run_get d)]
  cases hown : isOwnFrame 11 SEQ_FLOW pt d with
  | error e => exact after_bind_error (run_raising_error rfl d)
  | ok own =>
    cases own with
    | false => exact after_bind_ok (run_raising_ok rfl d)
    | true =>
      rw [hown] at h
      cases h

theorem after_applyGen1FlowFrame_of_some {s : ℕ × ℕ} (h : flowSample pt d = some s) :
    (after (applyGen1FlowFrame pt) d).flow = d.flow.hears d.flowCountsPerLitre s := by
  unfold flowSample at h
  rw [applyGen1FlowFrame, after_bind_ok (run_get d)]
  split at h
  · next hown =>
    cases h
    have hpure : ∀ _ : Unit, Keeps Ht25Device.flow (pure true : MeshObserve Bool) := fun _ =>
      Moves.pure true
    rw [after_bind_ok (run_raising_ok hown d), Keeps.after_bind hpure]
    exact flow_applyGen1Sample _ _ d
  · cases h

theorem byteAt_of_flowSample {s : ℕ × ℕ} (h : flowSample pt d = some s) :
    byteAt pt 3 = SEQ_FLOW := by
  by_contra hseq
  unfold flowSample at h
  split at h
  · next hown =>
    have hfalse := isOwnFrame_of_ne hown hseq
    cases hfalse
  · cases h

theorem flow_meshObserve (now : DateTime) (pt : Bytes) (d : Ht25Device) :
    (meshObserve now pt d).flow =
      match flowSample pt d with
      | none => d.flow
      | some s => d.flow.hears d.flowCountsPerLitre s := by
  unfold meshObserve meshObservePlaintext
  cases hsample : flowSample pt d with
  | some s =>
    have hseq := byteAt_of_flowSample hsample
    have hbase : baseObservePlaintext now pt = pure () :=
      baseObservePlaintext_of_seq now (by rw [hseq]; decide) (by rw [hseq]; decide)
    rw [hbase, Returns.pure.after_bind, after_pure, Keeps.after_bind fun _ => keeps_flow_rest now pt]
    exact after_applyGen1FlowFrame_of_some hsample
  | none =>
    dsimp only
    have hflow := runWrites_flow.moves_baseObservePlaintext now pt
    have hconfig := runWrites_meterConfig.moves_baseObservePlaintext now pt
    cases hbase : baseObservePlaintext now pt d with
    | error e d₁ =>
      rw [after_bind_error hbase]
      exact hflow.of_error hbase
    | ok a d₁ =>
      have hnone : flowSample pt d₁ = none :=
        (flowSample_congr (hconfig.of_ok hbase) pt).trans hsample
      rw [after_bind_ok hbase, Keeps.after_bind fun _ => keeps_flow_rest now pt,
        after_applyGen1FlowFrame_of_none hnone]
      exact hflow.of_ok hbase

end Samples

/-! ## Runs of frames -/

def meshObserveAll (ns : List Notice) (d : Ht25Device) : Ht25Device :=
  ns.foldl (fun d n => meshObserve n.clock n.pt d) d

/-- The samples among a sequence of frames. -/
def flowSamples (ns : List Notice) (d : Ht25Device) : List (ℕ × ℕ) :=
  ns.filterMap fun n => flowSample n.pt d

theorem flow_meshObserveAll (ns : List Notice) (d : Ht25Device) :
    (meshObserveAll ns d).flow =
      run (FlowView.hears d.flowCountsPerLitre) d.flow (flowSamples ns d) := by
  induction ns generalizing d with
  | nil => rfl
  | cons n ns ih =>
    have hconfig := meterConfig_meshObserve n.clock n.pt d
    have hcounts : (meshObserve n.clock n.pt d).flowCountsPerLitre = d.flowCountsPerLitre :=
      congrArg Prod.snd hconfig
    have hsamples : flowSamples ns (meshObserve n.clock n.pt d) = flowSamples ns d :=
      List.filterMap_congr fun m _ => flowSample_congr hconfig m.pt
    have hflow := flow_meshObserve n.clock n.pt d
    change (meshObserveAll ns (meshObserve n.clock n.pt d)).flow = _
    rw [ih, hcounts, hsamples, hflow]
    unfold flowSamples
    rw [List.filterMap_cons]
    cases flowSample n.pt d with
    | none => rfl
    | some s => rfl

end OrbitBhyve.Devices
