import OrbitBhyve.Devices.FlowMeter
import OrbitBhyve.Devices.Ht25
import OrbitBhyve.Foundation.WrapCounter

/-!
# The volume of a measured run

The samples of a run carry the low sixteen bits of its ticks. As long as two
samples are less than one wrap and no more than the plausible flow apart, the
total which the meter keeps is the true one, over any number of wraps.
-/

namespace OrbitBhyve.Devices

open Foundation Python Wire

/-- A genuine sample: the seconds since the start and the true ticks. -/
structure Sample where
  elapsed : ℕ
  ticks : ℕ

namespace Sample

def frame (s : Sample) : ℕ × ℕ := (s.elapsed, s.ticks % 65536)

/-- The next sample is later, and its ticks have grown by less than a wrap and by no more than
the plausible flow. -/
def Precedes (s s' : Sample) : Prop :=
  s.elapsed < s'.elapsed ∧ s.ticks ≤ s'.ticks ∧
    s'.ticks - s.ticks ≤ min 65535 (GEN1_MAX_TICKS_PER_SEC * (s'.elapsed - s.elapsed))

/-- The samples of a run, from its first before any wrap. -/
structure Genuine (samples : List Sample) : Prop where
  first : ∀ s ∈ samples.head?, s.ticks < 65536
  elapsed : ∀ s ∈ samples, 1 ≤ s.elapsed ∧ s.elapsed ≤ 65535
  chain : samples.IsChain Precedes

def meter (s : Sample) : Gen1Meter where
  lastElapsed := some s.elapsed
  lastCum := s.ticks % 65536
  lastTotal := some s.ticks
  wraps := s.ticks / 65536

@[simp] theorem meter_lastCum (s : Sample) : s.meter.lastCum = s.ticks % 65536 := rfl
@[simp] theorem meter_wraps (s : Sample) : s.meter.wraps = s.ticks / 65536 := rfl

/-- The rate between two samples, in litres a minute. -/
def litresPerMinute (countsPerLitre : ℕ+) (s s' : Sample) : ℚ :=
  ((s'.ticks : ℚ) - s.ticks) / ((s'.elapsed : ℚ) - s.elapsed) * 60 / countsPerLitre

/-- The same rate as floats have it. -/
def floatRate (countsPerLitre : ℕ+) (s s' : Sample) : ℚ :=
  litreRate ((s'.ticks : ℚ) - s.ticks) ((s'.elapsed : ℚ) - s.elapsed) countsPerLitre

end Sample

/-- Equal up to what three operations on floats round off. -/
def Near (x y : ℚ) : Prop := |x - y| ≤ |y| / 2 ^ 51 + 32 * leastFloat

/-- Dividing by one at least does not make more of what an operation rounds off. -/
theorem abs_div_sub_div_le {c x y z : ℚ} (hc : 1 ≤ c)
    (h : |y - z| ≤ |x| / 2 ^ 53 + leastFloat / 2) :
    |y / c - z / c| ≤ |x / c| / 2 ^ 53 + leastFloat / 2 := by
  have hpos : 0 < c := by linarith
  have hleast : 0 ≤ leastFloat / 2 := (half_pos leastFloat_pos).le
  calc |y / c - z / c| = |y - z| / c := by rw [← sub_div, abs_div, abs_of_pos hpos]
    _ ≤ (|x| / 2 ^ 53 + leastFloat / 2) / c := by gcongr
    _ = |x / c| / 2 ^ 53 + leastFloat / 2 / c := by
      rw [abs_div, abs_of_pos hpos]
      ring
    _ ≤ |x / c| / 2 ^ 53 + leastFloat / 2 := by
      have hless := div_le_self hleast hc
      linarith

/-- What the three operations round off adds up. -/
theorem litreRate_near (inc dt : ℚ) (countsPerLitre : ℕ+) :
    Near (litreRate inc dt countsPerLitre) (inc / dt * 60 / countsPerLitre) := by
  have hcounts : (1 : ℚ) ≤ countsPerLitre := by exact_mod_cast countsPerLitre.pos
  have hslope := abs_div_sub_div_le hcounts (abs_floatOf_sub_le (inc / dt))
  have hminutes := abs_div_sub_div_le hcounts (abs_floatOf_sub_le (floatOf (inc / dt) * 60))
  have hrate := abs_floatOf_sub_le (floatOf (floatOf (inc / dt) * 60) / countsPerLitre)
  unfold Near litreRate
  rw [mul_div_right_comm] at hminutes ⊢
  -- from here on every value is of a litre
  generalize floatOf (floatOf (floatOf (inc / dt) * 60) / countsPerLitre) = rate at *
  generalize floatOf (floatOf (inc / dt) * 60) / (countsPerLitre : ℚ) = minutes at *
  generalize floatOf (inc / dt) / (countsPerLitre : ℚ) = slope at *
  generalize inc / dt / (countsPerLitre : ℚ) = x at *
  have hsixty : ∀ y : ℚ, |y * 60| = |y| * 60 := by
    intro y
    rw [abs_mul, abs_of_pos (by norm_num : (0 : ℚ) < 60)]
  have hsum : |rate - x * 60| ≤ |rate - minutes| + |minutes - slope * 60| + |slope - x| * 60 := by
    have hfirst := abs_sub_le rate minutes (x * 60)
    have hsecond := abs_sub_le minutes (slope * 60) (x * 60)
    rw [← sub_mul slope x, hsixty] at hsecond
    linarith
  have hslope' : |slope| ≤ |slope - x| + |x| := by
    have := abs_add_le (slope - x) x
    rwa [sub_add_cancel] at this
  have hminutes' : |minutes| ≤ |minutes - slope * 60| + |slope * 60| := by
    have := abs_add_le (minutes - slope * 60) (slope * 60)
    rwa [sub_add_cancel] at this
  rw [hsixty] at hminutes hminutes' ⊢
  have hx := abs_nonneg x
  have hleast := leastFloat_pos
  linarith

/-- A float below `8.75`, which is the exact rate. -/
example : roundTo 10 (litreRate 49 3 112) = floatOf (87 / 10) := by decide +kernel

open Sample

variable {countsPerLitre : ℕ+} {s s' : Sample} {v : FlowView}

/-- A later sample wraps, is not believed, or goes on. -/
theorem advance_later {m : Gen1Meter} {prev elapsed : ℕ} (cum : ℕ)
    (hprev : m.lastElapsed = some prev) (hlater : prev < elapsed) :
    m.advance elapsed cum =
      if cum < m.lastCum then
        if GEN1_MAX_TICKS_PER_SEC * (elapsed - prev) < 65536 - m.lastCum + cum then (none, 0)
        else (some ((elapsed : ℤ) - prev), m.wraps + 1)
      else (some ((elapsed : ℤ) - prev), m.wraps) := by
  have hdt : ¬ (elapsed : ℤ) - prev ≤ 0 := by omega
  have hlimit : ((elapsed : ℤ) - prev) * GEN1_MAX_TICKS_PER_SEC <
        ((65536 - m.lastCum + cum : ℕ) : ℤ) ↔
      GEN1_MAX_TICKS_PER_SEC * (elapsed - prev) < 65536 - m.lastCum + cum := by
    have hcast : (elapsed : ℤ) - prev = ((elapsed - prev : ℕ) : ℤ) := by omega
    rw [hcast, Int.mul_comm]
    exact_mod_cast Iff.rfl
  unfold Gen1Meter.advance
  rw [hprev]
  dsimp only
  rw [if_neg hdt]
  simp only [hlimit]

/-- Between two genuine samples the meter counts the wraps of the counter. -/
theorem advance_meter (h : Precedes s s') :
    s.meter.advance s'.elapsed (s'.ticks % 65536) =
      (some ((s'.elapsed : ℤ) - s.elapsed), s'.ticks / 65536) := by
  obtain ⟨hlater, hgrow, hplausible⟩ := h
  have hwrap : s'.ticks < s.ticks + 65536 := by omega
  have hlimit : s'.ticks - s.ticks ≤ GEN1_MAX_TICKS_PER_SEC * (s'.elapsed - s.elapsed) :=
    hplausible.trans (min_le_right _ _)
  have hwraps := countWrap_div_mod (M := 65536) (by decide) hgrow hwrap
  unfold countWrap at hwraps
  rw [advance_later (s'.ticks % 65536) rfl hlater, meter_lastCum, meter_wraps]
  by_cases hfall : s'.ticks % 65536 < s.ticks % 65536
  · have himplied := implied_of_fall (M := 65536) (by decide) hgrow hwrap hfall
    rw [if_pos hfall] at hwraps
    rw [if_pos hfall, himplied, if_neg (Nat.not_lt.mpr hlimit), hwraps]
  · rw [if_neg hfall] at hwraps
    rw [if_neg hfall, hwraps]

theorem gen1Rate_meter (h : Precedes s s') :
    gen1Rate (some ((s'.elapsed : ℤ) - s.elapsed)) (some s.ticks) s'.ticks countsPerLitre =
      .ok (some (roundTo 10 (floatRate countsPerLitre s s'))) := by
  obtain ⟨hlater, hgrow, -⟩ := h
  have hdt : (s'.elapsed : ℤ) - s.elapsed ≠ 0 := by omega
  unfold gen1Rate floatRate
  dsimp only
  rw [if_neg (Nat.not_lt.mpr hgrow), if_neg hdt]
  push_cast [hgrow]
  rfl

theorem total_eq (s : Sample) : s.ticks / 65536 * 65536 + s.ticks % 65536 = s.ticks :=
  unwrapped_div_mod 65536 s.ticks

theorem hears_first (h : s.ticks < 65536) (helapsed : 1 ≤ s.elapsed) :
    FlowView.hears countsPerLitre {} s.frame = {
      meter := s.meter
      rate := none
      volume := some (roundTo 100 (floatOf (s.ticks / countsPerLitre))) } := by
  have hlater : s.frame.1 ≠ 0 := Nat.one_le_iff_ne_zero.mp helapsed
  have hwraps : s.ticks / 65536 = 0 := Nat.div_eq_of_lt h
  have hadvance : Gen1Meter.advance {} s.frame.1 s.frame.2 = (none, s.ticks / 65536) := by
    rw [hwraps]
    rfl
  have htotal : s.ticks / 65536 * 65536 + s.frame.2 = s.ticks := total_eq s
  unfold FlowView.hears
  rw [if_neg hlater, FlowView.book_of_rate hadvance htotal rfl]
  rfl

/-- A later sample moves the meter on, with the rate and the volume of the true ticks. -/
theorem hears_next (h : Precedes s s') (hv : v.meter = s.meter) :
    FlowView.hears countsPerLitre v s'.frame = {
      meter := s'.meter
      rate := some (roundTo 10 (floatRate countsPerLitre s s'))
      volume := some (roundTo 100 (floatOf (s'.ticks / countsPerLitre))) } := by
  have hlater : s'.frame.1 ≠ 0 := Nat.ne_zero_of_lt h.1
  have hadvance : v.meter.advance s'.frame.1 s'.frame.2 =
      (some ((s'.elapsed : ℤ) - s.elapsed), s'.ticks / 65536) := by
    rw [hv]
    exact advance_meter h
  have hrate : gen1Rate (some ((s'.elapsed : ℤ) - s.elapsed)) v.meter.lastTotal s'.ticks
      countsPerLitre = .ok (some (roundTo 10 (floatRate countsPerLitre s s'))) := by
    rw [hv]
    exact gen1Rate_meter h
  have htotal : s'.ticks / 65536 * 65536 + s'.frame.2 = s'.ticks := total_eq s'
  unfold FlowView.hears
  rw [if_neg hlater, FlowView.book_of_rate hadvance htotal hrate]
  rfl

/-! ## Runs of samples -/

theorem Sample.Genuine.init {before : List Sample} (h : Genuine (before ++ [s])) :
    Genuine before where
  first := by
    intro t ht
    apply h.first t
    rw [List.head?_append, ht]
    rfl
  elapsed t ht := h.elapsed t (List.mem_append_left [s] ht)
  chain := h.chain.left_of_append

theorem Sample.Genuine.precedes {before : List Sample} {p : Sample}
    (h : Genuine (before ++ [p] ++ [s])) : Precedes p s := by
  have hchain := h.chain
  rw [List.append_assoc] at hchain
  exact List.isChain_pair.mp hchain.right_of_append

/-- What the device knows after the samples `before` and then `s`. -/
def Sample.view (countsPerLitre : ℕ+) (before : List Sample) (s : Sample) : FlowView where
  meter := s.meter
  rate := before.getLast?.map fun p => roundTo 10 (floatRate countsPerLitre p s)
  volume := some (roundTo 100 (floatOf (s.ticks / countsPerLitre)))

theorem run_hears (countsPerLitre : ℕ+) (before : List Sample) (s : Sample)
    (h : Genuine (before ++ [s])) :
    run (FlowView.hears countsPerLitre) {} ((before ++ [s]).map Sample.frame) =
      s.view countsPerLitre before := by
  induction before using List.reverseRecOn generalizing s with
  | nil =>
    have hfirst := h.first s rfl
    have helapsed := h.elapsed s (List.mem_singleton_self s)
    exact hears_first hfirst helapsed.1
  | append_singleton before p ih =>
    have hmeter := congrArg FlowView.meter (ih p h.init)
    rw [List.map_append, run_append, List.map_singleton, run_cons, run_nil,
      hears_next h.precedes hmeter]
    unfold Sample.view
    rw [List.getLast?_concat]
    rfl

section Device

variable {d : Ht25Device}

/-- The frames between the samples do not matter to the meter of a run. -/
theorem flow_of_flowSamples (ns : List Notice) (samples : List (ℕ × ℕ))
    (h : flowSamples ns d = samples) :
    (meshObserveAll ns (resetGen1Flow d)).flow =
      run (FlowView.hears d.flowCountsPerLitre) {} samples := by
  have hsamples : flowSamples ns (resetGen1Flow d) = flowSamples ns d :=
    List.filterMap_congr fun n _ => flowSample_congr rfl n.pt
  rw [flow_meshObserveAll, hsamples, h]
  rfl

/-- The total after a genuine sample is the true one, over any number of wraps, and the rate is
that between the last two samples. -/
theorem gen1Volume_exact (d : Ht25Device) (ns : List Notice) (before : List Sample) (s : Sample)
    (hgenuine : Genuine (before ++ [s]))
    (hframes : flowSamples ns d = (before ++ [s]).map Sample.frame) :
    (meshObserveAll ns (resetGen1Flow d)).gen1.lastTotal = some s.ticks ∧
      (meshObserveAll ns (resetGen1Flow d)).state.waterUsedGen1L =
        some (roundTo 100 (floatOf (s.ticks / d.flowCountsPerLitre))) ∧
      ∀ p ∈ before.getLast?,
        (meshObserveAll ns (resetGen1Flow d)).state.flowLpmGen1 =
          some (roundTo 10 (floatRate d.flowCountsPerLitre p s)) ∧
        Near (floatRate d.flowCountsPerLitre p s) (litresPerMinute d.flowCountsPerLitre p s) := by
  have hflow := flow_of_flowSamples ns _ hframes
  rw [run_hears d.flowCountsPerLitre before s hgenuine] at hflow
  have hmeter := congrArg FlowView.meter hflow
  refine ⟨congrArg Gen1Meter.lastTotal hmeter, congrArg FlowView.volume hflow, ?_⟩
  intro p hp
  have hrate := congrArg FlowView.rate hflow
  unfold Sample.view at hrate
  rw [Option.mem_def.mp hp] at hrate
  exact ⟨hrate, litreRate_near _ _ _⟩

def metered : Ht25Device := { freshHt25 with meshDeviceId := some 0x1234 }

/-- Two samples of a run with a wrap, a frame of another device and a short one between them. -/
def wrappingFrames : List Notice := [
  ⟨[0x34, 0x12, 0x80, 0x0B, 0x40, 0, 0, 0x2C, 0x01, 0x60, 0xEA], .epoch⟩,
  ⟨[0x35, 0x12, 0x81, 0x0B, 0x40, 0, 0, 0x90, 0x01, 0x00, 0x00], .epoch⟩,
  ⟨[0x34, 0x12, 0x82, 0x0B, 0x40, 0, 0], .epoch⟩,
  ⟨[0x34, 0x12, 0x83, 0x0B, 0x40, 0, 0, 0x58, 0x02, 0x40, 0x00], .epoch⟩]

theorem genuine_wrapping : Genuine ([⟨300, 60000⟩] ++ [⟨600, 65600⟩]) where
  first := by
    rintro _ ⟨⟩
    decide
  elapsed := by decide
  chain := List.isChain_pair.mpr ⟨by decide, by decide, by decide⟩

theorem gen1Volume_exact_wrapping :
    (meshObserveAll wrappingFrames (resetGen1Flow metered)).gen1.lastTotal = some 65600 :=
  (gen1Volume_exact metered wrappingFrames [⟨300, 60000⟩] ⟨600, 65600⟩ genuine_wrapping
    (by decide)).1

end Device

end OrbitBhyve.Devices
