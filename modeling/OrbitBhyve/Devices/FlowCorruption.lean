import OrbitBhyve.Devices.FlowVolume

/-!
# A corrupt flow sample

A sample whose counter falls further than any flow explains makes the meter
anchor anew: the wraps counted so far are gone. The total of the next genuine
sample is counted from there, so it is the true one only where the run had not
wrapped, or where its first wrap is seen right after the corrupt sample.
-/

namespace OrbitBhyve.Devices

open Foundation Python Wire Sample

/-- A sample between two genuine ones, whose counter falls further than the plausible flow. -/
structure CorruptBetween (p s : Sample) (corrupt : ℕ × ℕ) : Prop where
  later : p.elapsed < corrupt.1
  earlier : corrupt.1 < s.elapsed
  falls : corrupt.2 < p.ticks % 65536
  implausible : GEN1_MAX_TICKS_PER_SEC * (corrupt.1 - p.elapsed) <
    65536 - p.ticks % 65536 + corrupt.2

/-- The genuine sample after a corrupt one reads as a wrap. -/
def ReadsAsWrap (s : Sample) (corrupt : ℕ × ℕ) : Prop :=
  s.ticks % 65536 < corrupt.2 ∧
    65536 - corrupt.2 + s.ticks % 65536 ≤ GEN1_MAX_TICKS_PER_SEC * (s.elapsed - corrupt.1)

instance (s : Sample) (corrupt : ℕ × ℕ) : Decidable (ReadsAsWrap s corrupt) :=
  inferInstanceAs (Decidable (_ ∧ _))

/-- The run has not wrapped yet, or its first wrap is still to be seen. -/
def ReanchorHarmless (s : Sample) (corrupt : ℕ × ℕ) : Prop :=
  s.ticks < 65536 ∨ (s.ticks / 65536 = 1 ∧ ReadsAsWrap s corrupt)

def FlowView.Shows (countsPerLitre : ℕ+) (v : FlowView) (total : ℕ) : Prop :=
  v.meter.lastTotal = some total ∧ v.volume = some (roundTo 100 (floatOf (total / countsPerLitre)))

def reanchored (sample : ℕ × ℕ) : Gen1Meter where
  lastElapsed := some sample.1
  lastCum := sample.2
  lastTotal := some sample.2
  wraps := 0

variable {p s : Sample} {corrupt : ℕ × ℕ} {countsPerLitre : ℕ+} {v : FlowView}

theorem advance_corrupt (h : CorruptBetween p s corrupt) :
    p.meter.advance corrupt.1 corrupt.2 = (none, 0) := by
  rw [advance_later corrupt.2 rfl h.later, meter_lastCum, if_pos h.falls, if_pos h.implausible]

theorem meter_hears_corrupt (h : CorruptBetween p s corrupt) (hv : v.meter = p.meter) :
    (FlowView.hears countsPerLitre v corrupt).meter = reanchored corrupt := by
  have hlater : corrupt.1 ≠ 0 := Nat.ne_zero_of_lt h.later
  have hadvance : v.meter.advance corrupt.1 corrupt.2 = (none, 0) := by
    rw [hv]
    exact advance_corrupt h
  have htotal : 0 * 65536 + corrupt.2 = corrupt.2 := by rw [Nat.zero_mul, Nat.zero_add]
  unfold FlowView.hears
  rw [if_neg hlater, FlowView.book_of_rate hadvance htotal rfl]
  rfl

theorem wraps_advance_reanchored (h : CorruptBetween p s corrupt) :
    ((reanchored corrupt).advance s.elapsed (s.ticks % 65536)).2 =
      if ReadsAsWrap s corrupt then 1 else 0 := by
  have hcum : (reanchored corrupt).lastCum = corrupt.2 := rfl
  have hwraps : (reanchored corrupt).wraps = 0 := rfl
  rw [advance_later (s.ticks % 65536) rfl h.earlier, hcum, hwraps]
  by_cases hfall : s.ticks % 65536 < corrupt.2
  · by_cases hfar : GEN1_MAX_TICKS_PER_SEC * (s.elapsed - corrupt.1) <
        65536 - corrupt.2 + s.ticks % 65536
    · rw [if_pos hfall, if_pos hfar, if_neg fun hreads => absurd hreads.2 (Nat.not_le.mpr hfar)]
    · rw [if_pos hfall, if_neg hfar, if_pos ⟨hfall, Nat.not_lt.mp hfar⟩]
  · rw [if_neg hfall, if_neg fun hreads => hfall hreads.1]

theorem FlowView.Shows.unique {total total' : ℕ} (h : v.Shows countsPerLitre total)
    (h' : v.Shows countsPerLitre total') : total = total' :=
  Option.some.inj (h.1.symm.trans h'.1)

theorem gen1Rate_ok {dt : Option ℤ} (hdt : dt ≠ some 0) (prev : Option ℕ) (total : ℕ)
    (countsPerLitre : ℕ+) :
    ∃ rate, gen1Rate dt prev total countsPerLitre = .ok rate := by
  unfold gen1Rate
  split
  · next dt prev =>
    have hne : dt ≠ 0 := fun h => hdt (congrArg some h)
    rw [if_neg hne]
    split_ifs
    · exact ⟨_, rfl⟩
    · exact ⟨_, rfl⟩
  · exact ⟨_, rfl⟩

theorem shows_book {elapsed cum : ℕ} (countsPerLitre : ℕ+)
    (hdt : (v.meter.advance elapsed cum).1 ≠ some 0) :
    (v.book countsPerLitre elapsed cum).Shows countsPerLitre
      ((v.meter.advance elapsed cum).2 * 65536 + cum) := by
  obtain ⟨rate, hrate⟩ := gen1Rate_ok hdt v.meter.lastTotal
    ((v.meter.advance elapsed cum).2 * 65536 + cum) countsPerLitre
  rw [FlowView.book_of_rate rfl rfl hrate]
  exact ⟨rfl, rfl⟩

theorem advance_ne_zero {m : Gen1Meter} {prev elapsed : ℕ} (cum : ℕ)
    (hprev : m.lastElapsed = some prev) (hlater : prev < elapsed) :
    (m.advance elapsed cum).1 ≠ some 0 := by
  have hdt : some ((elapsed : ℤ) - prev) ≠ some 0 := by
    intro hzero
    have := Option.some.inj hzero
    omega
  rw [advance_later cum hprev hlater]
  split_ifs
  · exact (Option.some_ne_none 0).symm
  · exact hdt
  · exact hdt

theorem shows_after_corrupt (countsPerLitre : ℕ+) (h : CorruptBetween p s corrupt)
    (hv : v.meter = reanchored corrupt) :
    (FlowView.hears countsPerLitre v s.frame).Shows countsPerLitre
      ((if ReadsAsWrap s corrupt then 1 else 0) * 65536 + s.ticks % 65536) := by
  have hlater : s.elapsed ≠ 0 := Nat.ne_zero_of_lt h.earlier
  have hprev : v.meter.lastElapsed = some corrupt.1 := congrArg Gen1Meter.lastElapsed hv
  have hshows := shows_book countsPerLitre
    (advance_ne_zero (s.ticks % 65536) hprev h.earlier)
  rw [hv, wraps_advance_reanchored h] at hshows
  unfold FlowView.hears Sample.frame
  rw [if_neg hlater]
  exact hshows

theorem wraps_eq_iff (hps : Precedes p s) (h : CorruptBetween p s corrupt) :
    (if ReadsAsWrap s corrupt then 1 else 0) = s.ticks / 65536 ↔ ReanchorHarmless s corrupt := by
  unfold ReanchorHarmless
  by_cases hreads : ReadsAsWrap s corrupt
  · rw [if_pos hreads]
    constructor
    · intro hone
      exact Or.inr ⟨hone.symm, hreads⟩
    · rintro (hsmall | ⟨hone, -⟩)
      · -- before the first wrap the counter cannot have fallen below the corrupt sample
        have hgrow := hps.2.1
        have hfalls := h.falls
        have hbelow := hreads.1
        rw [Nat.mod_eq_of_lt hsmall] at hbelow
        rw [Nat.mod_eq_of_lt (hgrow.trans_lt hsmall)] at hfalls
        omega
      · exact hone.symm
  · rw [if_neg hreads]
    constructor
    · intro hzero
      exact Or.inl (by omega)
    · rintro (hsmall | ⟨-, hread⟩)
      · exact (Nat.div_eq_of_lt hsmall).symm
      · exact absurd hread hreads

theorem shows_ticks_iff (hps : Precedes p s) (h : CorruptBetween p s corrupt)
    (hv : v.meter = reanchored corrupt) :
    (FlowView.hears countsPerLitre v s.frame).Shows countsPerLitre s.ticks ↔
      ReanchorHarmless s corrupt := by
  have hshows := shows_after_corrupt countsPerLitre h hv
  have htotal := total_eq s
  rw [← wraps_eq_iff hps h]
  constructor
  · intro hexact
    have hsame := hshows.unique hexact
    omega
  · intro hwraps
    rw [hwraps, htotal] at hshows
    exact hshows

/-- One corrupt sample leaves the total of the next genuine one exact where the run has not
wrapped by then, or is seen to wrap for the first time. -/
theorem corruptSample_harmless_iff (d : Ht25Device) (ns : List Notice) (before : List Sample)
    (p s : Sample) (corrupt : ℕ × ℕ) (hgenuine : Genuine (before ++ [p] ++ [s]))
    (hcorrupt : CorruptBetween p s corrupt)
    (hframes : flowSamples ns d = (before ++ [p]).map Sample.frame ++ [corrupt, s.frame]) :
    (meshObserveAll ns (resetGen1Flow d)).flow.Shows d.flowCountsPerLitre s.ticks ↔
      ReanchorHarmless s corrupt := by
  have hmeter := congrArg FlowView.meter
    (run_hears d.flowCountsPerLitre before p hgenuine.init)
  rw [flow_of_flowSamples ns _ hframes, run_append, run_cons, run_cons, run_nil]
  exact shows_ticks_iff hgenuine.precedes hcorrupt (meter_hears_corrupt hcorrupt hmeter)

def meteredFrame (sample : ℕ × ℕ) : Notice where
  pt := [0x34, 0x12, 0x80, 0x0B, 0x40, 0, 0] ++ packU16 (BitVec.ofNat 16 sample.1) ++
    packU16 (BitVec.ofNat 16 sample.2)
  clock := .epoch

/-- A run which has not wrapped yet gets over the corrupt sample. -/
theorem corruptSample_harmless_iff_unwrapped :
    (meshObserveAll ([(300, 60000), (303, 10), (306, 60300)].map meteredFrame)
      (resetGen1Flow metered)).flow.Shows 112 60300 :=
  (corruptSample_harmless_iff metered ([(300, 60000), (303, 10), (306, 60300)].map meteredFrame) []
    ⟨300, 60000⟩ ⟨306, 60300⟩ (303, 10)
    ⟨by rintro _ ⟨⟩; decide, by decide, List.isChain_pair.mpr ⟨by decide, by decide, by decide⟩⟩
    ⟨by decide, by decide, by decide, by decide⟩ (by decide)).mpr (Or.inl (by decide))

/-- One which has wrapped loses the ticks of the wrap. -/
theorem corruptSample_loses_wrap :
    Genuine ([⟨300, 60000⟩] ++ [⟨600, 65600⟩] ++ [⟨606, 66000⟩]) ∧
      CorruptBetween ⟨600, 65600⟩ ⟨606, 66000⟩ (603, 0) ∧
      flowSamples ([(300, 60000), (600, 64), (603, 0), (606, 464)].map meteredFrame) metered =
        List.map frame ([⟨300, 60000⟩] ++ [⟨600, 65600⟩]) ++ [(603, 0), frame ⟨606, 66000⟩] ∧
      (meshObserveAll ([(300, 60000), (600, 64), (603, 0), (606, 464)].map meteredFrame)
        (resetGen1Flow metered)).gen1.lastTotal = some 464 ∧
      ¬ (meshObserveAll ([(300, 60000), (600, 64), (603, 0), (606, 464)].map meteredFrame)
        (resetGen1Flow metered)).flow.Shows 112 66000 := by
  have hgenuine : Genuine ([⟨300, 60000⟩] ++ [⟨600, 65600⟩] ++ [⟨606, 66000⟩]) :=
    { first := by rintro _ ⟨⟩; decide
      elapsed := by decide
      chain := .cons_cons ⟨by decide, by decide, by decide⟩
        (List.isChain_pair.mpr ⟨by decide, by decide, by decide⟩) }
  have hlost : (meshObserveAll ([(300, 60000), (600, 64), (603, 0), (606, 464)].map meteredFrame)
      (resetGen1Flow metered)).gen1.lastTotal = some 464 := by
    decide
  refine ⟨hgenuine, ⟨by decide, by decide, by decide, by decide⟩, by decide, hlost, ?_⟩
  intro hshows
  have hsame := hshows.1.symm.trans hlost
  simp at hsame

end OrbitBhyve.Devices
