import OrbitBhyve.Devices.MeasuredRuns
import OrbitBhyve.Devices.Valve
import OrbitBhyve.Foundation.Leases

/-!
# The samples of a measured run

The device samples for three hundred seconds after it has taken a subscription,
and the renewal task subscribes anew between sleeps of two hundred and forty. A
wait for the lock or a slow `send` puts a renewal off, and a round which is
skipped or fails comes after the samples have stopped. Times are in
milliseconds.
-/

namespace OrbitBhyve.Devices

open Foundation Python Wire

def GEN1_RENEW_LOCK_TIMEOUT : ℤ := 5

/-- For how long the device samples on a subscription: for the interval and the count in its
frame, and for three hundred seconds at most. -/
def sampledFor (frame : Bytes) : ℤ := min (wordAt frame 5 * wordAt frame 7) 300000

/-- How a round of `_gen1_renewal_loop` goes. -/
structure RenewalRound where
  /-- How late the sleep ends. -/
  late : ℕ
  /-- The wait for `_api_lock`, unless it runs into its limit. -/
  lockWait : Option ℕ
  /-- From the lock until the device takes the subscription, if it does. -/
  taken : Option ℕ
  sendTime : ℕ
  sendEnd : SendEnd
  taken_le : ∀ t, taken = some t → t ≤ sendTime

/-- A round of the loop, begun `now`: the time the device takes the subscription at, if it does,
and the time the loop goes on at, unless it is left. -/
def RenewalRound.run (watering : ℤ → Bool) (r : RenewalRound) (now : ℤ) : Option ℤ × Option ℤ :=
  let awake := now + GEN1_RENEW_SEC * 1000 + r.late
  if watering awake then
    match r.lockWait with
    | none => (none, some (awake + GEN1_RENEW_LOCK_TIMEOUT * 1000))
    | some wait =>
      let locked := awake + wait
      if watering locked then
        (r.taken.map fun t : ℕ => locked + t,
          match r.sendEnd with
          | .sent | .failed => some (locked + r.sendTime)
          | .raised => none)
      else (none, none)
  else (none, none)

/-- The rounds of `_gen1_renewal_loop`, each with the time the device takes its subscription at,
if it does; a loop which is left early makes one more attempt which comes to nothing. -/
def gen1RenewalLoop (watering : ℤ → Bool) (deadline : ℤ) (rounds : ℕ → RenewalRound) (k : ℕ)
    (waited now : ℤ) : List (Option ℤ) :=
  if waited < deadline then
    match (rounds k).run watering now with
    | (attempt, some next) =>
      attempt ::
        gen1RenewalLoop watering deadline rounds (k + 1) (waited + GEN1_RENEW_SEC) next
    | (attempt, none) => [attempt, none]
  else []
termination_by (deadline - waited).toNat
decreasing_by
  simp only [GEN1_RENEW_SEC]
  omega

/-- A round which gets the lock and the device, with thirty seconds for its delays. -/
def RenewalRound.Prompt (r : RenewalRound) : Prop :=
  ∃ wait t, r.lockWait = some wait ∧ r.taken = some t ∧ r.sendEnd ≠ .raised ∧
    r.late + wait + r.sendTime ≤ 30000

/-- The samples asked for would take longer than the device samples. -/
theorem sampledFor_flowSubscribeFrame {d : Ht25Device} {frame : Bytes}
    (h : d.flowSubscribeFrame = .ok frame) : sampledFor frame = 300000 := by
  obtain ⟨a, b, -, rfl⟩ := meshAddress_of_build h
  have hinterval : wordAt (a :: b :: UInt8.ofNat TYPE_FLOW_SUBSCRIBE ::
      UInt8.ofNat SEQ_FLOW_SUBSCRIBE :: UInt8.ofNat D747_ROUTING ::
        (packU16 3000 ++ packU16 700)) 5 = 3000 := rfl
  have hcount : wordAt (a :: b :: UInt8.ofNat TYPE_FLOW_SUBSCRIBE ::
      UInt8.ofNat SEQ_FLOW_SUBSCRIBE :: UInt8.ofNat D747_ROUTING ::
        (packU16 3000 ++ packU16 700)) 7 = 700 := rfl
  rw [sampledFor, hinterval, hcount]
  norm_num

/-! ## Rounds -/

section Rounds

variable {watering : ℤ → Bool} {r : RenewalRound} {now : ℤ}

theorem RenewalRound.run_spec (watering : ℤ → Bool) (r : RenewalRound) (now : ℤ) :
    (∀ g, (r.run watering now).1 = some g → now + 240000 ≤ g) ∧
      ∀ next, (r.run watering now).2 = some next → now + 240000 ≤ next ∧
        ∀ g, (r.run watering now).1 = some g → g ≤ next := by
  unfold RenewalRound.run GEN1_RENEW_SEC GEN1_RENEW_LOCK_TIMEOUT
  dsimp only
  split_ifs with hawake
  · cases r.lockWait with
    | none =>
      refine ⟨by simp, fun next hnext => ?_⟩
      cases hnext
      exact ⟨by omega, by simp⟩
    | some wait =>
      dsimp only
      split_ifs with hlocked
      · constructor
        · intro g hg
          obtain ⟨t, -, rfl⟩ := Option.map_eq_some_iff.mp hg
          omega
        · intro next hnext
          have hend : now + 240 * 1000 + r.late + wait + (r.sendTime : ℤ) = next := by
            revert hnext
            cases r.sendEnd <;> simp
          refine ⟨by omega, fun g hg => ?_⟩
          obtain ⟨t, ht, rfl⟩ := Option.map_eq_some_iff.mp hg
          have hle := r.taken_le t ht
          omega
      · simp
  · simp

theorem RenewalRound.Prompt.run_cases (h : r.Prompt) (watering : ℤ → Bool) (now : ℤ) :
    (r.run watering now = (none, none) ∧ ∃ t ≤ now + 270000, watering t = false) ∨
      ∃ g next, r.run watering now = (some g, some next) ∧ g ≤ now + 270000 ∧
        next ≤ g + 30000 := by
  obtain ⟨wait, t, hwait, ht, hend, hdelay⟩ := h
  have hle := r.taken_le t ht
  unfold RenewalRound.run GEN1_RENEW_SEC
  dsimp only
  split_ifs with hawake
  · rw [hwait, ht]
    dsimp only
    split_ifs with hlocked
    · right
      cases hsend : r.sendEnd with
      | raised => exact absurd hsend hend
      | sent =>
        refine ⟨_, _, rfl, ?_, ?_⟩
        · dsimp only
          omega
        · dsimp only
          omega
      | failed =>
        refine ⟨_, _, rfl, ?_, ?_⟩
        · dsimp only
          omega
        · dsimp only
          omega
    · refine Or.inl ⟨rfl, now + 240 * 1000 + r.late + wait, ?_, by simpa using hlocked⟩
      omega
  · refine Or.inl ⟨rfl, now + 240 * 1000 + r.late, ?_, by simpa using hawake⟩
    omega

end Rounds

/-! ## The loop -/

section Loop

variable {watering : ℤ → Bool} {deadline : ℤ} {rounds : ℕ → RenewalRound}
variable {k : ℕ} {waited now : ℤ} {attempt : Option ℤ}

theorem gen1RenewalLoop_next {next : ℤ} (hwaited : waited < deadline)
    (hrun : (rounds k).run watering now = (attempt, some next)) :
    gen1RenewalLoop watering deadline rounds k waited now = attempt ::
      gen1RenewalLoop watering deadline rounds (k + 1) (waited + GEN1_RENEW_SEC) next := by
  rw [gen1RenewalLoop, if_pos hwaited, hrun]

theorem gen1RenewalLoop_left (hwaited : waited < deadline)
    (hrun : (rounds k).run watering now = (attempt, none)) :
    gen1RenewalLoop watering deadline rounds k waited now = [attempt, none] := by
  rw [gen1RenewalLoop, if_pos hwaited, hrun]

theorem gen1RenewalLoop_over (hwaited : ¬ waited < deadline) :
    gen1RenewalLoop watering deadline rounds k waited now = [] := by
  rw [gen1RenewalLoop, if_neg hwaited]

/-- The loop subscribes at no time within its next sleep. -/
theorem le_of_mem_gen1RenewalLoop (k : ℕ) (waited now : ℤ) :
    ∀ g ∈ (gen1RenewalLoop watering deadline rounds k waited now).reduceOption,
      now + 240000 ≤ g := by
  induction k, waited, now using gen1RenewalLoop.induct watering deadline rounds with
  | case1 k waited now hwaited attempt next hrun ih =>
    obtain ⟨hfirst, hnext⟩ := (rounds k).run_spec watering now
    rw [hrun] at hfirst hnext
    obtain ⟨hsleep, -⟩ := hnext next rfl
    intro g hg
    rw [gen1RenewalLoop_next hwaited hrun, List.reduceOption_mem_iff, List.mem_cons] at hg
    rcases hg with hg | hg
    · exact hfirst g hg.symm
    · have hlater := ih g (List.reduceOption_mem_iff.mpr hg)
      omega
  | case2 k waited now hwaited attempt hrun =>
    obtain ⟨hfirst, -⟩ := (rounds k).run_spec watering now
    rw [hrun] at hfirst
    intro g hg
    rw [gen1RenewalLoop_left hwaited hrun, List.reduceOption_mem_iff] at hg
    exact hfirst g (by simpa [eq_comm] using hg)
  | case3 k waited now hwaited => simp [gen1RenewalLoop_over hwaited]

/-- A skipped round comes after the samples have stopped. -/
theorem spaced_gen1RenewalLoop (k : ℕ) (waited now : ℤ) {last : ℤ} (hlast : last ≤ now) :
    Spaced (· + 300000) last (gen1RenewalLoop watering deadline rounds k waited now) := by
  induction k, waited, now using gen1RenewalLoop.induct watering deadline rounds
    generalizing last with
  | case1 k waited now hwaited attempt next hrun ih =>
    obtain ⟨hfirst, hnext⟩ := (rounds k).run_spec watering now
    rw [hrun] at hfirst hnext
    obtain ⟨hsleep, hbefore⟩ := hnext next rfl
    rw [gen1RenewalLoop_next hwaited hrun]
    cases attempt with
    | none =>
      refine ⟨fun g hg => ?_, ih (by omega)⟩
      have hlater := le_of_mem_gen1RenewalLoop _ _ _ g hg
      dsimp only
      omega
    | some g =>
      have hg := hfirst g rfl
      exact ⟨by omega, ih (hbefore g rfl)⟩
  | case2 k waited now hwaited attempt hrun =>
    obtain ⟨hfirst, -⟩ := (rounds k).run_spec watering now
    rw [hrun] at hfirst
    rw [gen1RenewalLoop_left hwaited hrun]
    cases attempt with
    | none => simp [Spaced]
    | some g =>
      have hg := hfirst g rfl
      exact ⟨by omega, by simp, trivial⟩
  | case3 k waited now hwaited =>
    rw [gen1RenewalLoop_over hwaited]
    trivial

/-- A loop none of whose rounds is skipped goes on up to its deadline. -/
theorem stop_le_of_all_taken (k : ℕ) (waited now : ℤ) {last stop : ℤ}
    (hstop : stop ≤ now + (deadline - waited) * 1000) (hover : deadline ≤ waited → stop ≤ last)
    (hall : ∀ a ∈ gen1RenewalLoop watering deadline rounds k waited now, a.isSome) :
    stop ≤ lastGrant last (gen1RenewalLoop watering deadline rounds k waited now) := by
  induction k, waited, now using gen1RenewalLoop.induct watering deadline rounds
    generalizing last with
  | case1 k waited now hwaited attempt next hrun ih =>
    obtain ⟨hfirst, hnext⟩ := (rounds k).run_spec watering now
    rw [hrun] at hfirst hnext
    obtain ⟨hsleep, -⟩ := hnext next rfl
    rw [gen1RenewalLoop_next hwaited hrun] at hall ⊢
    cases attempt with
    | none => simp at hall
    | some g =>
      have hg := hfirst g rfl
      have hwait : GEN1_RENEW_SEC = 240 := rfl
      refine @ih g ?_ ?_ fun a ha => hall a (List.mem_cons_of_mem _ ha)
      · rw [hwait]
        omega
      · rw [hwait]
        omega
  | case2 k waited now hwaited attempt hrun =>
    rw [gen1RenewalLoop_left hwaited hrun] at hall
    simp at hall
  | case3 k waited now hwaited =>
    rw [gen1RenewalLoop_over hwaited]
    exact hover (by omega)

/-- Prompt rounds renew in time for as long as the run goes on. -/
theorem renewed_of_prompt (k : ℕ) (waited now : ℤ) {last stop : ℤ}
    (hprompt : ∀ k, (rounds k).Prompt) (hwatering : ∀ t, t < stop → watering t = true)
    (hlast : last ≤ now) (hrest : now ≤ last + 30000) :
    Renewed (· + 300000) stop last
      (gen1RenewalLoop watering deadline rounds k waited now) := by
  induction k, waited, now using gen1RenewalLoop.induct watering deadline rounds
    generalizing last with
  | case1 k waited now hwaited attempt next hrun ih =>
    rw [gen1RenewalLoop_next hwaited hrun, renewed_cons]
    rcases (hprompt k).run_cases watering now with ⟨hleft, -⟩ | ⟨g, next', hgoes, hg, hnext⟩
    · rw [hleft] at hrun
      cases hrun
    · rw [hgoes] at hrun
      cases hrun
      have hspec := (rounds k).run_spec watering now
      rw [hgoes] at hspec
      have hbefore := (hspec.2 next rfl).2 g rfl
      exact ⟨fun _ => ⟨g, rfl, by omega⟩, ih hbefore hnext⟩
  | case2 k waited now hwaited attempt hrun =>
    rw [gen1RenewalLoop_left hwaited hrun]
    rcases (hprompt k).run_cases watering now with ⟨hleft, t, ht, hover⟩ | ⟨g, next, hgoes, -⟩
    · have hstop : stop ≤ t := by
        by_contra hbefore
        simp [hwatering t (not_le.mp hbefore)] at hover
      rw [hleft] at hrun
      cases hrun
      refine (covers_and_renewed_of_le ?_ ?_ ?_).2
      · intro a b hab
        simpa using hab
      · simp [Spaced]
      · omega
    · rw [hgoes] at hrun
      cases hrun
  | case3 k waited now hwaited =>
    rw [gen1RenewalLoop_over hwaited]
    intro i a ha
    simp at ha

end Loop

/-- The samples of a run have no gap up to `stop` exactly if each renewal which is still called
for is taken by the device before the samples of the last one stop. Thirty seconds for the
delays of each round are enough, for however long the run is. -/
theorem samples_gapless_iff {d : Ht25Device} {frame : Bytes}
    (hframe : d.flowSubscribeFrame = .ok frame) (watering : ℤ → Bool)
    (rounds : ℕ → RenewalRound) {durationSec : ℤ} (hduration : 0 < durationSec)
    {subscribed created stop : ℤ} (hcreated : subscribed ≤ created)
    (hstop : stop ≤ created + (durationSec + GEN1_HOLD_GRACE_SEC) * 1000) :
    let sampledUntil := fun taken => taken + sampledFor frame
    let attempts := gen1RenewalLoop watering (durationSec + GEN1_HOLD_GRACE_SEC) rounds 0 0 created
    (Covers sampledUntil (subscribed :: attempts.reduceOption) subscribed stop ↔
      Renewed sampledUntil stop subscribed attempts) ∧
    ((∀ t, t < stop → watering t = true) → (∀ k, (rounds k).Prompt) →
      created ≤ subscribed + 30000 →
        Covers sampledUntil (subscribed :: attempts.reduceOption) subscribed stop) := by
  intro sampledUntil attempts
  have hsampled : sampledUntil = (· + 300000) := by
    funext taken
    simp only [sampledUntil, sampledFor_flowSubscribeFrame hframe]
  have hgrace : GEN1_HOLD_GRACE_SEC = 10 := rfl
  have hiff : Covers sampledUntil (subscribed :: attempts.reduceOption) subscribed stop ↔
      Renewed sampledUntil stop subscribed attempts := by
    rw [hsampled]
    apply covers_iff_renewed
    · intro a b hab
      simpa using hab
    · intro g
      omega
    · exact spaced_gen1RenewalLoop _ _ _ hcreated
    · intro hall
      have hlast : stop ≤ lastGrant subscribed attempts :=
        stop_le_of_all_taken 0 0 created (by simpa using hstop) (by omega) hall
      exact hlast.trans (by omega)
  refine ⟨hiff, fun hwatering hprompt hrest => hiff.mpr ?_⟩
  rw [hsampled]
  exact renewed_of_prompt 0 0 created hprompt hwatering hcreated hrest

/-- Half an hour, with ten seconds for each renewal. -/
theorem samples_gapless_iff_half_hour :
    Covers (fun taken => taken + sampledFor [0xd7, 0x47, 0x89, 0x0E, 0x40, 0xB8, 0x0B, 0xBC, 0x02])
      (0 :: (gen1RenewalLoop (fun _ => true) 1810
        (fun _ => ⟨2000, some 3000, some 1000, 5000, .sent, by simp⟩) 0 0 1500).reduceOption)
      0 1800000 := by
  have hprompt : RenewalRound.Prompt ⟨2000, some 3000, some 1000, 5000, .sent, by simp⟩ :=
    ⟨3000, 1000, rfl, rfl, by simp, by decide⟩
  have hframe : Ht25Device.flowSubscribeFrame { meshDeviceId := some 18391 } =
      .ok [0xd7, 0x47, 0x89, 0x0E, 0x40, 0xB8, 0x0B, 0xBC, 0x02] := rfl
  have hduration : (0 : ℤ) < 1800 := by decide
  have hcreated : (0 : ℤ) ≤ 1500 := by decide
  exact (samples_gapless_iff hframe (fun _ => true)
    (fun _ => ⟨2000, some 3000, some 1000, 5000, .sent, by simp⟩) hduration hcreated
      (by decide)).2 (fun _ _ => rfl) (fun _ => hprompt) (by decide)

end OrbitBhyve.Devices
