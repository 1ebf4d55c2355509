import OrbitBhyve.Entry.Flows

/-!
# Devices the user was shown

A reconfigure flow merges onto the devices it read when it started, and adds to
the ids which are known when it is submitted. A device which a refresh has added
in between is then known and out, although no picker has ever offered it, and no
later refresh brings it back.
-/

namespace OrbitBhyve.Entry

open Foundation Python

namespace Account

/-- Every known id without a device has been offered in a picker which was submitted. -/
def Shown (s : Account) : Prop :=
  ∀ cid ∈ s.data.known.getD [], cid ∉ cloudIds s.data.devices → cid ∈ s.offered

/-- An accepted submit leaves no known id out which was not offered. -/
def SubmitShows (s : Account) : Event → Prop
  | .submit included => ∀ f, s.picker = some f → included.isEmpty = false →
      (s.step (.submit included)).Shown
  | _ => True

/-- The form on screen, or one which was submitted before it, offers an id. -/
def Offers (s : Account) (f : ReconfigureFlow) (cid : String) : Prop :=
  cid ∈ cloudIds f.catalogue ∨ cid ∈ s.offered

/-- Every device which the entry has at an accepted submit is offered, and so is the empty id
if it is known. -/
def OffersStored (s : Account) : Event → Prop
  | .submit included => ∀ f, s.picker = some f → included.isEmpty = false →
      (∀ cid ∈ cloudIds s.data.devices, s.Offers f cid) ∧
        ("" ∈ s.data.known.getD [] → s.Offers f "")
  | _ => True

/-- Devices are known, and what is known is a device, was offered, or is the empty id. -/
structure Tracked (s : Account) : Prop where
  known : ∀ cid ∈ cloudIds s.data.devices, cid ∈ s.data.known.getD []
  shown : ∀ cid ∈ s.data.known.getD [], cid = "" ∨ cid ∈ cloudIds s.data.devices ∨ cid ∈ s.offered

section Step

variable {s : Account} {f : ReconfigureFlow} {included : List String} {cid : String}

theorem mem_catalogue_of_mem_submit
    (h : cid ∈ cloudIds (s.submitDevices f included).data.devices) :
    cid ∈ cloudIds f.catalogue :=
  mem_cloudIds_catalogue.mpr (mem_cloudIds_mergeDeviceLists.mp h).2.2

theorem mem_known_submit :
    cid ∈ (s.submitDevices f included).data.known.getD [] ↔
      cid ∈ s.data.known.getD [] ∨ cid ∈ cloudIds f.catalogue := by
  have hstored : cid ∈ cloudIds f.stored → cid ∈ cloudIds f.catalogue := fun h =>
    mem_cloudIds_catalogue.mpr (.inr h)
  dsimp only [submitDevices, Option.getD_some]
  rw [mem_nextKnownIds]
  tauto

theorem mem_offered_submit :
    cid ∈ (s.submitDevices f included).offered ↔ s.Offers f cid :=
  List.mem_append.trans Or.comm

theorem shown_submit_iff :
    (s.submitDevices f included).Shown ↔ ∀ cid ∈ s.data.known.getD [], s.Offers f cid := by
  constructor
  · intro h cid hcid
    by_cases hdev : cid ∈ cloudIds (s.submitDevices f included).data.devices
    · exact .inl (mem_catalogue_of_mem_submit hdev)
    · exact mem_offered_submit.mp (h cid (mem_known_submit.mpr (.inl hcid)) hdev)
  · intro h cid hcid _
    refine mem_offered_submit.mpr ?_
    exact (mem_known_submit.mp hcid).elim (h cid) .inl

theorem Tracked.shows_iff_offers (h : s.Tracked) (e : Event) :
    s.SubmitShows e ↔ s.OffersStored e := by
  cases e with
  | submit included =>
    refine forall_congr' fun f => forall_congr' fun hpicker => forall_congr' fun hsome => ?_
    have hstep : s.step (.submit included) = s.submitDevices f included := by
      dsimp only [step]
      rw [hpicker]
      dsimp only
      rw [hsome]
      rfl
    rw [hstep, shown_submit_iff]
    constructor
    · intro hall
      exact ⟨fun cid hcid => hall cid (h.known cid hcid), hall ""⟩
    · rintro ⟨hdevices, hempty⟩ cid hcid
      obtain rfl | hdev | hoffered := h.shown cid hcid
      · exact hempty hcid
      · exact hdevices cid hdev
      · exact .inr hoffered
  | _ => exact Iff.rfl

theorem tracked_refreshed (h : s.Tracked) (discovered : List DeviceRecord) :
    { s with data := refreshed discovered s.data }.Tracked := by
  have hknown : ∀ cid, cid ∈ (refreshed discovered s.data).known.getD [] ↔
      cid ∈ s.data.known.getD [] ∨ cid ∈ catalogueIds s.data.devices discovered := by
    intro cid
    dsimp only [refreshed, Option.getD_some]
    rw [mem_nextKnownIds, mem_catalogueIds]
    tauto
  refine ⟨fun cid hcid => ?_, fun cid hcid => ?_⟩
  · rw [hknown, mem_catalogueIds]
    exact .inr (mem_cloudIds_mergeDeviceLists.mp hcid).2.2
  · by_cases hne : cid = ""
    · exact .inl hne
    · have hkept : cid ∈ cloudIds s.data.devices →
          cid ∈ cloudIds (refreshed discovered s.data).devices := fun hdev =>
        mem_refreshed hne (mem_catalogueIds.mpr (.inr hdev)) (.inl hdev)
      have hold : cid ∈ s.data.known.getD [] →
          cid ∈ cloudIds (refreshed discovered s.data).devices ∨ cid ∈ s.offered := fun hmem =>
        ((h.shown cid hmem).resolve_left hne).imp_left hkept
      refine .inr (((hknown cid).mp hcid).elim hold fun hmem => ?_)
      by_cases hnew : cid ∈ s.data.known.getD (cloudIds s.data.devices)
      · cases hids : s.data.known with
        | none => exact .inl (hkept (by rwa [hids] at hnew))
        | some ids => exact hold (by rwa [hids] at hnew ⊢)
      · exact .inl (mem_refreshed hne hmem (.inr hnew))

theorem tracked_submit (hoffers : ∀ cid ∈ s.data.known.getD [], s.Offers f cid) :
    (s.submitDevices f included).Tracked := by
  refine ⟨fun cid hcid => ?_, fun cid hcid => ?_⟩
  · exact mem_known_submit.mpr (.inr (mem_catalogue_of_mem_submit hcid))
  · refine .inr (.inr (mem_offered_submit.mpr ?_))
    exact (mem_known_submit.mp hcid).elim (hoffers cid) .inl

theorem Tracked.step (h : s.Tracked) {e : Event} (he : s.OffersStored e) :
    (s.step e).Tracked := by
  cases e with
  | refresh r =>
    obtain ⟨discovered, -, -, hstep⟩ | ⟨-, hstep⟩ := s.refresh_cases r
    · rw [hstep]
      exact tracked_refreshed h discovered
    · rw [hstep]
      exact h
  | submit included =>
    obtain ⟨f, hpicker, hsome, hstep⟩ | ⟨-, hstep⟩ := s.submit_cases included
    · have hshows : s.SubmitShows (.submit included) := (h.shows_iff_offers _).mpr he
      have hshown : (s.submitDevices f included).Shown := hstep ▸ hshows f hpicker hsome
      rw [hstep]
      exact tracked_submit (shown_submit_iff.mp hshown)
    · rw [hstep]
      exact h
  | reconfigure => exact ⟨h.known, h.shown⟩
  | discovered r => exact ⟨h.known, h.shown⟩
  | enterPassword password => exact ⟨h.known, h.shown⟩
  | close => exact ⟨h.known, h.shown⟩

end Step

theorem tracked_of_created {email password : String} {discovered : List DeviceRecord}
    {included : List String} {s : Account}
    (h : created email password discovered included = some s) : s.Tracked := by
  obtain rfl := created_some h
  refine ⟨fun cid hcid => ?_, fun cid hcid => ?_⟩
  · obtain ⟨r, hr, rfl⟩ := mem_cloudIds.mp hcid
    exact mem_nextKnownIds.mpr (.inr (.inr (mem_cloudIds.mpr ⟨r, List.mem_of_mem_filter hr, rfl⟩)))
  · obtain hmem | hmem | hmem := mem_nextKnownIds.mp hcid
    · cases hmem
    · cases hmem
    · exact .inr (.inr hmem)

/-- In every interleaving of refreshes with reconfigure flows, no submit leaves out a device
which the user was not shown exactly when each offers what the entry then has. -/
theorem submitShows_iff {email password : String} {discovered : List DeviceRecord}
    {included : List String} {s : Account} {es : List Event}
    (hcreated : created email password discovered included = some s) :
    StepsMeet step SubmitShows s es ↔ StepsMeet step OffersStored s es :=
  StepsMeet.congr (fun _ _ h _ he => h.step he) (fun _ e h _ => h.shows_iff_offers e)
    (tracked_of_created hcreated) (StepsMeet.of_forall (fun _ _ => trivial) s)

/-! ### A refresh inside a flow -/

def device (cid : String) : DeviceRecord := ⟨cid, []⟩

def firstDevice : Option Account := created "me@example.com" "secret" [device "a1"] ["a1"]

def refreshBefore : List Event :=
  [.refresh (.ok [device "a1", device "b2"]), .reconfigure, .discovered (.ok [device "a1"]),
    .submit ["a1"]]

theorem submitShows_iff_refreshBefore :
    ∃ s, firstDevice = some s ∧
      (StepsMeet step SubmitShows s refreshBefore ↔ StepsMeet step OffersStored s refreshBefore) := by
  obtain ⟨s, hs⟩ : ∃ s, firstDevice = some s := ⟨_, rfl⟩
  exact ⟨s, hs, submitShows_iff hs⟩

/-- The refresh comes between the start of the flow and its discovery, which misses the new
device, as a partial response does. -/
def refreshInside : List Event :=
  [.reconfigure, .refresh (.ok [device "a1", device "b2"]), .discovered (.ok [device "a1"]),
    .submit ["a1"]]

/-- The device is known and out, no form has offered it, and a later refresh which finds it
leaves it out. -/
theorem refresh_inside_hides :
    ∃ s, firstDevice = some s ∧ ¬ StepsMeet step SubmitShows s refreshInside ∧
      cloudIds (run step s (refreshInside ++
        [.refresh (.ok [device "a1", device "b2"])])).data.devices = ["a1"] := by
  obtain ⟨s, hs, hknown, hout, hoffered, hlater⟩ : ∃ s, firstDevice = some s ∧
      "b2" ∈ (run step s refreshInside).data.known.getD [] ∧
      "b2" ∉ cloudIds (run step s refreshInside).data.devices ∧
      "b2" ∉ (run step s refreshInside).offered ∧
      cloudIds (run step s (refreshInside ++
        [.refresh (.ok [device "a1", device "b2"])])).data.devices = ["a1"] :=
    ⟨_, rfl, by decide +kernel, by decide +kernel, by decide +kernel, by decide +kernel⟩
  refine ⟨s, hs, fun h => ?_, hlater⟩
  obtain ⟨-, -, -, hsubmit, -⟩ := h
  cases hs
  exact hoffered (hsubmit _ rfl rfl "b2" hknown hout)

end Account
end OrbitBhyve.Entry
