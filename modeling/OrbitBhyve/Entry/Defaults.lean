import OrbitBhyve.Entry.Flows

/-!
# A refresh and the picker with its defaults accepted

The refresh service and the reconfigure flow each build a catalogue, a default
selection and a merge from the entry and the response. The service lists ids
where the flow lists records, and the form hands back a set of ids.
-/

namespace OrbitBhyve.Entry

open Foundation Python

def ReconfigureFlow.defaultIds (known : Option (List String)) (f : ReconfigureFlow) : List String :=
  defaultSelection (cloudIds f.stored) known (cloudIds f.catalogue)

/-- The ids which are checked in the form on screen. -/
def Account.prechecked (s : Account) : List String :=
  match s.picker with
  | none => []
  | some f => f.defaultIds s.data.known

/-- The flow goes from its start to its picker. -/
def showPicker (discovered : List DeviceRecord) : List Event :=
  [.reconfigure, .discovered (.ok discovered)]

section Selections

variable {stored discovered : List DeviceRecord} {selected included : List String}

theorem cloudIds_catalogue (stored discovered : List DeviceRecord) :
    cloudIds (catalogue stored discovered) = catalogueIds stored discovered := by
  unfold catalogue catalogueIds cloudIds
  rw [List.map_append, List.filter_map]
  rfl

/-- A merge reads a selection as a set. -/
theorem mergeDeviceLists_congr (h : ∀ cid, cid ∈ selected ↔ cid ∈ included) :
    mergeDeviceLists stored discovered selected = mergeDeviceLists stored discovered included := by
  have hsel : isSelected selected = isSelected included := by
    funext r
    have hmem : r.cloudId ∈ selected ↔ r.cloudId ∈ included := h r.cloudId
    rw [Bool.eq_iff_iff, isSelected_iff, isSelected_iff, hmem]
  unfold mergeDeviceLists
  rw [hsel]

end Selections

section Picker

variable {s : Account} {f : ReconfigureFlow} {discovered : List DeviceRecord}
  {included : List String}

theorem prechecked_of_picker (h : s.picker = some f) :
    s.prechecked = f.defaultIds s.data.known := by
  unfold Account.prechecked
  rw [h]

theorem defaultIds_eq_refreshSelection (hstored : f.stored = s.data.devices) :
    f.defaultIds s.data.known = refreshSelection f.discovered s.data := by
  unfold ReconfigureFlow.defaultIds ReconfigureFlow.catalogue refreshSelection
  rw [cloudIds_catalogue, hstored]

/-- A submit of the defaults over the devices of the entry writes what a refresh writes. -/
theorem submitDevices_defaults (hstored : f.stored = s.data.devices)
    (hincluded : ∀ cid, cid ∈ included ↔ cid ∈ f.defaultIds s.data.known) :
    (s.submitDevices f included).data =
      { refreshed f.discovered s.data with password := f.password } := by
  have hmerge : mergeDeviceLists f.stored f.discovered included =
      mergeDeviceLists s.data.devices f.discovered (refreshSelection f.discovered s.data) := by
    rw [← defaultIds_eq_refreshSelection hstored, hstored]
    exact mergeDeviceLists_congr hincluded
  have hknown : nextKnownIds s.data.known (cloudIds f.stored) (cloudIds f.catalogue) =
      nextKnownIds s.data.known (cloudIds s.data.devices)
        (catalogueIds s.data.devices f.discovered) := by
    unfold ReconfigureFlow.catalogue
    rw [cloudIds_catalogue, hstored]
  unfold Account.submitDevices refreshed
  rw [hmerge, hknown]

theorem exists_picker (hcred : s.data.hasCredentials = true) (hsome : discovered ≠ []) :
    ∃ f, (run Account.step s (showPicker discovered)).picker = some f ∧
      f.stored = s.data.devices ∧ f.discovered = discovered ∧ f.password = s.data.password := by
  have hbegin : (beginReconfigure s.data).stage = .discovering := if_pos hcred
  cases discovered with
  | nil => exact absurd rfl hsome
  | cons r discovered =>
    have hresume : ReconfigureFlow.resume (.ok (r :: discovered)) (beginReconfigure s.data) =
        some { beginReconfigure s.data with discovered := r :: discovered, stage := .picking } := by
      unfold ReconfigureFlow.resume
      rw [hbegin]
    have hpicker : (run Account.step s (showPicker (r :: discovered))).picker =
        some { beginReconfigure s.data with discovered := r :: discovered, stage := .picking } := by
      unfold Account.picker
      dsimp only [showPicker, run, List.foldl, Account.step, Option.bind_some]
      rw [hresume]
      rfl
    exact ⟨_, hpicker, rfl, rfl, rfl⟩

end Picker

/-- A refresh writes what the reconfigure flow writes when its picker is submitted with exactly
the pre-checked ids. -/
theorem refresh_eq_reconfigure {s : Account} {discovered : List DeviceRecord}
    {included : List String} (hcred : s.data.hasCredentials = true) (hsome : discovered ≠ [])
    (hdefault : (run Account.step s (showPicker discovered)).prechecked ≠ [])
    (hincluded : ∀ cid,
      cid ∈ included ↔ cid ∈ (run Account.step s (showPicker discovered)).prechecked) :
    (s.step (.refresh (.ok discovered))).data =
      (run Account.step s (showPicker discovered ++ [.submit included])).data := by
  have hdata : (run Account.step s (showPicker discovered)).data = s.data := rfl
  obtain ⟨f, hpicker, hstored, hdiscovered, hpassword⟩ := exists_picker hcred hsome
  generalize hshown : run Account.step s (showPicker discovered) = shown at *
  rw [prechecked_of_picker hpicker] at hdefault hincluded
  have hnonempty : included.isEmpty = false := by
    obtain ⟨cid, hcid⟩ := List.exists_mem_of_ne_nil _ hdefault
    exact List.isEmpty_eq_false_iff_exists_mem.mpr ⟨cid, (hincluded cid).mpr hcid⟩
  have hsubmit : run Account.step s (showPicker discovered ++ [.submit included]) =
      shown.submitDevices f included := by
    rw [run_append, hshown]
    obtain ⟨g, hg, -, hstep⟩ | ⟨hempty, -⟩ := shown.submit_cases included
    · obtain rfl := Option.some.inj (hg.symm.trans hpicker)
      exact hstep
    · rw [hempty f hpicker] at hnonempty
      cases hnonempty
  have hrefresh : (s.step (.refresh (.ok discovered))).data = refreshed discovered s.data :=
    if_pos hcred
  rw [← hdata] at hstored
  rw [hsubmit, submitDevices_defaults hstored hincluded, hrefresh, hdata, hdiscovered, hpassword]
  rfl

/-- An entry from before ids were kept, with one device. -/
def legacyAccount : Account where
  data := {
    email := "me@example.com"
    password := "secret"
    devices := [⟨"a1", [("mac", .str "44:67")]⟩]
    known := none }
  offered := []
  unchecked := []

/-- The device is no longer listed, and there is a new one. -/
theorem refresh_eq_reconfigure_legacy :
    (legacyAccount.step (.refresh (.ok [⟨"b2", []⟩]))).data =
      (run Account.step legacyAccount
        (showPicker [⟨"b2", []⟩] ++ [.submit ["a1", "b2"]])).data := by
  have hshown : (run Account.step legacyAccount (showPicker [⟨"b2", []⟩])).prechecked =
      ["b2", "a1"] := by
    decide +kernel
  apply refresh_eq_reconfigure
  · decide +kernel
  · exact List.cons_ne_nil _ _
  · rw [hshown]
    exact List.cons_ne_nil _ _
  · intro cid
    rw [hshown, List.mem_pair, List.mem_pair, or_comm]

end OrbitBhyve.Entry
