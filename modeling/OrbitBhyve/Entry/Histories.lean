import OrbitBhyve.Entry.Flows

/-!
# Histories of an entry

Refreshes and reconfigure flows which run one after another never lose a kept
device and never bring an unchecked one back. A sticky field of a record is
merged from the last stored record of its device, so of two records of one
device the first can be lost with all that it holds.
-/

namespace OrbitBhyve.Entry

open Foundation Python

/-! ## One merge -/

section Merge

variable {stored discovered : List DeviceRecord} {selected : List String}

/-- What is filled in a stored record of a device which stays is filled in one of its new ones. -/
def KeepsFilled (stored new : List DeviceRecord) : Prop :=
  ∀ r ∈ stored, r.cloudId ∈ cloudIds new → ∀ f ∈ STICKY_FIELDS, filled r.fields f = true →
    ∃ r' ∈ new, r'.cloudId = r.cloudId ∧ filled r'.fields f = true

/-- What is filled in a stored record of a selected device which is discovered is filled in the
last of its stored records or in a discovered one. -/
def Recovers (stored discovered : List DeviceRecord) (selected : List String) : Prop :=
  ∀ r ∈ stored, isSelected selected r = true → r.cloudId ∈ cloudIds discovered →
    ∀ f ∈ STICKY_FIELDS, filled r.fields f = true →
      (∃ old, byStored stored r.cloudId = some old ∧ filled old.fields f = true) ∨
        ∃ record ∈ discovered, record.cloudId = r.cloudId ∧ filled record.fields f = true

theorem KeepsFilled.refl (stored : List DeviceRecord) : KeepsFilled stored stored :=
  fun r hr _ _ _ hfilled => ⟨r, hr, rfl, hfilled⟩

theorem mergeDiscovered_of_byStored {record old : DeviceRecord}
    (h : byStored stored record.cloudId = some old) :
    mergeDiscovered stored record = mergeDeviceRecord old record := by
  unfold mergeDiscovered
  rw [h]

theorem keepsFilled_mergeDeviceLists_iff :
    KeepsFilled stored (mergeDeviceLists stored discovered selected) ↔
      Recovers stored discovered selected := by
  constructor
  · intro hkeeps r hr hsel hdisc f hf hfilled
    obtain ⟨hne, hmem⟩ := isSelected_iff.mp hsel
    obtain ⟨r', hr', hid, hfilled'⟩ := hkeeps r hr
      (mem_cloudIds_mergeDeviceLists.mpr ⟨hne, hmem, .inl hdisc⟩) f hf hfilled
    obtain ⟨record, hrecord, -, rfl⟩ | ⟨-, -, hgone⟩ := mem_mergeDeviceLists.mp hr'
    · rw [cloudId_mergeDiscovered] at hid
      obtain ⟨old, hold⟩ := exists_byStored hr
      rw [mergeDiscovered_of_byStored (hid ▸ hold), filled_mergeDeviceRecord hf] at hfilled'
      exact hfilled'.symm.imp (fun h => ⟨old, hold, h⟩) fun h => ⟨record, hrecord, hid, h⟩
    · exact absurd (hid ▸ hdisc) hgone
  · intro hrec r hr hkept f hf hfilled
    obtain ⟨hne, hmem, -⟩ := mem_cloudIds_mergeDeviceLists.mp hkept
    have hsel : isSelected selected r = true := isSelected_iff.mpr ⟨hne, hmem⟩
    by_cases hdisc : r.cloudId ∈ cloudIds discovered
    · obtain ⟨old, hold⟩ := exists_byStored hr
      have hmerged : ∀ record ∈ discovered, record.cloudId = r.cloudId →
          filled record.fields f = true ∨ filled old.fields f = true →
          ∃ r' ∈ mergeDeviceLists stored discovered selected,
            r'.cloudId = r.cloudId ∧ filled r'.fields f = true := by
        intro record hrecord hid hor
        refine ⟨mergeDeviceRecord old record, ?_, hid, (filled_mergeDeviceRecord hf).mpr hor⟩
        rw [← mergeDiscovered_of_byStored (hid ▸ hold)]
        refine mem_mergeDeviceLists.mpr (.inl ⟨record, hrecord, ?_, rfl⟩)
        rw [isSelected_iff, hid]
        exact ⟨hne, hmem⟩
      obtain ⟨old', hold', hfilled'⟩ | ⟨record, hrecord, hid, hfilled'⟩ :=
        hrec r hr hsel hdisc f hf hfilled
      · obtain ⟨record, hrecord, hid⟩ := mem_cloudIds.mp hdisc
        obtain rfl : old' = old := Option.some.inj (hold'.symm.trans hold)
        exact hmerged record hrecord hid (.inr hfilled')
      · exact hmerged record hrecord hid (.inl hfilled')
    · exact ⟨r, mem_mergeDeviceLists.mpr (.inr ⟨hr, hsel, hdisc⟩), rfl, hfilled⟩

end Merge

/-! ## One event -/

namespace Account

/-- A refresh keeps every device which has a `cloud_id`. -/
def RefreshKeeps (s : Account) : Event → Prop
  | .refresh r => ∀ cid ∈ cloudIds s.data.devices, cid ≠ "" →
      cid ∈ cloudIds (s.step (.refresh r)).data.devices
  | _ => True

/-- A device which was left unchecked is not among the devices. -/
def UncheckedOut (s : Account) : Prop := ∀ cid ∈ s.unchecked, cid ∉ cloudIds s.data.devices

/-- The merges of an event lose no filled sticky field. -/
def MergesFully (s : Account) : Event → Prop
  | .refresh (.ok discovered) => s.data.hasCredentials = true →
      Recovers s.data.devices discovered (refreshSelection discovered s.data)
  | .submit included => ∀ f, s.picker = some f → included.isEmpty = false →
      Recovers f.stored f.discovered included
  | _ => True

/-- In a history without overlaps a flow has the stored devices before it, and every
unchecked id is known and out. -/
structure Settled (s : Account) : Prop where
  snapshot : ∀ f, s.flow = some f → f.stored = s.data.devices
  known : ∃ ids, s.data.known = some ids ∧ ∀ cid ∈ s.unchecked, cid ∈ ids
  out : s.UncheckedOut

section Step

variable {s : Account}

theorem refreshKeeps (s : Account) (e : Event) : s.RefreshKeeps e := by
  cases e with
  | refresh r =>
    intro cid hcid hne
    obtain ⟨discovered, -, -, hstep⟩ | ⟨-, hstep⟩ := s.refresh_cases r
    · rw [hstep]
      exact mem_refreshed hne (mem_catalogueIds.mpr (.inr hcid)) (.inl hcid)
    · rwa [hstep]
  | _ => trivial

theorem not_mem_refreshed {d : EntryData} {ids : List String} {cid : String}
    (hknown : d.known = some ids) (hmem : cid ∈ ids) (hout : cid ∉ cloudIds d.devices)
    (discovered : List DeviceRecord) : cid ∉ cloudIds (refreshed discovered d).devices := by
  intro hcid
  obtain ⟨-, hsel, -⟩ := mem_cloudIds_mergeDeviceLists.mp hcid
  rw [refreshSelection, mem_defaultSelection, hknown] at hsel
  exact hsel.2.elim hout fun hnew => hnew hmem

theorem Settled.refresh (h : s.Settled) (hflow : s.flow = none) (r : Response) :
    (s.step (.refresh r)).Settled := by
  obtain ⟨ids, hknown, hids⟩ := h.known
  obtain ⟨discovered, -, -, hstep⟩ | ⟨-, hstep⟩ := s.refresh_cases r
  · rw [hstep]
    refine ⟨fun f hf => ?_, ⟨_, rfl, fun cid hcid => ?_⟩, fun cid hcid => ?_⟩
    · cases hflow.symm.trans hf
    · rw [mem_nextKnownIds, hknown]
      exact .inl (hids cid hcid)
    · exact not_mem_refreshed hknown (hids cid hcid) (h.out cid hcid) discovered
  · rw [hstep]
    exact h

theorem Settled.submit (h : s.Settled) (f : ReconfigureFlow) (included : List String) :
    (s.submitDevices f included).Settled := by
  obtain ⟨ids, hknown, hids⟩ := h.known
  refine ⟨fun g hg => (by cases hg), ⟨_, rfl, fun cid hcid => ?_⟩, fun cid hcid hdev => ?_⟩
  · obtain ⟨hmem, -⟩ := List.mem_filter.mp hcid
    rw [mem_nextKnownIds, hknown]
    exact (List.mem_append.mp hmem).imp (hids cid) .inr
  · obtain ⟨-, hnot⟩ := List.mem_filter.mp hcid
    obtain ⟨-, hsel, -⟩ := mem_cloudIds_mergeDeviceLists.mp hdev
    rw [Bool.not_eq_true', ← Bool.not_eq_true, List.contains_iff_mem] at hnot
    exact hnot hsel

theorem Settled.step (h : s.Settled) {e : Event} (hseq : s.sequential e = true) :
    (s.step e).Settled := by
  cases e with
  | refresh r => exact h.refresh (Option.isNone_iff_eq_none.mp hseq) r
  | reconfigure => exact ⟨fun f hf => (by cases hf; rfl), h.known, h.out⟩
  | discovered r =>
    refine ⟨fun f hf => ?_, h.known, h.out⟩
    obtain ⟨g, hg, hres⟩ := Option.bind_eq_some_iff.mp hf
    exact (ReconfigureFlow.stored_resume hres).trans (h.snapshot g hg)
  | enterPassword password =>
    refine ⟨fun f hf => ?_, h.known, h.out⟩
    obtain ⟨g, hg, rfl⟩ := Option.map_eq_some_iff.mp hf
    exact (ReconfigureFlow.stored_enterPassword password g).trans (h.snapshot g hg)
  | submit included =>
    obtain ⟨f, -, -, hstep⟩ | ⟨-, hstep⟩ := s.submit_cases included
    · rw [hstep]
      exact h.submit f included
    · rw [hstep]
      exact h
  | close => exact ⟨fun f hf => (by cases hf), h.known, h.out⟩

/-- What an event writes is a merge onto the devices before it, or nothing. -/
theorem Settled.keepsFilled_iff (h : s.Settled) (e : Event) :
    KeepsFilled s.data.devices (s.step e).data.devices ↔ s.MergesFully e := by
  cases e with
  | refresh r =>
    obtain ⟨discovered, rfl, hcred, hstep⟩ | ⟨hfail, hstep⟩ := s.refresh_cases r
    · rw [hstep]
      exact keepsFilled_mergeDeviceLists_iff.trans (by simp [MergesFully, hcred])
    · rw [hstep]
      refine iff_of_true (.refl _) ?_
      cases r with
      | error e => trivial
      | ok discovered => exact fun hcred => absurd rfl (hfail hcred discovered)
  | submit included =>
    obtain ⟨f, hpicker, hsome, hstep⟩ | ⟨hnone, hstep⟩ := s.submit_cases included
    · rw [hstep, ← h.snapshot f (flow_of_picker hpicker)]
      exact keepsFilled_mergeDeviceLists_iff.trans (by simp [MergesFully, hpicker, hsome])
    · rw [hstep]
      refine iff_of_true (.refl _) fun f hpicker hsome => ?_
      rw [hnone f hpicker] at hsome
      cases hsome
  | reconfigure => exact iff_of_true (.refl _) trivial
  | discovered r => exact iff_of_true (.refl _) trivial
  | enterPassword password => exact iff_of_true (.refl _) trivial
  | close => exact iff_of_true (.refl _) trivial

end Step

/-! ## Histories -/

theorem settled_of_created {email password : String} {discovered : List DeviceRecord}
    {included : List String} {s : Account}
    (h : created email password discovered included = some s) : s.Settled := by
  obtain rfl := created_some h
  refine ⟨fun f hf => (by cases hf), ⟨_, rfl, fun cid hcid => ?_⟩, fun cid hcid hdev => ?_⟩
  · exact mem_nextKnownIds.mpr (.inr (.inr (List.mem_of_mem_filter hcid)))
  · obtain ⟨-, hnot⟩ := List.mem_filter.mp hcid
    obtain ⟨r, hr, rfl⟩ := mem_cloudIds.mp hdev
    obtain ⟨-, hincluded⟩ := List.mem_filter.mp hr
    rw [hincluded] at hnot
    cases hnot

/-- Along a history of an entry no refresh loses a device, no unchecked device is back before
it is checked, and no filled sticky field of a kept device goes blank. -/
structure Faithful (s : Account) (es : List Event) : Prop where
  refresh : StepsMeet step RefreshKeeps s es
  unchecked : ∀ k, (run step s (es.take k)).UncheckedOut
  sticky : StepsMeet step (fun s e => KeepsFilled s.data.devices (s.step e).data.devices) s es

/-- A history is faithful exactly when each of its merges recovers what is filled. -/
theorem faithful_iff {email password : String} {discovered : List DeviceRecord}
    {included : List String} {s : Account} {es : List Event}
    (hcreated : created email password discovered included = some s)
    (hseq : StepsMeet step (fun s e => s.sequential e = true) s es) :
    Faithful s es ↔ StepsMeet step MergesFully s es := by
  have hs : s.Settled := settled_of_created hcreated
  have hsticky := StepsMeet.congr (fun _ _ h hok _ => h.step hok)
    (fun _ e h _ => h.keepsFilled_iff e) hs hseq
  refine ⟨fun h => hsticky.mp h.sticky, fun h => ⟨?_, fun k => ?_, hsticky.mpr h⟩⟩
  · exact hseq.mono fun s e _ => s.refreshKeeps e
  · exact (run_invariant (fun _ _ h hok => h.step hok) hs (hseq.take k)).out

/-! ## Devices which are listed once -/

/-- No two records have one `cloud_id`, unless the cloud named none. -/
def OncePerDevice (records : List DeviceRecord) : Prop :=
  ∀ r ∈ records, ∀ r' ∈ records, r.cloudId ≠ "" → r.cloudId = r'.cloudId → r = r'

section Once

variable {stored discovered : List DeviceRecord} {selected : List String}

theorem OncePerDevice.merge (hs : OncePerDevice stored) (hd : OncePerDevice discovered) :
    OncePerDevice (mergeDeviceLists stored discovered selected) := by
  intro r hr r' hr' hne hid
  obtain ⟨u, hu, -, rfl⟩ | ⟨hu, -, hgone⟩ := mem_mergeDeviceLists.mp hr <;>
    obtain ⟨u', hu', -, rfl⟩ | ⟨hu', -, hgone'⟩ := mem_mergeDeviceLists.mp hr'
  · rw [cloudId_mergeDiscovered] at hne
    rw [cloudId_mergeDiscovered, cloudId_mergeDiscovered] at hid
    rw [hd u hu u' hu' hne hid]
  · rw [cloudId_mergeDiscovered] at hid
    exact absurd (mem_cloudIds.mpr ⟨u, hu, hid⟩) hgone'
  · rw [cloudId_mergeDiscovered] at hid
    exact absurd (mem_cloudIds.mpr ⟨u', hu', hid.symm⟩) hgone
  · exact hs r hu r' hu' hne hid

theorem OncePerDevice.recovers (h : OncePerDevice stored) :
    Recovers stored discovered selected := by
  intro r hr hsel _ f hf hfilled
  obtain ⟨old, hold⟩ := exists_byStored hr
  obtain ⟨hmem, hid⟩ := byStored_some hold
  obtain rfl := h r hr old hmem (isSelected_iff.mp hsel).1 hid.symm
  exact .inl ⟨r, hold, hfilled⟩

end Once

def ListsOnce : Event → Prop
  | .refresh (.ok discovered) | .discovered (.ok discovered) => OncePerDevice discovered
  | _ => True

structure Once (s : Account) : Prop where
  devices : OncePerDevice s.data.devices
  flow : ∀ f, s.flow = some f → OncePerDevice f.stored ∧ OncePerDevice f.discovered

theorem Once.step {s : Account} (h : s.Once) {e : Event} (he : ListsOnce e) : (s.step e).Once := by
  cases e with
  | refresh r =>
    obtain ⟨discovered, rfl, -, hstep⟩ | ⟨-, hstep⟩ := s.refresh_cases r
    · rw [hstep]
      exact ⟨h.devices.merge he, h.flow⟩
    · rw [hstep]
      exact h
  | reconfigure =>
    refine ⟨h.devices, fun f hf => ?_⟩
    cases hf
    exact ⟨h.devices, fun r hr => by cases hr⟩
  | discovered r =>
    refine ⟨h.devices, fun f hf => ?_⟩
    obtain ⟨g, hg, hres⟩ := Option.bind_eq_some_iff.mp hf
    obtain ⟨hstored, hdiscovered⟩ := h.flow g hg
    refine ⟨(ReconfigureFlow.stored_resume hres).symm ▸ hstored, ?_⟩
    obtain hsame | hok := ReconfigureFlow.discovered_resume hres
    · exact hsame.symm ▸ hdiscovered
    · rw [hok] at he
      exact he
  | enterPassword password =>
    refine ⟨h.devices, fun f hf => ?_⟩
    obtain ⟨g, hg, rfl⟩ := Option.map_eq_some_iff.mp hf
    rw [ReconfigureFlow.stored_enterPassword, ReconfigureFlow.discovered_enterPassword]
    exact h.flow g hg
  | submit included =>
    obtain ⟨f, hpicker, -, hstep⟩ | ⟨-, hstep⟩ := s.submit_cases included
    · obtain ⟨hstored, hdiscovered⟩ := h.flow f (flow_of_picker hpicker)
      rw [hstep]
      exact ⟨hstored.merge hdiscovered, fun g hg => by cases hg⟩
    · rw [hstep]
      exact h
  | close => exact ⟨h.devices, fun f hf => by cases hf⟩

theorem Once.mergesFully {s : Account} (h : s.Once) (e : Event) : s.MergesFully e := by
  cases e with
  | refresh r =>
    cases r with
    | error e => trivial
    | ok discovered => exact fun _ => h.devices.recovers
  | submit included => exact fun f hf _ => (h.flow f (flow_of_picker hf)).1.recovers
  | _ => trivial

theorem faithful_of_listsOnce {email password : String} {discovered : List DeviceRecord}
    {included : List String} {s : Account} {es : List Event}
    (hcreated : created email password discovered included = some s)
    (hseq : StepsMeet step (fun s e => s.sequential e = true) s es)
    (hdiscovered : OncePerDevice discovered) (hlists : ∀ e ∈ es, ListsOnce e) :
    Faithful s es := by
  have hs : s.Once := by
    obtain rfl := created_some hcreated
    exact ⟨fun r hr r' hr' => hdiscovered r (List.mem_of_mem_filter hr) r'
      (List.mem_of_mem_filter hr'), fun f hf => by cases hf⟩
  refine (faithful_iff hcreated hseq).mpr ?_
  exact (StepsMeet.of_forall hlists s).of_invariant (fun _ _ h he => h.step he)
    (fun _ e h _ => h.mergesFully e) hs

/-! ### A device which is listed twice -/

def withKey (key : Value) : DeviceRecord := ⟨"a1", [("network_key", key)]⟩

/-- An account with one device, and a refresh which comes without its key. -/
theorem faithful_iff_blank_refresh :
    ∃ s, created "me@example.com" "secret" [withKey (.str "00ff")] ["a1"] = some s ∧
      (Faithful s [.refresh (.ok [withKey .none])] ↔
        StepsMeet step MergesFully s [.refresh (.ok [withKey .none])]) := by
  obtain ⟨s, hs⟩ : ∃ s, created "me@example.com" "secret" [withKey (.str "00ff")] ["a1"] = some s :=
    ⟨_, rfl⟩
  have hflow : s.flow = none := by
    cases hs
    rfl
  exact ⟨s, hs, faithful_iff hs ⟨Option.isNone_iff_eq_none.mpr hflow, trivial⟩⟩

/-- The response which made the entry had the device a second time, without its key. The merge
is onto that record, and the key is gone. -/
theorem listed_twice_loses_key :
    ∃ s, created "me@example.com" "secret" [withKey (.str "00ff"), withKey .none] ["a1"] = some s ∧
      (s.step (.refresh (.ok [withKey .none]))).data.devices.map
        (fun r => (r.cloudId, filled r.fields "network_key")) = [("a1", false)] ∧
      ¬ Faithful s [.refresh (.ok [withKey .none])] := by
  obtain ⟨s, hs, hkeys, hstored, hkept⟩ : ∃ s,
      created "me@example.com" "secret" [withKey (.str "00ff"), withKey .none] ["a1"] = some s ∧
      (s.step (.refresh (.ok [withKey .none]))).data.devices.map
        (fun r => (r.cloudId, filled r.fields "network_key")) = [("a1", false)] ∧
      withKey (.str "00ff") ∈ s.data.devices ∧
      "a1" ∈ cloudIds (s.step (.refresh (.ok [withKey .none]))).data.devices :=
    ⟨_, rfl, by decide +kernel, List.mem_filter.mpr ⟨List.mem_cons_self, by decide +kernel⟩,
      by decide +kernel⟩
  refine ⟨s, hs, hkeys, fun h => ?_⟩
  obtain ⟨r, hr, -, hfilled⟩ := h.sticky.1 (withKey (.str "00ff")) hstored hkept "network_key"
    (by decide +kernel) (by decide +kernel)
  have hkey := List.mem_map_of_mem hr (f := fun r => (r.cloudId, filled r.fields "network_key"))
  rw [hkeys, hfilled] at hkey
  simp at hkey

end Account
end OrbitBhyve.Entry
