import Mathlib.Data.String.Basic
import OrbitBhyve.Entry.Histories

/-!
# A refresh which is run again

A second refresh with the same response merges the response into what the first
one has merged, under a larger set of known ids and in another stored order. It
selects the devices which are there, and each of its steps finds its own result.
-/

namespace OrbitBhyve.Entry

open Python

/-! ## A record merged again -/

section Record

variable {old merged : Dict Value} {f g : String}

theorem get_keepSticky : Dict.get (keepSticky old merged g) f =
    if f = g ∧ filled merged f = false ∧ filled old f = true then Dict.get old f
    else Dict.get merged f := by
  unfold keepSticky
  by_cases hcopy : filled merged g = false ∧ filled old g = true
  · obtain ⟨hblank, hold⟩ := hcopy
    obtain ⟨v, hv, -⟩ := exists_of_filled hold
    rw [if_pos (by rw [hblank, hold]; rfl), hv]
    dsimp only
    rw [Dict.get_set]
    by_cases hfg : f = g
    · subst hfg
      rw [if_pos rfl, if_pos ⟨rfl, hblank, hold⟩, hv]
    · rw [if_neg (Ne.symm hfg), if_neg fun h => hfg h.1]
  · rw [if_neg (by simpa using hcopy), if_neg]
    rintro ⟨rfl, h⟩
    exact hcopy h

theorem get_foldl_keepSticky (fields : List String) :
    Dict.get (fields.foldl (keepSticky old) merged) f =
      if f ∈ fields ∧ filled merged f = false ∧ filled old f = true then Dict.get old f
      else Dict.get merged f := by
  induction fields generalizing merged with
  | nil => simp
  | cons g fields ih =>
    have hfilled : filled (keepSticky old merged g) f = true ↔
        filled merged f = true ∨ f = g ∧ filled old f = true := filled_keepSticky
    rw [List.foldl_cons, ih, get_keepSticky]
    by_cases hfg : f = g
    · subst hfg
      by_cases hcopy : filled merged f = false ∧ filled old f = true
      · have hturn : f = f ∧ filled merged f = false ∧ filled old f = true := ⟨rfl, hcopy⟩
        rw [if_pos hturn, ite_self, if_pos ⟨List.mem_cons_self, hcopy⟩]
      · have hsame : ¬ (filled (keepSticky old merged f) f = false ∧ filled old f = true) := by
          rintro ⟨hblank, hold⟩
          rw [hfilled.mpr (.inr ⟨rfl, hold⟩)] at hblank
          cases hblank
        rw [if_neg fun h => hsame h.2, if_neg fun h => hcopy h.2, if_neg fun h => hcopy h.2]
    · have hkept : filled (keepSticky old merged g) f = filled merged f := by
        rw [Bool.eq_iff_iff, hfilled]
        exact or_iff_left fun h => hfg h.1
      have hturn : ¬ (f = g ∧ filled merged f = false ∧ filled old f = true) := fun h => hfg h.1
      simp only [hkept, if_neg hturn, List.mem_cons, or_iff_right hfg]

theorem keys_keepSticky (h : ∀ k ∈ old.keys, k ∈ merged.keys) :
    (keepSticky old merged g).keys = merged.keys := by
  unfold keepSticky
  split_ifs with hcopy
  · cases hv : Dict.get old g with
    | none => rfl
    | some v =>
      refine Dict.keys_update_of_subset fun k hk => ?_
      obtain rfl : k = g := List.mem_singleton.mp hk
      exact h k (Dict.isSome_get.mp (by rw [hv]; rfl))
  · rfl

theorem keys_foldl_keepSticky (fields : List String) (h : ∀ k ∈ old.keys, k ∈ merged.keys) :
    (fields.foldl (keepSticky old) merged).keys = merged.keys := by
  induction fields generalizing merged with
  | nil => rfl
  | cons g fields ih =>
    have hkeys : (keepSticky old merged g).keys = merged.keys := keys_keepSticky h
    rw [List.foldl_cons, ih (by rwa [hkeys]), hkeys]

variable {old new : DeviceRecord}

theorem keys_mergeDeviceRecord :
    (mergeDeviceRecord old new).fields.keys = (Dict.update old.fields new.fields).keys := by
  have hkept : ∀ k ∈ old.fields.keys, k ∈ (Dict.update old.fields new.fields).keys := by
    intro k hk
    rw [Dict.keys_update]
    exact List.mem_append_left _ hk
  rw [mergeDeviceRecord, keys_foldl_keepSticky STICKY_FIELDS hkept]

/-- A field of a merged record: the old value for a sticky field which has come back blank, or
else the new one, if there is one. -/
theorem get_mergeDeviceRecord (k : String) : Dict.get (mergeDeviceRecord old new).fields k =
    if k ∈ STICKY_FIELDS ∧ filled (Dict.update old.fields new.fields) k = false ∧
        filled old.fields k = true then
      Dict.get old.fields k
    else (Dict.get new.fields k).or (Dict.get old.fields k) := by
  unfold mergeDeviceRecord
  rw [get_foldl_keepSticky, Dict.get_update]

theorem distinct_mergeDeviceRecord (hold : old.fields.Distinct) (hnew : new.fields.Distinct) :
    (mergeDeviceRecord old new).fields.Distinct := by
  unfold Dict.Distinct
  rw [keys_mergeDeviceRecord]
  exact hold.update hnew

/-- A record into which what comes has been merged before, or which it is, stays as it is. -/
theorem mergeDeviceRecord_of_absorbed {record : DeviceRecord}
    (hrecord : record.fields.Distinct) (hnew : new.fields.Distinct)
    (hid : record.cloudId = new.cloudId)
    (habsorbed : ∀ k v, Dict.get new.fields k = some v → Dict.get record.fields k = some v ∨
      k ∈ STICKY_FIELDS ∧ filled new.fields k = false ∧ filled record.fields k = true) :
    mergeDeviceRecord record new = record := by
  have hsubset : ∀ k ∈ new.fields.keys, k ∈ record.fields.keys := by
    intro k hk
    obtain ⟨v, hv⟩ := Option.isSome_iff_exists.mp (Dict.isSome_get.mpr hk)
    refine Dict.isSome_get.mp ?_
    rcases habsorbed k v hv with hsame | ⟨-, -, hfilled⟩
    · rw [hsame]
      rfl
    · obtain ⟨w, hw, -⟩ := exists_of_filled hfilled
      rw [hw]
      rfl
  have hfields : (mergeDeviceRecord record new).fields = record.fields := by
    refine Dict.ext (distinct_mergeDeviceRecord hrecord hnew) ?_ fun k => ?_
    · rw [keys_mergeDeviceRecord, Dict.keys_update_of_subset hsubset]
    · rw [get_mergeDeviceRecord]
      split_ifs with hsticky
      · rfl
      · cases hv : Dict.get new.fields k with
        | none => rfl
        | some v =>
          refine ((habsorbed k v hv).resolve_right ?_).symm
          rintro ⟨hmem, hblank, hfilled⟩
          refine hsticky ⟨hmem, ?_, hfilled⟩
          rw [filled_update, hv]
          exact hblank
  have hshape : mergeDeviceRecord record new =
      ⟨new.cloudId, (mergeDeviceRecord record new).fields⟩ := by
    rw [mergeDeviceRecord]
  rw [hshape, hfields, ← hid]

theorem mergeDeviceRecord_self (h : new.fields.Distinct) : mergeDeviceRecord new new = new :=
  mergeDeviceRecord_of_absorbed h h rfl fun _ _ hv => .inl hv

theorem mergeDeviceRecord_again (hold : old.fields.Distinct) (hnew : new.fields.Distinct) :
    mergeDeviceRecord (mergeDeviceRecord old new) new = mergeDeviceRecord old new := by
  have hid : (mergeDeviceRecord old new).cloudId = new.cloudId := by rw [mergeDeviceRecord]
  refine mergeDeviceRecord_of_absorbed (distinct_mergeDeviceRecord hold hnew) hnew hid ?_
  intro k v hv
  rw [get_mergeDeviceRecord, hv]
  split_ifs with hsticky
  · obtain ⟨hmem, hblank, hfilled⟩ := hsticky
    rw [filled_update, hv] at hblank
    exact .inr ⟨hmem, hblank, (filled_mergeDeviceRecord hmem).mpr (.inr hfilled)⟩
  · exact .inl rfl

end Record

/-! ## A list merged again -/

/-- The cloud lists a device once, unless it names none, and a record is a `dict`. -/
structure Listing (discovered : List DeviceRecord) : Prop where
  once : Account.OncePerDevice discovered
  dicts : ∀ record ∈ discovered, record.fields.Distinct

section Lists

variable {stored discovered : List DeviceRecord} {selected selected' : List String}
  {record : DeviceRecord}

theorem byStored_of_unique (hmem : record ∈ stored)
    (hunique : ∀ r ∈ stored, r.cloudId = record.cloudId → r = record) :
    byStored stored record.cloudId = some record := by
  obtain ⟨old, hold⟩ := exists_byStored hmem
  obtain ⟨hin, hid⟩ := byStored_some hold
  rw [hold, hunique old hin hid]

/-- A merged record is what is stored when the response is merged again. -/
theorem byStored_mergeDeviceLists (h : Listing discovered) (hrecord : record ∈ discovered)
    (hsel : isSelected selected record = true) :
    byStored (mergeDeviceLists stored discovered selected) record.cloudId =
      some (mergeDiscovered stored record) := by
  have hid := cloudId_mergeDiscovered stored record
  rw [← hid]
  refine byStored_of_unique (mem_mergeDeviceLists.mpr (.inl ⟨record, hrecord, hsel, rfl⟩)) ?_
  intro r hr hsame
  rw [hid] at hsame
  rcases mem_mergeDeviceLists.mp hr with ⟨record', hrecord', -, rfl⟩ | ⟨-, -, hnew⟩
  · rw [cloudId_mergeDiscovered] at hsame
    rw [h.once record hrecord record' hrecord' (isSelected_iff.mp hsel).1 hsame.symm]
  · exact absurd (mem_cloudIds.mpr ⟨record, hrecord, hsame.symm⟩) hnew

theorem mergeDiscovered_again (h : Listing discovered)
    (hdicts : ∀ r ∈ stored, r.fields.Distinct) (hrecord : record ∈ discovered)
    (hsel : isSelected selected record = true) :
    mergeDiscovered (mergeDeviceLists stored discovered selected) record =
      mergeDiscovered stored record := by
  have hnew := h.dicts record hrecord
  conv_lhs => unfold mergeDiscovered
  rw [byStored_mergeDeviceLists h hrecord hsel]
  dsimp only
  unfold mergeDiscovered
  cases hold : byStored stored record.cloudId with
  | none => exact mergeDeviceRecord_self hnew
  | some old => exact mergeDeviceRecord_again (hdicts old (byStored_some hold).1) hnew

/-- Merging again keeps the list, order included, under a selection of what is in it. -/
theorem mergeDeviceLists_again (h : Listing discovered)
    (hdicts : ∀ r ∈ stored, r.fields.Distinct)
    (hselected : ∀ cid, cid ∈ selected' ↔
      cid ∈ cloudIds (mergeDeviceLists stored discovered selected)) :
    mergeDeviceLists (mergeDeviceLists stored discovered selected) discovered selected' =
      mergeDeviceLists stored discovered selected := by
  generalize hmerged : mergeDeviceLists stored discovered selected = merged at hselected ⊢
  have hsel : ∀ r ∈ merged, isSelected selected' r = true := by
    intro r hr
    have hid : r.cloudId ∈ cloudIds merged := mem_cloudIds.mpr ⟨r, hr, rfl⟩
    refine isSelected_iff.mpr ⟨?_, (hselected _).mpr hid⟩
    rw [← hmerged, mem_cloudIds_mergeDeviceLists] at hid
    exact hid.1
  have hfilter : discovered.filter (isSelected selected') =
      discovered.filter (isSelected selected) := by
    refine List.filter_congr fun r hr => ?_
    have hid : r.cloudId ∈ cloudIds discovered := mem_cloudIds.mpr ⟨r, hr, rfl⟩
    rw [Bool.eq_iff_iff, isSelected_iff, isSelected_iff, hselected, ← hmerged,
      mem_cloudIds_mergeDeviceLists]
    tauto
  have hout : (discovered.filter (isSelected selected')).map (mergeDiscovered merged) =
      (discovered.filter (isSelected selected)).map (mergeDiscovered stored) := by
    rw [hfilter, ← hmerged]
    refine List.map_congr_left fun r hr => ?_
    obtain ⟨hmem, hr⟩ := List.mem_filter.mp hr
    exact mergeDiscovered_again h hdicts hmem hr
  unfold mergeDeviceLists at hmerged ⊢
  dsimp only at hmerged ⊢
  rw [hout]
  generalize (discovered.filter (isSelected selected)).map (mergeDiscovered stored) = out
    at hmerged ⊢
  -- what the response lists is dropped from the stored rest, and all else is kept
  have hrest :
      merged.filter (fun r => isSelected selected' r && !(cloudIds out).contains r.cloudId) =
        merged.filter fun r => !(cloudIds out).contains r.cloudId := by
    refine List.filter_congr fun r hr => ?_
    rw [hsel r hr, Bool.true_and]
  have hlisted : out.filter (fun r => !(cloudIds out).contains r.cloudId) = [] := by
    refine List.filter_eq_nil_iff.mpr fun r hr => ?_
    simpa using mem_cloudIds.mpr ⟨r, hr, rfl⟩
  rw [hrest, ← hmerged, List.filter_append, hlisted, List.nil_append, List.filter_filter]
  congr 1
  refine List.filter_congr fun r _ => ?_
  cases isSelected selected r <;> cases (cloudIds out).contains r.cloudId <;> rfl

end Lists

/-! ## The service called again -/

theorem nextKnownIds_congr {known known' : Option (List String)}
    {ids ids' catalogue catalogue' : List String}
    (h : ∀ cid, cid ∈ nextKnownIds known ids catalogue ↔
      cid ∈ nextKnownIds known' ids' catalogue') :
    nextKnownIds known ids catalogue = nextKnownIds known' ids' catalogue' := by
  have hnodup : ∀ known ids catalogue, (nextKnownIds known ids catalogue).Nodup := by
    intro known ids catalogue
    exact (List.perm_insertionSort _ _).nodup_iff.mpr (List.nodup_dedup _)
  have hperm := (List.perm_ext_iff_of_nodup (hnodup _ _ _) (hnodup _ _ _)).mpr h
  exact hperm.eq_of_pairwise' (List.pairwise_insertionSort _ _) (List.pairwise_insertionSort _ _)

section Service

variable {discovered : List DeviceRecord} {d : EntryData} {cid : String}

theorem mem_known_refreshed : cid ∈ (refreshed discovered d).known.getD [] ↔
    cid ∈ d.known.getD [] ∨ cid ∈ catalogueIds d.devices discovered := by
  have hknown : (refreshed discovered d).known.getD [] =
    nextKnownIds d.known (cloudIds d.devices) (catalogueIds d.devices discovered) := rfl
  rw [hknown, mem_nextKnownIds, mem_catalogueIds]
  tauto

theorem mem_catalogueIds_of_mem_refreshed (h : cid ∈ cloudIds (refreshed discovered d).devices) :
    cid ∈ catalogueIds d.devices discovered :=
  mem_catalogueIds.mpr (mem_cloudIds_mergeDeviceLists.mp h).2.2

/-- The second refresh offers nothing which the first has not. -/
theorem mem_catalogueIds_again
    (h : cid ∈ catalogueIds (refreshed discovered d).devices discovered) :
    cid ∈ catalogueIds d.devices discovered := by
  rcases mem_catalogueIds.mp h with hdisc | hkept
  · exact mem_catalogueIds.mpr (.inl hdisc)
  · exact mem_catalogueIds_of_mem_refreshed hkept

theorem mem_refreshSelection_again :
    cid ∈ refreshSelection discovered (refreshed discovered d) ↔
      cid ∈ cloudIds (refreshed discovered d).devices := by
  have hgetD : ∀ ids, (refreshed discovered d).known.getD ids =
      (refreshed discovered d).known.getD [] := fun _ => rfl
  unfold refreshSelection
  rw [mem_defaultSelection, hgetD, mem_known_refreshed]
  constructor
  · rintro ⟨hoffered, hkept | hunknown⟩
    · exact hkept
    · exact absurd (.inr (mem_catalogueIds_again hoffered)) hunknown
  · intro hkept
    exact ⟨mem_catalogueIds.mpr (.inr hkept), .inl hkept⟩

theorem refreshed_again (h : Listing discovered) (hdicts : ∀ r ∈ d.devices, r.fields.Distinct) :
    refreshed discovered (refreshed discovered d) = refreshed discovered d := by
  have hdevices : (refreshed discovered (refreshed discovered d)).devices =
      (refreshed discovered d).devices :=
    mergeDeviceLists_again h hdicts fun _ => mem_refreshSelection_again
  have hknown : (refreshed discovered (refreshed discovered d)).known =
      (refreshed discovered d).known := by
    refine congrArg some (nextKnownIds_congr fun cid => ?_)
    rw [mem_nextKnownIds, mem_known_refreshed, mem_nextKnownIds, mem_catalogueIds,
      mem_catalogueIds]
    have hkept : cid ∈ cloudIds (refreshed discovered d).devices →
        cid ∈ cloudIds discovered ∨ cid ∈ cloudIds d.devices :=
      fun h => mem_catalogueIds.mp (mem_catalogueIds_of_mem_refreshed h)
    tauto
  calc refreshed discovered (refreshed discovered d)
      = { refreshed discovered d with
          devices := (refreshed discovered (refreshed discovered d)).devices
          known := (refreshed discovered (refreshed discovered d)).known } := rfl
    _ = refreshed discovered d := by rw [hdevices, hknown]

end Service

/-- A second refresh with the same response leaves the entry as it is after the first. -/
theorem asyncRefreshEntry_again (r : Response) (d : EntryData)
    (hlisting : ∀ discovered, r = .ok discovered → Listing discovered)
    (hdicts : ∀ record ∈ d.devices, record.fields.Distinct) :
    asyncRefreshEntry r (asyncRefreshEntry r d) = asyncRefreshEntry r d := by
  obtain ⟨discovered, rfl, hcred, hfirst⟩ | ⟨-, hfirst⟩ := asyncRefreshEntry_cases r d
  · have hcred' : (refreshed discovered d).hasCredentials = true := hcred
    have hsecond : asyncRefreshEntry (.ok discovered) (refreshed discovered d) =
        refreshed discovered (refreshed discovered d) := if_pos hcred'
    rw [hfirst, hsecond]
    exact refreshed_again (hlisting discovered rfl) hdicts
  · rw [hfirst, hfirst]

/-- Two devices, one of which the cloud has lost. -/
def keptEntry : EntryData where
  email := "me@example.com"
  password := "secret"
  devices := [⟨"a1", [("network_key", .str "00FF"), ("name", .str "Deck")]⟩, ⟨"c3", []⟩]
  known := none

/-- A listing in which a key is blank, and two records have no id. -/
def partialListing : List DeviceRecord :=
  [⟨"b2", []⟩, ⟨"", [("name", .str "Shed")]⟩, ⟨"a1", [("name", .str "Patio"),
    ("network_key", .none)]⟩, ⟨"", []⟩]

theorem asyncRefreshEntry_again_partial :
    cloudIds (asyncRefreshEntry (.ok partialListing) keptEntry).devices = ["b2", "a1", "c3"] ∧
      asyncRefreshEntry (.ok partialListing) (asyncRefreshEntry (.ok partialListing) keptEntry) =
        asyncRefreshEntry (.ok partialListing) keptEntry := by
  refine ⟨by decide +kernel, asyncRefreshEntry_again (.ok partialListing) keptEntry ?_ ?_⟩
  · rintro _ ⟨⟩
    refine ⟨?_, by decide⟩
    simp [Account.OncePerDevice, partialListing]
  · decide

end OrbitBhyve.Entry
