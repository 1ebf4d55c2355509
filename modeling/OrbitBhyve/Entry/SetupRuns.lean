import OrbitBhyve.Cloud.Outcomes
import OrbitBhyve.Entry.Idempotence
import OrbitBhyve.Entry.Setup

/-!
# Set-up after any history

A set-up reads keys of a record without a default, takes the text of some and
the bytes of the network key, and nothing around it would catch what that
raises. Of what discoveries return, and of what refreshes and reconfigure flows
merge of it, only a hardware version which is no text makes it raise.
-/

namespace OrbitBhyve.Entry

open Cloud Foundation Python Wire

/-- The record of a discovery under its `cloud_id`, which the cloud gives as a text. -/
def recordOf (fields : Dict Value) : Option DeviceRecord :=
  match fields with
  | ("cloud_id", .str cloudId) :: fields => some ⟨cloudId, fields⟩
  | _ => none

/-- A record which some cloud, asked by some client, returned. -/
def FromCloud (r : DeviceRecord) : Prop :=
  ∃ server email password client client' records fields,
    discover server email password client = .ok records client' ∧ fields ∈ records ∧
      recordOf fields = some r

/-! ## Records which a set-up can read -/

def Present (P : Value → Prop) (r : DeviceRecord) (key : String) : Prop :=
  ∃ v, r.fields.get key = some v ∧ P v

def IsKey (v : Value) : Prop := v = .none ∨ ∃ data, v = .str (hexText data)

/-- What a set-up reads is there and, but for the hardware, of its type. -/
structure Readable (r : DeviceRecord) : Prop where
  name : Present (fun _ => True) r "name"
  mac : Present (fun _ => True) r "mac"
  type : Present (fun v => ∃ text, v = .str text ∧ isBridge text = false) r "type"
  hardware : Present (fun _ => True) r "hardware"
  firmware : Present (fun _ => True) r "firmware"
  stations : Present (fun _ => True) r "stations"
  networkKey : Present IsKey r "network_key"

theorem Present.merge {P : Value → Prop} {old new : DeviceRecord} {key : String}
    (hold : Present P old key) (hnew : Present P new key) :
    Present P (mergeDeviceRecord old new) key := by
  obtain ⟨v, hv, hP⟩ := hold
  obtain ⟨w, hw, hQ⟩ := hnew
  unfold Present
  rw [get_mergeDeviceRecord]
  split_ifs
  · exact ⟨v, hv, hP⟩
  · exact ⟨w, by rw [hw]; rfl, hQ⟩

theorem Readable.merge {old new : DeviceRecord} (hold : Readable old) (hnew : Readable new) :
    Readable (mergeDeviceRecord old new) where
  name := hold.name.merge hnew.name
  mac := hold.mac.merge hnew.mac
  type := hold.type.merge hnew.type
  hardware := hold.hardware.merge hnew.hardware
  firmware := hold.firmware.merge hnew.firmware
  stations := hold.stations.merge hnew.stations
  networkKey := hold.networkKey.merge hnew.networkKey

theorem readable_of_fromCloud {r : DeviceRecord} (h : FromCloud r) : Readable r := by
  obtain ⟨server, email, password, client, client', records, fields, hdiscover, hmem, hrecord⟩ := h
  have hjoined := joined_of_discover hdiscover fields hmem
  obtain ⟨rest, rfl, hid⟩ :
      ∃ rest, r.fields = rest ∧ fields = ("cloud_id", .str r.cloudId) :: rest := by
    unfold recordOf at hrecord
    split at hrecord
    · cases hrecord
      exact ⟨_, rfl, rfl⟩
    · cases hrecord
  have hkeys : Dict.keys r.fields = RECORD_KEYS.tail := by
    have := hjoined.keys
    rw [hid] at this
    exact congrArg List.tail this
  have hget : ∀ key ∈ RECORD_KEYS.tail,
      ∃ v, r.fields.get key = some v ∧ Dict.lookup fields key = v := by
    intro key hkey
    obtain ⟨v, hv⟩ := Option.isSome_iff_exists.mp (Dict.isSome_get.mpr (hkeys ▸ hkey))
    have hne : ("cloud_id" : String) ≠ key := by
      rintro rfl
      revert hkey
      decide
    refine ⟨v, hv, ?_⟩
    rw [Dict.lookup, hid, Dict.get_cons, if_neg hne, hv]
    rfl
  have hpresent : ∀ (P : Value → Prop) key, key ∈ RECORD_KEYS.tail → P (Dict.lookup fields key) →
      Present P r key := by
    intro P key hkey hP
    obtain ⟨v, hv, rfl⟩ := hget key hkey
    exact ⟨_, hv, hP⟩
  exact {
    name := hpresent _ _ (by decide) trivial
    mac := hpresent _ _ (by decide) trivial
    type := hpresent _ _ (by decide) hjoined.type
    hardware := hpresent _ _ (by decide) trivial
    firmware := hpresent _ _ (by decide) trivial
    stations := hpresent _ _ (by decide) trivial
    networkKey := hpresent _ _ (by decide) hjoined.networkKey }

/-! ## Histories -/

/-- The records of a response all have a property. -/
def Event.Lists (P : DeviceRecord → Prop) : Event → Prop
  | .refresh (.ok records) | .discovered (.ok records) => ∀ r ∈ records, P r
  | _ => True

/-- Every record of an account, and of its open flow, has a property. -/
structure Account.Holds (P : DeviceRecord → Prop) (s : Account) : Prop where
  devices : ∀ r ∈ s.data.devices, P r
  flow : ∀ f, s.flow = some f → (∀ r ∈ f.stored, P r) ∧ ∀ r ∈ f.discovered, P r

section Holds

variable {P : DeviceRecord → Prop}

theorem forall_mergeDeviceLists (hmerge : ∀ old new, P old → P new → P (mergeDeviceRecord old new))
    {stored discovered : List DeviceRecord} (hstored : ∀ r ∈ stored, P r)
    (hdiscovered : ∀ r ∈ discovered, P r) (selected : List String) :
    ∀ r ∈ mergeDeviceLists stored discovered selected, P r := by
  intro r hr
  obtain ⟨record, hrecord, -, rfl⟩ | ⟨hr, -, -⟩ := mem_mergeDeviceLists.mp hr
  · unfold mergeDiscovered
    split
    · exact hdiscovered record hrecord
    · next old hold =>
      exact hmerge _ _ (hstored old (byStored_some hold).1) (hdiscovered record hrecord)
  · exact hstored r hr

theorem Account.Holds.step (hmerge : ∀ old new, P old → P new → P (mergeDeviceRecord old new))
    {s : Account} (h : s.Holds P) {e : Event} (he : e.Lists P) : (s.step e).Holds P := by
  cases e with
  | refresh r =>
    obtain ⟨discovered, rfl, -, hstep⟩ | ⟨-, hstep⟩ := s.refresh_cases r
    · rw [hstep]
      exact ⟨forall_mergeDeviceLists hmerge h.devices he _, h.flow⟩
    · rw [hstep]
      exact h
  | reconfigure =>
    refine ⟨h.devices, fun f hf => ?_⟩
    cases hf
    exact ⟨h.devices, fun r hr => by cases hr⟩
  | discovered r =>
    refine ⟨h.devices, fun f hf => ?_⟩
    obtain ⟨g, hg, hres⟩ := Option.bind_eq_some_iff.mp hf
    obtain ⟨hstored, hdiscovered⟩ := h.flow g hg
    refine ⟨(ReconfigureFlow.stored_resume hres).symm ▸ hstored, ?_⟩
    obtain hsame | hok := ReconfigureFlow.discovered_resume hres
    · exact hsame.symm ▸ hdiscovered
    · rw [hok] at he
      exact he
  | enterPassword password =>
    refine ⟨h.devices, fun f hf => ?_⟩
    obtain ⟨g, hg, rfl⟩ := Option.map_eq_some_iff.mp hf
    rw [ReconfigureFlow.stored_enterPassword, ReconfigureFlow.discovered_enterPassword]
    exact h.flow g hg
  | submit included =>
    obtain ⟨f, hpicker, -, hstep⟩ | ⟨-, hstep⟩ := s.submit_cases included
    · obtain ⟨hstored, hdiscovered⟩ := h.flow f (Account.flow_of_picker hpicker)
      rw [hstep]
      exact ⟨forall_mergeDeviceLists hmerge hstored hdiscovered included, fun g hg => by cases hg⟩
    · rw [hstep]
      exact h
  | close => exact ⟨h.devices, fun f hf => by cases hf⟩

theorem Account.holds_of_created {email password : String} {discovered : List DeviceRecord}
    {included : List String} {s : Account}
    (h : Account.created email password discovered included = some s)
    (hdiscovered : ∀ r ∈ discovered, P r) : s.Holds P := by
  obtain rfl := Account.created_some h
  exact ⟨fun r hr => hdiscovered r (List.mem_of_mem_filter hr), fun f hf => by cases hf⟩

/-- A property which merges keep holds of every record after any history, when it does of every
record of its responses. -/
theorem Account.holds_run (hmerge : ∀ old new, P old → P new → P (mergeDeviceRecord old new))
    {s : Account} (h : s.Holds P) {es : List Event} (hes : ∀ e ∈ es, e.Lists P) :
    (run Account.step s es).Holds P :=
  run_invariant (fun _ _ hs he => hs.step hmerge he) h (StepsMeet.of_forall hes s)

end Holds

/-! ## Set-up -/

def LiveCoordinator.NoHub (c : LiveCoordinator) : Prop := c.device.cls ≠ .hub

/-- `hardware or ""`, of which `resolve_device_class` asks how it starts. -/
def hardwareOf (r : DeviceRecord) : Value := (textItem r.fields "hardware").or (.str "")

def TextHardware (r : DeviceRecord) : Prop := ∃ text, hardwareOf r = .str text

def Supported (r : DeviceRecord) : Prop :=
  ∃ text c, hardwareOf r = .str text ∧
    classOfHardware text (textItem r.fields "firmware") = some c

theorem classOfHardware_ne_hub {hardware : String} {firmware : Value} {c : BHyveClass}
    (h : classOfHardware hardware firmware = some c) : c ≠ .hub := by
  unfold classOfHardware at h
  split_ifs at h <;> cases h <;> decide

theorem or_text (text : String) : (Value.str text).or (.str "") = .str text := by
  unfold Value.or Value.truthy
  by_cases h : text = ""
  · rw [h]
    rfl
  · rw [if_pos (bne_iff_ne.mpr h)]

theorem isHubRecord_of_readable {r : DeviceRecord} (h : Readable r) :
    isHubRecord r = .ok false := by
  obtain ⟨_, htype, text, rfl, hbridge⟩ := h.type
  unfold isHubRecord typeText Dict.lookup
  rw [htype, Option.getD_some, or_text]
  dsimp only
  rw [hbridge]

theorem resolveDeviceClass_of_readable {r : DeviceRecord} (h : Readable r) :
    resolveDeviceClass (textItem r.fields "hardware") (textItem r.fields "firmware")
        (textItem r.fields "type") =
      match hardwareOf r with
      | .str text =>
        match classOfHardware text (textItem r.fields "firmware") with
        | some c => .ok c
        | none => .error (.unsupportedModel ((textItem r.fields "hardware").or (.str "?"))
            ((textItem r.fields "firmware").or (.str "?")))
      | _ => .error (.raised .other) := by
  obtain ⟨_, htype, type, rfl, hbridge⟩ := h.type
  have hnot : (Value.str type).eq (.str "bridge") = false := by
    rw [Value.eq, beq_eq_false_iff_ne]
    rintro rfl
    revert hbridge
    decide +kernel
  rw [textItem, textItem, textItem, htype, Option.getD_some, resolveDeviceClass, hnot,
    if_neg Bool.false_ne_true]
  rfl

theorem item_of_present {P : Value → Prop} {r : DeviceRecord} {key : String}
    (h : Present P r key) : ∃ v, item r.fields key = .ok v ∧ P v := by
  obtain ⟨v, hv, hP⟩ := h
  exact ⟨v, by rw [item, hv], hP⟩

theorem buildConnection_of_isKey (c : BHyveClass) (idleSec : ℕ) (mac : Value) {networkKey : Value}
    (h : IsKey networkKey) :
    ∃ connection, buildConnection c idleSec mac networkKey = .ok connection := by
  unfold buildConnection
  split_ifs with htruthy
  · obtain rfl | ⟨data, rfl⟩ := h
    · cases htruthy
    · rw [keyBytes, fromHex_hexText]
      exact ⟨_, rfl⟩
  · exact ⟨none, rfl⟩

theorem construct_of_readable {r : DeviceRecord} (h : Readable r) {c : BHyveClass} (hc : c ≠ .hub)
    (idleSec flowCountsPerGallon : ℕ) :
    ∃ d, construct c idleSec flowCountsPerGallon r = .ok d ∧ d.cls = c := by
  obtain ⟨name, hname, -⟩ := item_of_present h.name
  obtain ⟨mac, hmac, -⟩ := item_of_present h.mac
  obtain ⟨hardware, hhardware, -⟩ := item_of_present h.hardware
  obtain ⟨firmware, hfirmware, -⟩ := item_of_present h.firmware
  obtain ⟨stations, hstations, -⟩ := item_of_present h.stations
  obtain ⟨networkKey, hkey, hisKey⟩ := item_of_present h.networkKey
  obtain ⟨connection, hconnection⟩ := buildConnection_of_isKey c idleSec mac hisKey
  unfold construct
  rw [if_neg hc]
  dsimp only
  rw [hname, hmac, hhardware, hfirmware, hstations, hkey]
  simp only [bind, Except.bind, hconnection]
  exact ⟨_, rfl, rfl⟩

/-- A record which can be read comes to a coordinator, never of a hub, or is skipped as
unsupported. -/
theorem setupRecord_of_readable {r : DeviceRecord} (h : Readable r) (hr : TextHardware r)
    (t : Tuning) :
    ∃ made, setupRecord t r = .ok made ∧ (made.isSome = true ↔ Supported r) ∧
      ∀ c, made = some c → c.NoHub := by
  obtain ⟨text, htext⟩ := hr
  have hresolve := resolveDeviceClass_of_readable h
  rw [htext] at hresolve
  unfold setupRecord
  rw [isHubRecord_of_readable h]
  dsimp only at hresolve ⊢
  rw [buildDevice, hresolve]
  cases hclass : classOfHardware text (textItem r.fields "firmware") with
  | none =>
    refine ⟨none, rfl, iff_of_false (by simp) ?_, fun c hc => by cases hc⟩
    rintro ⟨text', c, htext', hclass'⟩
    obtain rfl : text = text' := Value.str.inj (htext.symm.trans htext')
    rw [hclass] at hclass'
    cases hclass'
  | some c =>
    have hne := classOfHardware_ne_hub hclass
    obtain ⟨d, hd, rfl⟩ := construct_of_readable h hne t.idleDisconnect t.flowCountsPerGallon
    have hcls : (d.applyMesh t).cls = d.cls := by
      unfold LiveDevice.applyMesh
      split_ifs <;> rfl
    simp only [bind, Except.bind, hd]
    refine ⟨_, rfl, iff_of_true rfl ⟨text, d.cls, htext, hclass⟩, ?_⟩
    intro c hc
    cases hc
    rw [LiveCoordinator.NoHub, hcls]
    exact hne

/-- Python has no `startswith` for what is no text. -/
theorem setupRecord_raises {r : DeviceRecord} (h : Readable r) (hr : ¬ TextHardware r)
    (t : Tuning) : setupRecord t r = .error .other := by
  have hresolve : resolveDeviceClass (textItem r.fields "hardware") (textItem r.fields "firmware")
      (textItem r.fields "type") = .error (.raised .other) := by
    rw [resolveDeviceClass_of_readable h]
    split
    · next text htext => exact absurd ⟨text, htext⟩ hr
    · rfl
  unfold setupRecord
  rw [isHubRecord_of_readable h]
  dsimp only
  rw [buildDevice, hresolve]
  rfl

theorem mem_keys_set {α : Type} (d : Dict α) (k k' : String) (v : α) :
    k' ∈ (d.set k v).keys ↔ k' = k ∨ k' ∈ d.keys := by
  rw [← Dict.isSome_get, Dict.get_set, ← Dict.isSome_get]
  by_cases h : k = k'
  · rw [if_pos h]
    exact iff_of_true rfl (.inl h.symm)
  · rw [if_neg h, or_iff_right (Ne.symm h)]

theorem setupLoop_of_readable (t : Tuning) {devices : List DeviceRecord}
    (h : ∀ r ∈ devices, Readable r) (htext : ∀ r ∈ devices, TextHardware r) {runtime : Runtime}
    (hruntime : ∀ item ∈ runtime, item.2.NoHub) :
    ∃ made, setupLoop t runtime devices = .ok made ∧
      (∀ cid, cid ∈ made.keys ↔
        cid ∈ runtime.keys ∨ ∃ r ∈ devices, r.cloudId = cid ∧ Supported r) ∧
      ∀ item ∈ made, item.2.NoHub := by
  induction devices generalizing runtime with
  | nil => exact ⟨runtime, rfl, fun cid => by simp, hruntime⟩
  | cons r devices ih =>
    obtain ⟨hr, hdevices⟩ := List.forall_mem_cons.mp h
    obtain ⟨hrtext, htexts⟩ := List.forall_mem_cons.mp htext
    obtain ⟨found, hfound, hsome, hcls⟩ := setupRecord_of_readable hr hrtext t
    cases found with
    | none =>
      have hnot : ¬ Supported r := fun hs => by simpa using hsome.mpr hs
      obtain ⟨made, hmade, hkeys, hclasses⟩ := ih hdevices htexts hruntime
      refine ⟨made, ?_, fun cid => ?_, hclasses⟩
      · rw [setupLoop, hfound]
        exact hmade
      · simp only [hkeys, List.mem_cons, or_and_right, exists_or, exists_eq_left]
        exact or_congr_right (or_iff_right fun hs => hnot hs.2).symm
    | some c =>
      have hset : ∀ item ∈ Dict.set runtime r.cloudId c, item.2.NoHub := by
        refine Dict.forall_mem_update hruntime fun item hitem => ?_
        obtain rfl := List.mem_singleton.mp hitem
        exact hcls c rfl
      obtain ⟨made, hmade, hkeys, hclasses⟩ := ih hdevices htexts hset
      refine ⟨made, ?_, fun cid => ?_, hclasses⟩
      · rw [setupLoop, hfound]
        exact hmade
      · have hsupported : Supported r := hsome.mp rfl
        simp only [hkeys, mem_keys_set, List.mem_cons, or_and_right, exists_or, exists_eq_left]
        constructor
        · rintro ((rfl | hold) | hrest)
          · exact .inr (.inl ⟨rfl, hsupported⟩)
          · exact .inl hold
          · exact .inr (.inr hrest)
        · rintro (hold | ⟨rfl, -⟩ | hrest)
          · exact .inl (.inr hold)
          · exact .inl (.inl rfl)
          · exact .inr hrest

theorem setupLoop_raises (t : Tuning) {devices : List DeviceRecord}
    (h : ∀ r ∈ devices, Readable r) (hnot : ∃ r ∈ devices, ¬ TextHardware r)
    (runtime : Runtime) : setupLoop t runtime devices = .error .other := by
  induction devices generalizing runtime with
  | nil =>
    obtain ⟨r, hr, -⟩ := hnot
    cases hr
  | cons r devices ih =>
    obtain ⟨hr, hdevices⟩ := List.forall_mem_cons.mp h
    by_cases htext : TextHardware r
    · have hrest : ∃ r' ∈ devices, ¬ TextHardware r' := by
        obtain ⟨r', hr', hnot⟩ := hnot
        obtain rfl | hr' := List.mem_cons.mp hr'
        · exact absurd htext hnot
        · exact ⟨r', hr', hnot⟩
      obtain ⟨found, hfound, -, -⟩ := setupRecord_of_readable hr htext t
      rw [setupLoop, hfound]
      cases found with
      | none => exact ih hdevices hrest runtime
      | some c => exact ih hdevices hrest _
    · rw [setupLoop, setupRecord_raises hr htext]
      rfl

/-- Whatever clouds have replied along a history, the set-up of the entry raises only for a
hardware version which is no text. Otherwise it makes a coordinator for every device of a
supported model and for no other, and none of them is a hub; only an entry without devices is not
set up. -/
theorem setup_after_history {email password : String} {discovered : List DeviceRecord}
    {included : List String} {s : Account} {es : List Event}
    (hcreated : Account.created email password discovered included = some s)
    (hdiscovered : ∀ r ∈ discovered, FromCloud r) (hes : ∀ e ∈ es, e.Lists FromCloud)
    (o : EntryOptions) :
    let devices := (run Account.step s es).data.devices
    (devices = [] ∧ asyncSetupEntry o devices = .ok none) ∨
    (∃ r ∈ devices, ¬ TextHardware r) ∧ asyncSetupEntry o devices = .error .other ∨
    (∀ r ∈ devices, TextHardware r) ∧ ∃ runtime, asyncSetupEntry o devices = .ok (some runtime) ∧
      (∀ cid, cid ∈ runtime.keys ↔ ∃ r ∈ devices, r.cloudId = cid ∧ Supported r) ∧
      ∀ item ∈ runtime, item.2.NoHub := by
  have hlists : ∀ e ∈ es, e.Lists Readable := by
    intro e he
    have hfrom := hes e he
    match e with
    | .refresh (.ok records) | .discovered (.ok records) =>
      exact fun r hr => readable_of_fromCloud (hfrom r hr)
    | .refresh (.error _) | .discovered (.error _) | .reconfigure | .enterPassword _ | .submit _
    | .close => trivial
  have hstart := Account.holds_of_created hcreated fun r hr =>
    readable_of_fromCloud (hdiscovered r hr)
  have hholds := Account.holds_run (fun _ _ hold hnew => Readable.merge hold hnew) hstart hlists
  dsimp only
  unfold asyncSetupEntry
  cases hdevices : (run Account.step s es).data.devices with
  | nil => exact .inl ⟨rfl, rfl⟩
  | cons r devices =>
    have hreadable : ∀ r' ∈ r :: devices, Readable r' := hdevices ▸ hholds.devices
    have hempty : ∀ item ∈ ([] : Runtime), item.2.NoHub := fun item hitem => by cases hitem
    rw [List.isEmpty_cons, if_neg Bool.false_ne_true]
    by_cases htext : ∀ r' ∈ r :: devices, TextHardware r'
    · obtain ⟨made, hmade, hkeys, hclasses⟩ :=
        setupLoop_of_readable o.tuning hreadable htext hempty
      refine .inr (.inr ⟨htext, made, ?_, fun cid => ?_, hclasses⟩)
      · rw [hmade]
        rfl
      · rw [hkeys]
        exact or_iff_right fun h => by cases h
    · push Not at htext
      rw [setupLoop_raises o.tuning hreadable htext]
      exact .inr (.inl ⟨htext, rfl⟩)

/-- What `oneMesh` says of a timer. -/
def oneMeshRecord (cloudId : String) : DeviceRecord where
  cloudId := cloudId
  fields := [("name", .str "B-Hyve"), ("mac", .none), ("type", .str "unknown"),
    ("hardware", .str "unknown"), ("firmware", .str "?"), ("stations", .int 0),
    ("mesh_id", .str "m"), ("mesh_device_id", .none), ("bridge_device_id", .none),
    ("hub_mesh_device_id", .none), ("network_key", .str "00ff"), ("battery_pct", .none),
    ("battery_mv", .none)]

theorem fromCloud_oneMeshRecord {r : DeviceRecord}
    (h : r ∈ [oneMeshRecord "a", oneMeshRecord "b"]) : FromCloud r := by
  have hrun : ∃ client', discover oneMesh "me@example.com" "secret" {} =
      .ok [("cloud_id", .str "a") :: (oneMeshRecord "a").fields,
        ("cloud_id", .str "b") :: (oneMeshRecord "b").fields] client' := ⟨_, rfl⟩
  obtain ⟨client', hrun⟩ := hrun
  simp only [List.mem_cons, List.not_mem_nil, or_false] at h
  obtain rfl | rfl := h
  · exact ⟨_, _, _, _, _, _, _, hrun, List.mem_cons_self, rfl⟩
  · exact ⟨_, _, _, _, _, _, _, hrun, List.mem_cons_of_mem _ List.mem_cons_self, rfl⟩

/-- An account of both timers, and a refresh which finds one of them. -/
theorem setup_after_history_oneMesh : ∃ s,
    Account.created "me@example.com" "secret" [oneMeshRecord "a", oneMeshRecord "b"] ["a", "b"] =
      some s ∧
    ∃ runtime, asyncSetupEntry {}
      (run Account.step s [.refresh (.ok [oneMeshRecord "a"])]).data.devices =
        .ok (some runtime) := by
  obtain ⟨s, hs, hdevices⟩ : ∃ s,
      Account.created "me@example.com" "secret" [oneMeshRecord "a", oneMeshRecord "b"] ["a", "b"] =
        some s ∧ (run Account.step s [.refresh (.ok [oneMeshRecord "a"])]).data.devices.map
          hardwareOf = [.str "unknown", .str "unknown"] :=
    ⟨_, rfl, rfl⟩
  refine ⟨s, hs, ?_⟩
  have hes : ∀ e ∈ [Event.refresh (.ok [oneMeshRecord "a"])], e.Lists FromCloud := by
    intro e he
    obtain rfl := List.mem_singleton.mp he
    intro r hr
    obtain rfl := List.mem_singleton.mp hr
    exact fromCloud_oneMeshRecord List.mem_cons_self
  obtain ⟨hnil, -⟩ | ⟨⟨r, hr, hnot⟩, -⟩ | ⟨-, runtime, hruntime, -⟩ :=
    setup_after_history hs (fun _ => fromCloud_oneMeshRecord) hes {}
  · rw [hnil] at hdevices
    cases hdevices
  · have htext := List.mem_map_of_mem (f := hardwareOf) hr
    rw [hdevices] at htext
    exact absurd ⟨"unknown", by simpa using htext⟩ hnot
  · exact ⟨runtime, hruntime⟩

end OrbitBhyve.Entry
