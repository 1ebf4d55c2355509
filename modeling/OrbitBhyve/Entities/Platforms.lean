import OrbitBhyve.Entry.InPlace
import OrbitBhyve.Entry.SetupRuns

/-!
# The entities of an entry

Each platform goes over the coordinators of the runtime and makes the entities of
their devices. The id of an entity is the one of its device and a suffix; the
registry keys what it keeps of an entity by that id.
-/

namespace OrbitBhyve.Entities

open Cloud Devices Entry Foundation Python

inductive Platform where
  | valve
  | sensor
  | binarySensor
  | number
  | button
  | select
  | switch
  deriving DecidableEq

def PLATFORMS : List Platform := [.valve, .sensor, .binarySensor, .number, .button, .select, .switch]

/-- `UI_SLOTS`, in lower case. -/
def UI_SLOTS : List String := ["a", "b", "c", "d"]

structure Entity where
  platform : Platform
  uniqueId : String
  /-- Of the identifier in its `device_info`. -/
  cloudId : String
  deriving DecidableEq

/-! ## Suffixes -/

/-- `max(device.stations, 1)`, which `range` takes. -/
def stationCount : Value → Except PyErr ℕ
  | .int n => .ok (max n 1).toNat
  | .bool _ => .ok 1
  | .float q => if q < 1 then .ok 1 else .error .typeError
  | _ => .error .typeError

def zoneSuffix (stations station : ℕ) : String :=
  if 1 < stations then "_zone_" ++ toString station else "_zone"

def zoneSuffixes (stations : ℕ) : List String :=
  (List.range stations).map fun i => zoneSuffix stations (i + 1)

def sensorSuffixes (c : BHyveClass) (linked : Bool) : List String :=
  if linked then
    ["_battery", "_battery_mv", "_rssi", "_last_successful_poll", "_consecutive_timeouts",
      "_watering_ends"] ++
    (if c.isProtobuf then
      ["_rain_delay_ends", "_next_run"] ++ UI_SLOTS.map ("_program_" ++ ·) else []) ++
    (if c.hasFlow then ["_flow_rate", "_water_used", "_flow_rate_device"] else []) ++
    if c.hasFlowGen1 then ["_flow_rate_lpm", "_water_used_l"] else []
  else []

def binarySensorSuffixes (c : BHyveClass) (linked : Bool) : List String :=
  if c = .hub then []
  else if linked then
    ["_connected", "_watering"] ++
    if c.isProtobuf then "_problem" :: if c.hasFlow then ["_leak_detected", "_no_flow"] else []
    else []
  else []

def numberSuffixes (c : BHyveClass) (linked : Bool) : List String :=
  if c = .hub then []
  else
    ["_duration"] ++ (if c.isProtobuf then ["_rain_delay"] else []) ++
    if c.hasFlowGen1 && linked then ["_flow_calibration"] else []

def buttonSuffixes (c : BHyveClass) (linked : Bool) : List String :=
  if c = .hub then []
  else if linked then
    ["_sync"] ++ (if c.hasFlow then ["_check_flow"] else []) ++
    if c.isProtobuf then ["_identify"] else []
  else []

def selectSuffixes (c : BHyveClass) (linked : Bool) : List String :=
  (if linked then ["_battery_chemistry"] else []) ++
  if c.isProtobuf then ["_rain_delay_preset"] else []

def switchSuffixes (c : BHyveClass) (linked : Bool) : List String :=
  (if c.hasFlowGen1 && linked then ["_flow_measurement"] else []) ++
  if c.isProtobuf then
    "_automatic_watering" :: UI_SLOTS.map fun letter => "_program_" ++ letter ++ "_enable"
  else []

/-- The suffixes of the ids which a platform makes of a device. -/
def suffixes (p : Platform) (d : LiveDevice) : Except PyErr (List String) :=
  let linked := d.connection.isSome
  match p with
  | .valve => if d.cls = .hub then .ok [] else (stationCount d.stations).map zoneSuffixes
  | .sensor => .ok (sensorSuffixes d.cls linked)
  | .binarySensor => .ok (binarySensorSuffixes d.cls linked)
  | .number => .ok (numberSuffixes d.cls linked)
  | .button => .ok (buttonSuffixes d.cls linked)
  | .select => .ok (selectSuffixes d.cls linked)
  | .switch => .ok (switchSuffixes d.cls linked)

/-! ## Ids -/

/-- `mac.replace(":", "").lower()`. -/
def plainMac (lower : String → String) (mac : String) : String :=
  lower (String.ofList (mac.toList.filter (· != ':')))

/-- `unique_id` of a device; what is no text has no `replace`. -/
def uniqueId (lower : String → String) : Value → Except PyErr String
  | .str mac => .ok ("orbit_bhyve_" ++ plainMac lower mac)
  | _ => .error .other

/-- The body of the loop of a platform's `async_setup_entry`. -/
def deviceEntities (lower : String → String) (p : Platform) (d : LiveDevice) :
    Except PyErr (List Entity) := do
  let found ← suffixes p d
  if found.isEmpty then return []
  let id ← uniqueId lower d.mac
  return found.map fun suffix => ⟨p, id ++ suffix, d.cloudId⟩

def collect {α β : Type} (f : α → Except PyErr (List β)) : List α → Except PyErr (List β)
  | [] => .ok []
  | x :: xs => do
    let found ← f x
    return found ++ (← collect f xs)

/-- `async_setup_entry` of a platform: what it adds. -/
def platformEntities (lower : String → String) (runtime : Runtime) (p : Platform) :
    Except PyErr (List Entity) :=
  collect (fun item => deviceEntities lower p item.2.device) runtime

def entities (lower : String → String) (runtime : Runtime) : Except PyErr (List Entity) :=
  collect (platformEntities lower runtime) PLATFORMS

theorem collect_eq_ok {α β : Type} {f : α → Except PyErr (List β)} {g : α → List β}
    {xs : List α} (h : ∀ x ∈ xs, f x = .ok (g x)) : collect f xs = .ok (xs.flatMap g) := by
  induction xs with
  | nil => rfl
  | cons x xs ih =>
    obtain ⟨hx, hxs⟩ := List.forall_mem_cons.mp h
    rw [collect, hx, ih hxs]
    rfl

/-! ## Reading an id -/

theorem append_inj_of_underscore {m m' s s' : List Char} (hm : '_' ∉ m) (hm' : '_' ∉ m')
    (h : m ++ '_' :: s = m' ++ '_' :: s') : m = m' ∧ s = s' := by
  induction m generalizing m' with
  | nil =>
    cases m' with
    | nil => exact ⟨rfl, (List.cons.inj h).2⟩
    | cons c m' => exact absurd ((List.cons.inj h).1 ▸ List.mem_cons_self) hm'
  | cons c m ih =>
    cases m' with
    | nil => exact absurd ((List.cons.inj h).1 ▸ List.mem_cons_self) hm
    | cons c' m' =>
      obtain ⟨rfl, htail⟩ := List.cons.inj h
      obtain ⟨rfl, rfl⟩ := ih (fun hc => hm (List.mem_cons_of_mem _ hc))
        (fun hc => hm' (List.mem_cons_of_mem _ hc)) htail
      exact ⟨rfl, rfl⟩

def StartsSuffix (s : String) : Prop := ∃ rest, s.toList = '_' :: rest

/-- An id is read in one way. -/
theorem id_inj {m m' s s' : String} (hm : '_' ∉ m.toList) (hm' : '_' ∉ m'.toList)
    (hs : StartsSuffix s) (hs' : StartsSuffix s')
    (h : "orbit_bhyve_" ++ m ++ s = "orbit_bhyve_" ++ m' ++ s') : m = m' ∧ s = s' := by
  obtain ⟨rest, hrest⟩ := hs
  obtain ⟨rest', hrest'⟩ := hs'
  have hlists := congrArg String.toList h
  simp only [String.toList_append, List.append_assoc, List.append_cancel_left_eq, hrest,
    hrest'] at hlists
  obtain ⟨hmac, htail⟩ := append_inj_of_underscore hm hm' hlists
  exact ⟨String.toList_inj.mp hmac, String.toList_inj.mp (by rw [hrest, hrest', htail])⟩

/-! ## The suffixes of a device -/

def otherSuffixes (p : Platform) (c : BHyveClass) (linked : Bool) : List String :=
  match p with
  | .valve => []
  | .sensor => sensorSuffixes c linked
  | .binarySensor => binarySensorSuffixes c linked
  | .number => numberSuffixes c linked
  | .button => buttonSuffixes c linked
  | .select => selectSuffixes c linked
  | .switch => switchSuffixes c linked

theorem otherSuffixes_nodup (c : BHyveClass) (linked : Bool) :
    (PLATFORMS.flatMap fun p => otherSuffixes p c linked).Nodup := by
  cases c <;> cases linked <;> decide +kernel

theorem otherSuffixes_start (c : BHyveClass) (linked : Bool) :
    ∀ s ∈ PLATFORMS.flatMap fun p => otherSuffixes p c linked,
      s.toList.head? = some '_' ∧ s.toList.take 5 ≠ "_zone".toList := by
  cases c <;> cases linked <;> decide +kernel

theorem toString_inj {k k' : ℕ} (h : toString k = toString k') : k = k' := by
  have hread : ∀ n, ofNumerals 10 ((Nat.toDigits 10 n).map id) = some n :=
    ofNumerals_toDigits (by decide) (by decide)
  have hlists : Nat.toDigits 10 k = Nat.toDigits 10 k' := String.ofList_injective h
  have hk := hread k
  rw [hlists, hread k'] at hk
  exact (Option.some.inj hk).symm

theorem zoneSuffixes_nodup (n : ℕ) : (zoneSuffixes n).Nodup := by
  refine List.Nodup.map_on (fun i hi j hj h => ?_) List.nodup_range
  rw [List.mem_range] at hi hj
  unfold zoneSuffix at h
  split_ifs at h with hmany
  · have hnumber := toString_inj (by simpa using h : toString (i + 1) = toString (j + 1))
    omega
  · omega

theorem take_zoneSuffix (n station : ℕ) : (zoneSuffix n station).toList.take 5 = "_zone".toList := by
  unfold zoneSuffix
  split_ifs
  · rw [String.toList_append]
    rfl
  · rfl

def deviceSuffixes (p : Platform) (d : LiveDevice) : List String :=
  match p with
  | .valve =>
    match stationCount d.stations with
    | .ok n => zoneSuffixes n
    | .error _ => []
  | p => otherSuffixes p d.cls d.connection.isSome

theorem deviceSuffixes_nodup (d : LiveDevice) :
    (PLATFORMS.flatMap fun p => deviceSuffixes p d).Nodup := by
  have hothers := otherSuffixes_nodup d.cls d.connection.isSome
  have hstart := otherSuffixes_start d.cls d.connection.isSome
  change (deviceSuffixes .valve d ++
    PLATFORMS.flatMap fun p => otherSuffixes p d.cls d.connection.isSome).Nodup
  unfold deviceSuffixes
  cases stationCount d.stations with
  | error e => exact hothers
  | ok n =>
    refine List.Nodup.append (zoneSuffixes_nodup n) hothers fun s hzone hother => ?_
    obtain ⟨i, -, rfl⟩ := List.mem_map.mp hzone
    exact (hstart _ hother).2 (take_zoneSuffix n (i + 1))

theorem startsSuffix_of_mem {p : Platform} {d : LiveDevice} {s : String}
    (h : s ∈ deviceSuffixes p d) : StartsSuffix s := by
  have hother : s ∈ otherSuffixes p d.cls d.connection.isSome → StartsSuffix s := by
    intro hs
    have hp : p ∈ PLATFORMS := by cases p <;> decide
    obtain ⟨hhead, -⟩ := otherSuffixes_start d.cls d.connection.isSome s
      (List.mem_flatMap.mpr ⟨p, hp, hs⟩)
    exact List.head?_eq_some_iff.mp hhead
  cases p with
  | valve =>
    unfold deviceSuffixes at h
    cases hcount : stationCount d.stations with
    | error e =>
      rw [hcount] at h
      cases h
    | ok n =>
      rw [hcount] at h
      obtain ⟨i, -, rfl⟩ := List.mem_map.mp h
      unfold zoneSuffix
      split_ifs
      · exact ⟨_, by rw [String.toList_append]; rfl⟩
      · exact ⟨_, rfl⟩
  | _ => exact hother h

/-! ## The entities of a runtime -/

section Runtime

variable (lower : String → String)

def deviceMac (d : LiveDevice) : String :=
  match d.mac with
  | .str mac => plainMac lower mac
  | _ => ""

/-- A device with an address, and stations which can be counted. -/
structure Identified (d : LiveDevice) : Prop where
  mac : ∃ mac, d.mac = .str mac ∧ '_' ∉ (plainMac lower mac).toList
  stations : ∃ n, d.stations = .int n

variable {lower}

def entityId (lower : String → String) (d : LiveDevice) (suffix : String) : String :=
  "orbit_bhyve_" ++ deviceMac lower d ++ suffix

theorem deviceEntities_eq {d : LiveDevice} (h : Identified lower d) (hhub : d.cls ≠ .hub)
    (p : Platform) : deviceEntities lower p d =
      .ok ((deviceSuffixes p d).map fun suffix => ⟨p, entityId lower d suffix, d.cloudId⟩) := by
  obtain ⟨mac, hmac, -⟩ := h.mac
  obtain ⟨n, hn⟩ := h.stations
  have hfound : suffixes p d = .ok (deviceSuffixes p d) := by
    cases p with
    | valve =>
      simp only [suffixes, if_neg hhub, deviceSuffixes, hn, stationCount]
      rfl
    | _ => rfl
  have hid : uniqueId lower d.mac = .ok ("orbit_bhyve_" ++ deviceMac lower d) := by
    rw [hmac, uniqueId, deviceMac, hmac]
  unfold deviceEntities
  rw [hfound, hid]
  cases deviceSuffixes p d with
  | nil => rfl
  | cons s rest => rfl

def added (lower : String → String) (runtime : Runtime) : List Entity :=
  PLATFORMS.flatMap fun p => runtime.flatMap fun item =>
    (deviceSuffixes p item.2.device).map fun suffix =>
      ⟨p, entityId lower item.2.device suffix, item.2.device.cloudId⟩

theorem entities_eq {runtime : Runtime} (h : ∀ item ∈ runtime, Identified lower item.2.device)
    (hhub : ∀ item ∈ runtime, item.2.NoHub) : entities lower runtime = .ok (added lower runtime) :=
  collect_eq_ok fun p _ => collect_eq_ok fun item hitem =>
    deviceEntities_eq (h item hitem) (hhub item hitem) p

theorem ids_added (lower : String → String) (runtime : Runtime) :
    (added lower runtime).map Entity.uniqueId =
      PLATFORMS.flatMap fun p => runtime.flatMap fun item =>
        (deviceSuffixes p item.2.device).map (entityId lower item.2.device) := by
  simp only [added, List.map_flatMap, List.map_map]
  rfl

theorem Identified.notMem {d : LiveDevice} (h : Identified lower d) :
    '_' ∉ (deviceMac lower d).toList := by
  obtain ⟨mac, hmac, hmem⟩ := h.mac
  rwa [deviceMac, hmac]

theorem entityId_inj {d d' : LiveDevice} {s s' : String} {p p' : Platform} (h : Identified lower d)
    (h' : Identified lower d') (hs : s ∈ deviceSuffixes p d) (hs' : s' ∈ deviceSuffixes p' d')
    (heq : entityId lower d s = entityId lower d' s') :
    deviceMac lower d = deviceMac lower d' ∧ s = s' :=
  id_inj h.notMem h'.notMem (startsSuffix_of_mem hs) (startsSuffix_of_mem hs') heq

/-- Two devices have no id in common unless they have their address in common. -/
theorem disjoint_of_mac_ne {item item' : String × LiveCoordinator}
    (h : Identified lower item.2.device) (h' : Identified lower item'.2.device)
    (hne : deviceMac lower item.2.device ≠ deviceMac lower item'.2.device) (p : Platform) :
    List.Disjoint ((deviceSuffixes p item.2.device).map (entityId lower item.2.device))
      ((deviceSuffixes p item'.2.device).map (entityId lower item'.2.device)) := by
  intro id hid hid'
  obtain ⟨s, hs, rfl⟩ := List.mem_map.mp hid
  obtain ⟨s', hs', heq⟩ := List.mem_map.mp hid'
  exact hne (entityId_inj h' h hs' hs heq).1.symm

theorem nodup_ids_of_nodup_macs {runtime : Runtime}
    (h : ∀ item ∈ runtime, Identified lower item.2.device)
    (hmacs : (runtime.map fun item => deviceMac lower item.2.device).Nodup) :
    (PLATFORMS.flatMap fun p => runtime.flatMap fun item =>
      (deviceSuffixes p item.2.device).map (entityId lower item.2.device)).Nodup := by
  have hpairs := List.pairwise_map.mp hmacs
  rw [List.nodup_flatMap]
  refine ⟨fun p hp => List.nodup_flatMap.mpr ⟨fun item hitem => ?_, ?_⟩, ?_⟩
  · have hsuffixes := (List.nodup_flatMap.mp (deviceSuffixes_nodup item.2.device)).1 p hp
    exact hsuffixes.map_on fun s hs s' hs' heq =>
      (entityId_inj (h item hitem) (h item hitem) hs hs' heq).2
  · exact hpairs.imp_of_mem fun hi hj hne => disjoint_of_mac_ne (h _ hi) (h _ hj) hne p
  · have hplatforms : PLATFORMS.Nodup := by decide
    refine hplatforms.pairwise_of_forall_ne fun p hp p' hp' hne id hid hid' => ?_
    obtain ⟨item, hitem, hmem⟩ := List.mem_flatMap.mp hid
    obtain ⟨item', hitem', hmem'⟩ := List.mem_flatMap.mp hid'
    obtain ⟨s, hs, rfl⟩ := List.mem_map.mp hmem
    obtain ⟨s', hs', heq⟩ := List.mem_map.mp hmem'
    obtain ⟨hmac, rfl⟩ := entityId_inj (h item' hitem') (h item hitem) hs' hs heq
    obtain rfl := List.inj_on_of_nodup_map hmacs hitem' hitem hmac
    have hdisjoint := (List.nodup_flatMap.mp (deviceSuffixes_nodup item'.2.device)).2
    have : Std.Symm (Function.onFun List.Disjoint fun p => deviceSuffixes p item'.2.device) :=
      ⟨fun _ _ hd => hd.symm⟩
    exact hdisjoint.forall hp hp' hne hs hs'

theorem nodup_macs_of_nodup_ids {runtime : Runtime}
    (hhub : ∀ item ∈ runtime, item.2.NoHub)
    (hids : (PLATFORMS.flatMap fun p => runtime.flatMap fun item =>
      (deviceSuffixes p item.2.device).map (entityId lower item.2.device)).Nodup) :
    (runtime.map fun item => deviceMac lower item.2.device).Nodup := by
  -- every device has a duration entity
  have hduration : ∀ item ∈ runtime, "_duration" ∈ deviceSuffixes .number item.2.device := by
    intro item hitem
    change "_duration" ∈ numberSuffixes _ _
    rw [numberSuffixes, if_neg (hhub item hitem)]
    simp
  have hnumbers := (List.nodup_flatMap.mp ((List.nodup_flatMap.mp hids).1 .number (by decide))).2
  refine List.pairwise_map.mpr (hnumbers.imp_of_mem fun hi hj hdisjoint heq => ?_)
  refine hdisjoint (List.mem_map_of_mem (hduration _ hi)) (List.mem_map.mpr ⟨_, hduration _ hj, ?_⟩)
  rw [entityId, entityId, heq]

end Runtime

/-! ## After a set-up -/

theorem eq_str {v : Value} {text : String} (h : v.eq (.str text) = true) : v = .str text := by
  cases v with
  | str found => rw [eq_of_beq (by simpa [Value.eq] using h : (found == text) = true)]
  | none => simp [Value.eq] at h
  | bool b => simp [Value.eq, Value.number?] at h
  | int n => simp [Value.eq, Value.number?] at h
  | float q => simp [Value.eq, Value.number?] at h
  | list xs => simp [Value.eq] at h
  | dict items => simp [Value.eq] at h

theorem isHubRecord_of_hub {r : DeviceRecord} {hardware firmware : Value}
    (h : resolveDeviceClass hardware firmware (textItem r.fields "type") = .ok .hub) :
    isHubRecord r = .ok true := by
  unfold resolveDeviceClass at h
  split_ifs at h with hbridge
  · have htype : Dict.get r.fields "type" = some (.str "bridge") := by
      have hitem := eq_str hbridge
      unfold textItem at hitem
      cases hget : Dict.get r.fields "type" with
      | none =>
        rw [hget] at hitem
        exact absurd (Value.str.inj hitem) (by decide)
      | some v =>
        rw [hget] at hitem
        exact congrArg some hitem
    have htext : typeText r.fields = .ok "bridge" := by
      rw [typeText, Dict.lookup, htype]
      rfl
    rw [isHubRecord, htext]
    rfl
  · split at h
    · split at h
      · next hclass =>
        cases h
        exact absurd rfl (classOfHardware_ne_hub hclass)
      · cases h
    · cases h

theorem noHub_of_setupRecord {t : Tuning} {r : DeviceRecord} {c : LiveCoordinator}
    (h : setupRecord t r = .ok (some c)) : c.NoHub := by
  unfold setupRecord at h
  split at h
  · cases h
  · cases h
  next hhub =>
    split at h
    · next d hbuild =>
      cases h
      obtain ⟨cls, hcls, hconstruct⟩ := except_bind_eq_ok hbuild
      have hsame : (d.applyMesh t).cls = cls := by
        obtain ⟨_, -, hrest⟩ := except_bind_eq_ok hconstruct
        obtain ⟨_, -, hrest⟩ := except_bind_eq_ok hrest
        obtain ⟨_, -, hrest⟩ := except_bind_eq_ok hrest
        obtain ⟨_, -, hrest⟩ := except_bind_eq_ok hrest
        obtain ⟨_, -, hrest⟩ := except_bind_eq_ok hrest
        obtain ⟨_, -, hrest⟩ := except_bind_eq_ok hrest
        obtain ⟨_, -, hrest⟩ := except_bind_eq_ok hrest
        cases hrest
        unfold LiveDevice.applyMesh
        split_ifs <;> rfl
      rw [LiveCoordinator.NoHub, hsame]
      rintro rfl
      rw [isHubRecord_of_hub hcls] at hhub
      cases hhub
    · cases h
    · cases h

/-- The platforms of an entry whose devices have addresses are all set up, and no two of the
entities have one id exactly when no two of the devices have one address. -/
theorem entity_ids_nodup_iff {lower : String → String} {o : EntryOptions}
    {devices : List DeviceRecord} {runtime : Runtime}
    (hsetup : asyncSetupEntry o devices = .ok (some runtime))
    (h : ∀ item ∈ runtime, Identified lower item.2.device) :
    ∃ found, entities lower runtime = .ok found ∧
      ((found.map Entity.uniqueId).Nodup ↔
        (runtime.map fun item => deviceMac lower item.2.device).Nodup) := by
  have hhub := forall_of_asyncSetupEntry (fun _ _ => noHub_of_setupRecord) hsetup
  refine ⟨_, entities_eq h hhub, ?_⟩
  rw [ids_added]
  exact ⟨nodup_macs_of_nodup_ids hhub, nodup_ids_of_nodup_macs h⟩

/-! ## After a restart -/

def shape (c : LiveCoordinator) : BHyveClass × String × Value × Value × Bool :=
  (c.device.cls, c.device.cloudId, c.device.mac, c.device.stations, c.device.connection.isSome)

theorem shape_retune (t : Tuning) (c : LiveCoordinator) : shape (c.retune t) = shape c := by
  unfold shape LiveCoordinator.retune LiveDevice.applyMesh
  dsimp only
  split_ifs <;> simp only [Option.isSome_map]

theorem shape_act (a : Activity) (c : LiveCoordinator) : shape (c.act a) = shape c := by
  cases a <;> rfl

theorem deviceEntities_of_shape (lower : String → String) (p : Platform) {c c' : LiveCoordinator}
    (h : shape c = shape c') :
    deviceEntities lower p c.device = deviceEntities lower p c'.device := by
  simp only [shape, Prod.mk.injEq] at h
  obtain ⟨hcls, hcloudId, hmac, hstations, hlinked⟩ := h
  have hsuffixes : suffixes p c.device = suffixes p c'.device := by
    unfold suffixes
    rw [hcls, hstations, hlinked]
  unfold deviceEntities
  rw [hsuffixes, hmac, hcloudId]

theorem collect_of_map {α β γ : Type} {f : α → Except PyErr (List β)} {q : α → γ}
    (hf : ∀ x y, q x = q y → f x = f y) {xs ys : List α} (h : xs.map q = ys.map q) :
    collect f xs = collect f ys := by
  induction xs generalizing ys with
  | nil =>
    obtain rfl := List.map_eq_nil_iff.mp h.symm
    rfl
  | cons x xs ih =>
    cases ys with
    | nil => cases h
    | cons y ys =>
      obtain ⟨hxy, htail⟩ := List.cons.inj h
      rw [collect, collect, hf x y hxy, ih htail]

theorem entities_of_shapes (lower : String → String) {runtime runtime' : Runtime}
    (h : runtime.map (fun item => shape item.2) = runtime'.map fun item => shape item.2) :
    entities lower runtime = entities lower runtime' := by
  unfold entities platformEntities
  exact congrArg (collect · PLATFORMS) (funext fun p =>
    collect_of_map (fun _ _ => deviceEntities_of_shape lower p) h)

theorem shapes_updateListener (o : EntryOptions) (runtime : Runtime) :
    (asyncUpdateListener o runtime).map (fun item => shape item.2) =
      runtime.map fun item => shape item.2 := by
  unfold asyncUpdateListener Dict.mapValues
  rw [List.map_map]
  exact List.map_congr_left fun item _ => shape_retune o.tuning item.2

theorem shapes_run (runtime : Runtime) (es : List LifeEvent) :
    (run lifeStep runtime es).map (fun item => shape item.2) =
      runtime.map fun item => shape item.2 := by
  induction es generalizing runtime with
  | nil => rfl
  | cons e es ih =>
    rw [run_cons, ih]
    cases e with
    | options o => exact shapes_updateListener o runtime
    | active cloudId a =>
      unfold lifeStep
      rw [List.map_map]
      refine List.map_congr_left fun item _ => ?_
      dsimp only [Function.comp_apply]
      split_ifs
      · exact shape_act a item.2
      · rfl

/-- Whatever devices do and however options change, a restart under any options makes the entities
which there were, each under its id: what the registry keeps of an entity is found again. -/
theorem entities_of_restart (lower : String → String) {o : EntryOptions}
    {devices : List DeviceRecord} {runtime : Runtime}
    (hsetup : asyncSetupEntry o devices = .ok (some runtime)) (es : List LifeEvent)
    (o' : EntryOptions) :
    ∃ restarted, asyncSetupEntry o' devices = .ok (some restarted) ∧
      entities lower restarted = entities lower (run lifeStep runtime es) := by
  refine ⟨asyncUpdateListener o' runtime, ?_, entities_of_shapes lower ?_⟩
  · rw [asyncSetupEntry_retune o o', hsetup]
    rfl
  · rw [shapes_updateListener, shapes_run]

/-! ### Two timers -/

def asciiLower (text : String) : String := String.ofList (text.toList.map Char.toLower)

def keyedRecord (cloudId mac hardware : String) (stations : ℤ) : DeviceRecord where
  cloudId := cloudId
  fields := [("name", .str "Timer"), ("mac", .str mac), ("type", .str "sprinkler_timer"),
    ("hardware", .str hardware), ("firmware", .str "0041"), ("stations", .int stations),
    ("network_key", .str "00ff")]

def twoTimers : List DeviceRecord :=
  [keyedRecord "a" "AA:BB:CC:00:00:01" "HT25-0000" 1,
    keyedRecord "b" "AA:BB:CC:00:00:02" "HT34A-0001" 4]

theorem identified_twoTimers {runtime : Runtime}
    (hsetup : asyncSetupEntry {} twoTimers = .ok (some runtime)) :
    ∀ item ∈ runtime, Identified asciiLower item.2.device := by
  have hfields : runtime.map (fun item => (item.2.device.mac, item.2.device.stations)) =
      [(.str "AA:BB:CC:00:00:01", .int 1), (.str "AA:BB:CC:00:00:02", .int 4)] := by
    cases hsetup
    rfl
  intro item hitem
  have hmem : (item.2.device.mac, item.2.device.stations) ∈ runtime.map fun item =>
      (item.2.device.mac, item.2.device.stations) := List.mem_map.mpr ⟨item, hitem, rfl⟩
  rw [hfields] at hmem
  simp only [List.mem_cons, List.not_mem_nil, or_false, Prod.mk.injEq] at hmem
  obtain ⟨hmac, hstations⟩ | ⟨hmac, hstations⟩ := hmem
  · exact ⟨⟨_, hmac, by decide +kernel⟩, 1, hstations⟩
  · exact ⟨⟨_, hmac, by decide +kernel⟩, 4, hstations⟩

theorem entity_ids_nodup_iff_twoTimers :
    ∃ runtime found, asyncSetupEntry {} twoTimers = .ok (some runtime) ∧
      entities asciiLower runtime = .ok found ∧ (found.map Entity.uniqueId).Nodup := by
  obtain ⟨runtime, hsetup, hmacs⟩ : ∃ runtime, asyncSetupEntry {} twoTimers = .ok (some runtime) ∧
      (runtime.map fun item => deviceMac asciiLower item.2.device) =
        ["aabbcc000001", "aabbcc000002"] :=
    ⟨_, rfl, by decide +kernel⟩
  obtain ⟨found, hfound, hnodup⟩ := entity_ids_nodup_iff hsetup (identified_twoTimers hsetup)
  refine ⟨runtime, found, hsetup, hfound, hnodup.mpr ?_⟩
  rw [hmacs]
  decide

/-- An option is changed, and Home Assistant restarted under the old ones. -/
theorem entities_of_restart_twoTimers :
    ∃ runtime restarted, asyncSetupEntry {} twoTimers = .ok (some runtime) ∧
      asyncSetupEntry {} twoTimers = .ok (some restarted) ∧
      entities asciiLower restarted = entities asciiLower
        (run lifeStep runtime [.options { pollIdle := some 60, idleDisconnect := some 0 }]) := by
  obtain ⟨runtime, hsetup⟩ : ∃ runtime, asyncSetupEntry {} twoTimers = .ok (some runtime) :=
    ⟨_, rfl⟩
  obtain ⟨restarted, hrestarted, hsame⟩ := entities_of_restart asciiLower hsetup
    [.options { pollIdle := some 60, idleDisconnect := some 0 }] {}
  exact ⟨runtime, restarted, hsetup, hrestarted, hsame⟩

end OrbitBhyve.Entities
