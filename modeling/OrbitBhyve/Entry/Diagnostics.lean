import OrbitBhyve.Entry.Flows

/-!
# Diagnostics of an entry

Redaction goes by the name of a key, at any depth. The flow puts the email under
two more names, the title of the entry and, in lower case, its unique id, and
`as_dict` has both.
-/

namespace OrbitBhyve.Entry

open Python

def REDACTED : String := "**REDACTED**"

def TO_REDACT : List String := ["email", "password", "network_key"]

/-- `v in (None, "")`. -/
def isEmptyText : Value → Bool
  | .none => true
  | .str s => s == ""
  | _ => false

mutual

def redact : Value → Value
  | .dict items => .dict (redactItems items)
  | .list xs => .list (redactList xs)
  | v => v

def redactItems : List (String × Value) → List (String × Value)
  | [] => []
  | (k, v) :: items =>
    (k, if TO_REDACT.contains k && !isEmptyText v then .str REDACTED else redact v) ::
      redactItems items

def redactList : List Value → List Value
  | [] => []
  | v :: vs => redact v :: redactList vs

end

/-! ## Entries -/

def DeviceRecord.toValue (r : DeviceRecord) : Value :=
  .dict (("cloud_id", .str r.cloudId) :: r.fields)

def EntryData.toDict (d : EntryData) : Dict Value :=
  [("email", .str d.email), ("password", .str d.password),
    ("devices", .list (d.devices.map DeviceRecord.toValue))] ++
  match d.known with
  | none => []
  | some ids => [("known_cloud_ids", .list (ids.map .str))]

/-- A config entry; `other` is what Home Assistant keeps beside these four. -/
structure ConfigEntry where
  title : String
  uniqueId : String
  data : EntryData
  options : Dict Value
  other : Dict Value

/-- `entry.as_dict()`. -/
def ConfigEntry.asDict (e : ConfigEntry) : Dict Value :=
  e.other ++ [("data", .dict e.data.toDict), ("options", .dict e.options),
    ("title", .str e.title), ("unique_id", .str e.uniqueId)]

/-- The options `async_step_pick_devices` sets. -/
def initialOptions : Dict Value :=
  [("default_duration_sec", .int 600), ("idle_disconnect_sec", .int 60),
    ("poll_idle_sec", .int 900), ("poll_watering_sec", .int 30),
    ("flow_counts_per_gallon", .int 433), ("mesh_status_poll", .bool false)]

/-- The entry of the config flow: `lower` is `str.lower`. -/
def createEntry (lower : String → String) (email password : String)
    (discovered : List DeviceRecord) (included : List String) (other : Dict Value) :
    Option ConfigEntry :=
  (pickDevices email password discovered included).map fun data => {
    title := if email == "" then "B-Hyve" else email
    uniqueId := lower email
    data := data
    options := initialOptions
    other := other }

/-- `async_get_config_entry_diagnostics`; a device snapshot is made of its coordinator alone. -/
def entryDiagnostics {Coordinator : Type*} (deviceSnapshot : Coordinator → Value)
    (runtime : Option (List Coordinator)) (e : ConfigEntry) : Value :=
  .dict [("entry", redact (.dict e.asDict)),
    ("devices", .list ((runtime.getD []).map deviceSnapshot))]

/-! ## What redaction hides -/

section Redact

variable {k : String} {v : Value} {items items' : List (String × Value)}

theorem redactItems_cons_of_not_mem (h : TO_REDACT.contains k = false) :
    redactItems ((k, v) :: items) = (k, redact v) :: redactItems items := by
  rw [redactItems, h]
  rfl

theorem redactItems_cons_of_mem (h : TO_REDACT.contains k = true) :
    redactItems ((k, v) :: items) =
      (k, if isEmptyText v then redact v else .str REDACTED) :: redactItems items := by
  rw [redactItems, h, Bool.true_and]
  cases isEmptyText v <;> rfl

theorem redactItems_append (a b : List (String × Value)) :
    redactItems (a ++ b) = redactItems a ++ redactItems b := by
  induction a with
  | nil => rfl
  | cons item a ih => rw [List.cons_append, redactItems, redactItems, ih, List.cons_append]

theorem redactList_map {α : Type*} (f : α → Value) (xs : List α) :
    redactList (xs.map f) = xs.map fun x => redact (f x) := by
  induction xs with
  | nil => rfl
  | cons x xs ih => rw [List.map_cons, redactList, ih, List.map_cons]

/-- Items of one key, with one value or with two which are both redacted. -/
def RedactedAlike (item item' : String × Value) : Prop :=
  item.1 = item'.1 ∧ (item.2 = item'.2 ∨ TO_REDACT.contains item.1 = true ∧
    isEmptyText item.2 = false ∧ isEmptyText item'.2 = false)

theorem redactItems_congr (h : List.Forall₂ RedactedAlike items items') :
    redactItems items = redactItems items' := by
  induction h with
  | nil => rfl
  | @cons item item' items items' hitem hitems ih =>
    obtain ⟨k, v⟩ := item
    obtain ⟨k', v'⟩ := item'
    obtain ⟨hk, hv⟩ := hitem
    dsimp only at hk hv
    subst hk
    obtain rfl | ⟨hmem, hempty, hempty'⟩ := hv
    · rw [redactItems, redactItems, ih]
    · rw [redactItems_cons_of_mem hmem, redactItems_cons_of_mem hmem, hempty, hempty', ih]
      rfl

end Redact

/-! ## Entries which differ in their secrets -/

/-- Items which are equal, or network keys neither of which is empty. -/
def SameButKey (item item' : String × Value) : Prop :=
  item.1 = item'.1 ∧ (item.2 = item'.2 ∨ item.1 = "network_key" ∧
    isEmptyText item.2 = false ∧ isEmptyText item'.2 = false)

/-- Records which differ in the network key alone. -/
def RecordsAgree (r r' : DeviceRecord) : Prop :=
  r.cloudId = r'.cloudId ∧ List.Forall₂ SameButKey r.fields r'.fields

section Agree

variable {r r' : DeviceRecord} {rs rs' : List DeviceRecord}

theorem SameButKey.redactedAlike {item item' : String × Value} (h : SameButKey item item') :
    RedactedAlike item item' := by
  refine ⟨h.1, h.2.imp_right fun ⟨hkey, hempty⟩ => ⟨?_, hempty⟩⟩
  rw [hkey]
  decide

theorem RecordsAgree.redact_eq (h : RecordsAgree r r') :
    redact r.toValue = redact r'.toValue := by
  have hitems : List.Forall₂ RedactedAlike (("cloud_id", Value.str r.cloudId) :: r.fields)
      (("cloud_id", .str r'.cloudId) :: r'.fields) :=
    .cons ⟨rfl, .inl (congrArg Value.str h.1)⟩ (h.2.imp fun _ _ => SameButKey.redactedAlike)
  rw [DeviceRecord.toValue, DeviceRecord.toValue, redact, redact, redactItems_congr hitems]

theorem redact_devices_eq (h : List.Forall₂ RecordsAgree rs rs') :
    redactList (rs.map DeviceRecord.toValue) = redactList (rs'.map DeviceRecord.toValue) := by
  rw [redactList_map, redactList_map]
  induction h with
  | nil => rfl
  | cons hr _ ih => rw [List.map_cons, List.map_cons, hr.redact_eq, ih]

theorem cloudIds_eq (h : List.Forall₂ RecordsAgree rs rs') : cloudIds rs = cloudIds rs' := by
  induction h with
  | nil => rfl
  | cons hr _ ih => exact congrArg₂ List.cons hr.1 ih

theorem forall₂_filter (included : List String) (h : List.Forall₂ RecordsAgree rs rs') :
    List.Forall₂ RecordsAgree (rs.filter fun r => included.contains r.cloudId)
      (rs'.filter fun r => included.contains r.cloudId) := by
  induction h with
  | nil => exact .nil
  | cons hr _ ih =>
    rw [List.filter_cons, List.filter_cons, hr.1]
    split_ifs
    · exact .cons hr ih
    · exact ih

end Agree

/-- What the dump shows of a credential. -/
def shownText (s : String) : Value := if s == "" then .str s else .str REDACTED

theorem shownText_eq_iff {s s' : String} : shownText s = shownText s' ↔ (s = "" ↔ s' = "") := by
  unfold shownText
  by_cases hs : s = "" <;> by_cases hs' : s' = "" <;> simp [hs, hs', REDACTED]

theorem redact_toDict {d : EntryData} {ids : List String} (h : d.known = some ids) :
    redactItems d.toDict =
      [("email", shownText d.email), ("password", shownText d.password),
        ("devices", .list (redactList (d.devices.map DeviceRecord.toValue))),
        ("known_cloud_ids", .list (redactList (ids.map .str)))] := by
  unfold EntryData.toDict
  rw [h, List.cons_append, List.cons_append, List.cons_append, List.nil_append,
    redactItems_cons_of_mem (by decide), redactItems_cons_of_mem (by decide),
    redactItems_cons_of_not_mem (by decide), redactItems_cons_of_not_mem (by decide)]
  rfl

theorem redact_asDict (e : ConfigEntry) :
    redactItems e.asDict = redactItems e.other ++
      [("data", .dict (redactItems e.data.toDict)), ("options", .dict (redactItems e.options)),
        ("title", .str e.title), ("unique_id", .str e.uniqueId)] := by
  unfold ConfigEntry.asDict
  rw [redactItems_append, redactItems_cons_of_not_mem (by decide),
    redactItems_cons_of_not_mem (by decide), redactItems_cons_of_not_mem (by decide),
    redactItems_cons_of_not_mem (by decide)]
  rfl

section Dump

variable {Coordinator : Type*} {deviceSnapshot : Coordinator → Value}
  {runtime : Option (List Coordinator)} {e e' : ConfigEntry}

/-- Two dumps of one runtime are equal exactly when what is shown of the entries is. -/
theorem entryDiagnostics_eq_iff (hother : e.other = e'.other) (hoptions : e.options = e'.options) :
    entryDiagnostics deviceSnapshot runtime e = entryDiagnostics deviceSnapshot runtime e' ↔
      redactItems e.data.toDict = redactItems e'.data.toDict ∧ e.title = e'.title ∧
        e.uniqueId = e'.uniqueId := by
  unfold entryDiagnostics
  rw [redact, redact, redact_asDict, redact_asDict, hother, hoptions]
  simp

/-- For entries of the config flow which differ in the email, the password and the network keys
of their devices, the diagnostics are the same exactly when the emails are, and neither or both
passwords are empty. -/
theorem diagnostics_same_iff {lower : String → String} {email email' password password' : String}
    {discovered discovered' : List DeviceRecord} {included : List String} {other : Dict Value}
    (hrecords : List.Forall₂ RecordsAgree discovered discovered')
    (h : createEntry lower email password discovered included other = some e)
    (h' : createEntry lower email' password' discovered' included other = some e') :
    entryDiagnostics deviceSnapshot runtime e = entryDiagnostics deviceSnapshot runtime e' ↔
      email = email' ∧ (password = "" ↔ password' = "") := by
  obtain ⟨d, hd, rfl⟩ := Option.map_eq_some_iff.mp h
  obtain ⟨d', hd', rfl⟩ := Option.map_eq_some_iff.mp h'
  obtain rfl := pickDevices_some hd
  obtain rfl := pickDevices_some hd'
  refine (entryDiagnostics_eq_iff (by rfl) (by rfl)).trans ?_
  dsimp only
  rw [redact_toDict rfl, redact_toDict rfl, redact_devices_eq (forall₂_filter included hrecords),
    cloudIds_eq hrecords]
  simp only [List.cons.injEq, Prod.mk.injEq, true_and, and_true, shownText_eq_iff]
  constructor
  · rintro ⟨⟨hemail, hpassword⟩, htitle, -⟩
    refine ⟨?_, hpassword⟩
    by_cases hempty : email = ""
    · rw [hempty, hemail.mp hempty]
    · have hempty' : email' ≠ "" := fun h => hempty (hemail.mpr h)
      simpa [hempty, hempty'] using htitle
  · rintro ⟨rfl, hpassword⟩
    exact ⟨⟨Iff.rfl, hpassword⟩, rfl, rfl⟩

end Dump

/-! ### Two accounts -/

def keyed (key : String) : DeviceRecord := ⟨"a1", [("mac", .str "AA"), ("network_key", .str key)]⟩

/-- One account before and after its password and the key of its device have been changed. -/
theorem diagnostics_same_rotated :
    ∃ e e', createEntry id "me@example.com" "secret" [keyed "00ff"] ["a1"] [] = some e ∧
      createEntry id "me@example.com" "changed" [keyed "ff00"] ["a1"] [] = some e' ∧
      (entryDiagnostics id none e = entryDiagnostics id none e' ↔
        "me@example.com" = "me@example.com" ∧ ("secret" = "" ↔ "changed" = "")) := by
  obtain ⟨e, he⟩ : ∃ e, createEntry id "me@example.com" "secret" [keyed "00ff"] ["a1"] [] = some e :=
    ⟨_, rfl⟩
  obtain ⟨e', he'⟩ : ∃ e', createEntry id "me@example.com" "changed" [keyed "ff00"] ["a1"] [] =
    some e' := ⟨_, rfl⟩
  have hrecord : RecordsAgree (keyed "00ff") (keyed "ff00") :=
    ⟨rfl, .cons ⟨rfl, .inl rfl⟩ (.cons ⟨rfl, .inr ⟨rfl, by decide, by decide⟩⟩ .nil)⟩
  exact ⟨e, e', he, he', diagnostics_same_iff (.cons hrecord .nil) he he'⟩

/-- Two accounts whose dumps tell them apart by their titles. -/
theorem title_leaks_email :
    ∃ e e', createEntry id "me@example.com" "secret" [keyed "00ff"] ["a1"] [] = some e ∧
      createEntry id "you@example.com" "secret" [keyed "00ff"] ["a1"] [] = some e' ∧
      entryDiagnostics id none e ≠ entryDiagnostics id none e' := by
  refine ⟨_, _, rfl, rfl, fun h => ?_⟩
  obtain ⟨-, htitle, -⟩ := (entryDiagnostics_eq_iff (by rfl) (by rfl)).mp h
  exact absurd htitle (by decide)

end OrbitBhyve.Entry
