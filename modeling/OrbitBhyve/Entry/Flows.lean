import OrbitBhyve.Entry.Merge
import OrbitBhyve.Foundation.Runs

/-!
# The picker, the refresh service and the reconfigure flow

The flow reads the stored devices when it starts and the known ids when it is
submitted. A refresh reads and writes the entry in one segment, once it has its
response. Beside the entry an account keeps what the user has been shown: the
options of the pickers which were accepted, and those left unchecked in them.
-/

namespace OrbitBhyve.Entry

open Foundation Python

inductive DiscoverError where
  | auth
  | connection
  | keyNotFound
  | other

abbrev Response := Except DiscoverError (List DeviceRecord)

/-- `entry.data`; a missing credential is an empty one. -/
structure EntryData where
  email : String
  password : String
  devices : List DeviceRecord
  /-- `None` on an entry from before the key existed. -/
  known : Option (List String)

def EntryData.hasCredentials (d : EntryData) : Bool := d.email != "" && d.password != ""

/-- `async_step_pick_devices` on a submit: the data of the new entry, or the form again. -/
def pickDevices (email password : String) (discovered : List DeviceRecord)
    (included : List String) : Option EntryData :=
  if included.isEmpty then none
  else some {
    email := email
    password := password
    devices := discovered.filter fun r => included.contains r.cloudId
    known := some (nextKnownIds none [] (cloudIds discovered)) }

/-! ## The refresh service -/

def catalogueIds (stored discovered : List DeviceRecord) : List String :=
  cloudIds discovered ++ (cloudIds stored).filter fun cid => !(cloudIds discovered).contains cid

def refreshSelection (discovered : List DeviceRecord) (d : EntryData) : List String :=
  defaultSelection (cloudIds d.devices) d.known (catalogueIds d.devices discovered)

def refreshed (discovered : List DeviceRecord) (d : EntryData) : EntryData :=
  { d with
    devices := mergeDeviceLists d.devices discovered (refreshSelection discovered d)
    known := some
      (nextKnownIds d.known (cloudIds d.devices) (catalogueIds d.devices discovered)) }

/-- `async_refresh_entry`; one which raises leaves the entry alone. -/
def asyncRefreshEntry (r : Response) (d : EntryData) : EntryData :=
  if d.hasCredentials then
    match r with
    | .error _ => d
    | .ok discovered => refreshed discovered d
  else d

/-! ## The reconfigure flow -/

inductive FlowStage where
  /-- In the `discover` of `async_step_reconfigure`. -/
  | discovering
  /-- At the form of `async_step_reconfigure_auth`. -/
  | askingPassword
  /-- In the `discover` of `async_step_reconfigure_auth`. -/
  | rediscovering
  /-- At the form of `async_step_reconfigure_devices`. -/
  | picking
  deriving DecidableEq

structure ReconfigureFlow where
  password : String
  /-- `self._stored`, read when the flow starts. -/
  stored : List DeviceRecord
  discovered : List DeviceRecord := []
  stage : FlowStage

def ReconfigureFlow.catalogue (f : ReconfigureFlow) : List DeviceRecord :=
  Entry.catalogue f.stored f.discovered

/-- `async_step_reconfigure` up to its `discover`. -/
def beginReconfigure (d : EntryData) : ReconfigureFlow where
  password := d.password
  stored := d.devices
  stage := if d.hasCredentials then .discovering else .askingPassword

/-- A `discover` of the flow ends; an empty account is an error. -/
def ReconfigureFlow.resume (r : Response) (f : ReconfigureFlow) : Option ReconfigureFlow :=
  match f.stage, r with
  | .discovering, .ok [] => none
  | .discovering, .ok discovered => some { f with discovered := discovered, stage := .picking }
  | .discovering, .error .auth => some { f with stage := .askingPassword }
  | .discovering, .error _ => none
  | .rediscovering, .ok [] => some { f with discovered := [], stage := .askingPassword }
  | .rediscovering, .ok discovered => some { f with discovered := discovered, stage := .picking }
  | .rediscovering, .error _ => some { f with stage := .askingPassword }
  | _, _ => some f

def ReconfigureFlow.enterPassword (password : String) (f : ReconfigureFlow) : ReconfigureFlow :=
  if f.stage = .askingPassword then { f with password := password, stage := .rediscovering } else f

/-! ## Accounts -/

structure Account where
  data : EntryData
  /-- The open reconfigure flow. -/
  flow : Option ReconfigureFlow := none
  /-- The options of every accepted picker form. -/
  offered : List String
  /-- Options which were unchecked when they were last submitted. -/
  unchecked : List String

inductive Event where
  | refresh (r : Response)
  | reconfigure
  | discovered (r : Response)
  | enterPassword (password : String)
  | submit (included : List String)
  /-- The user closes the dialog. -/
  | close

namespace Account

def created (email password : String) (discovered : List DeviceRecord) (included : List String) :
    Option Account :=
  (pickDevices email password discovered included).map fun data => {
    data := data
    offered := cloudIds discovered
    unchecked := (cloudIds discovered).filter fun cid => !included.contains cid }

def picker (s : Account) : Option ReconfigureFlow :=
  s.flow.bind fun f => if f.stage = .picking then some f else none

/-- An accepted submit of `async_step_reconfigure_devices`. -/
def submitDevices (f : ReconfigureFlow) (included : List String) (s : Account) : Account where
  data :=
    { s.data with
      password := f.password
      devices := mergeDeviceLists f.stored f.discovered included
      known := some (nextKnownIds s.data.known (cloudIds f.stored) (cloudIds f.catalogue)) }
  flow := none
  offered := s.offered ++ cloudIds f.catalogue
  unchecked := (s.unchecked ++ cloudIds f.catalogue).filter fun cid => !included.contains cid

/-- What cannot happen in a state leaves it alone, as does a submit with nothing checked. -/
def step (s : Account) : Event → Account
  | .refresh r => { s with data := asyncRefreshEntry r s.data }
  | .reconfigure => { s with flow := some (beginReconfigure s.data) }
  | .discovered r => { s with flow := s.flow.bind (ReconfigureFlow.resume r) }
  | .enterPassword password => { s with flow := s.flow.map (ReconfigureFlow.enterPassword password) }
  | .submit included =>
    match s.picker with
    | none => s
    | some f => if included.isEmpty then s else s.submitDevices f included
  | .close => { s with flow := none }

def sequential (s : Account) : Event → Bool
  | .refresh _ => s.flow.isNone
  | _ => true

end Account

/-! ## What a segment of the flow leaves alone -/

theorem ReconfigureFlow.stored_resume {f f' : ReconfigureFlow} {r : Response}
    (h : f.resume r = some f') : f'.stored = f.stored := by
  unfold ReconfigureFlow.resume at h
  split at h <;> first | cases h; rfl | cases h

theorem ReconfigureFlow.stored_enterPassword (password : String) (f : ReconfigureFlow) :
    (f.enterPassword password).stored = f.stored := by
  unfold ReconfigureFlow.enterPassword
  split_ifs <;> rfl

theorem Account.flow_of_picker {s : Account} {f : ReconfigureFlow} (h : s.picker = some f) :
    s.flow = some f := by
  unfold Account.picker at h
  cases hflow : s.flow with
  | none => rw [hflow] at h; cases h
  | some g =>
    rw [hflow, Option.bind_some] at h
    split_ifs at h
    exact h

theorem mem_catalogueIds {stored discovered : List DeviceRecord} {cid : String} :
    cid ∈ catalogueIds stored discovered ↔
      cid ∈ cloudIds discovered ∨ cid ∈ cloudIds stored := by
  simp only [catalogueIds, List.mem_append, List.mem_filter, Bool.not_eq_true',
    ← Bool.not_eq_true, List.contains_iff_mem]
  tauto

theorem ReconfigureFlow.discovered_resume {f f' : ReconfigureFlow} {r : Response}
    (h : f.resume r = some f') :
    f'.discovered = f.discovered ∨ r = .ok f'.discovered := by
  unfold ReconfigureFlow.resume at h
  split at h <;> first | (cases h; first | exact .inl rfl | exact .inr rfl) | cases h

theorem ReconfigureFlow.discovered_enterPassword (password : String) (f : ReconfigureFlow) :
    (f.enterPassword password).discovered = f.discovered := by
  unfold ReconfigureFlow.enterPassword
  split_ifs <;> rfl

/-- A refresh keeps what it has, and adds what it finds and did not know. -/
theorem mem_refreshed {d : EntryData} {discovered : List DeviceRecord} {cid : String}
    (hne : cid ≠ "") (hmem : cid ∈ catalogueIds d.devices discovered)
    (hsel : cid ∈ cloudIds d.devices ∨ cid ∉ d.known.getD (cloudIds d.devices)) :
    cid ∈ cloudIds (refreshed discovered d).devices :=
  mem_cloudIds_mergeDeviceLists.mpr
    ⟨hne, mem_defaultSelection.mpr ⟨hmem, hsel⟩, mem_catalogueIds.mp hmem⟩

theorem pickDevices_some {email password : String} {discovered : List DeviceRecord}
    {included : List String} {d : EntryData}
    (h : pickDevices email password discovered included = some d) :
    d = {
      email := email
      password := password
      devices := discovered.filter fun r => included.contains r.cloudId
      known := some (nextKnownIds none [] (cloudIds discovered)) } := by
  unfold pickDevices at h
  split_ifs at h
  exact (Option.some.inj h).symm

theorem Account.created_some {email password : String} {discovered : List DeviceRecord}
    {included : List String} {s : Account}
    (h : created email password discovered included = some s) :
    s = {
      data := {
        email := email
        password := password
        devices := discovered.filter fun r => included.contains r.cloudId
        known := some (nextKnownIds none [] (cloudIds discovered)) }
      offered := cloudIds discovered
      unchecked := (cloudIds discovered).filter fun cid => !included.contains cid } := by
  obtain ⟨data, hdata, rfl⟩ := Option.map_eq_some_iff.mp h
  rw [pickDevices_some hdata]

/-- A refresh merges a response, or leaves the entry alone. -/
theorem asyncRefreshEntry_cases (r : Response) (d : EntryData) :
    (∃ discovered, r = .ok discovered ∧ d.hasCredentials = true ∧
      asyncRefreshEntry r d = refreshed discovered d) ∨
    (d.hasCredentials = true → ∀ discovered, r ≠ .ok discovered) ∧ asyncRefreshEntry r d = d := by
  unfold asyncRefreshEntry
  split_ifs with hcred
  · cases r with
    | error e => exact .inr ⟨fun _ _ h => (by cases h), rfl⟩
    | ok discovered => exact .inl ⟨discovered, rfl, hcred, rfl⟩
  · exact .inr ⟨fun h => absurd h hcred, rfl⟩

/-- A refresh merges a response into the entry, or leaves the account alone. -/
theorem Account.refresh_cases (s : Account) (r : Response) :
    (∃ discovered, r = .ok discovered ∧ s.data.hasCredentials = true ∧
      s.step (.refresh r) = { s with data := refreshed discovered s.data }) ∨
    (s.data.hasCredentials = true → ∀ discovered, r ≠ .ok discovered) ∧ s.step (.refresh r) = s := by
  dsimp only [Account.step]
  obtain ⟨discovered, hr, hcred, hdata⟩ | ⟨hfail, hdata⟩ := asyncRefreshEntry_cases r s.data
  · rw [hdata]
    exact .inl ⟨discovered, hr, hcred, rfl⟩
  · rw [hdata]
    exact .inr ⟨hfail, rfl⟩

/-- A submit is accepted, or leaves the account alone. -/
theorem Account.submit_cases (s : Account) (included : List String) :
    (∃ f, s.picker = some f ∧ included.isEmpty = false ∧
      s.step (.submit included) = s.submitDevices f included) ∨
    (∀ f, s.picker = some f → included.isEmpty = true) ∧ s.step (.submit included) = s := by
  dsimp only [Account.step]
  cases hpicker : s.picker with
  | none => exact .inr ⟨fun f hf => (by cases hf), rfl⟩
  | some f =>
    cases hempty : included.isEmpty with
    | true => exact .inr ⟨fun _ _ => rfl, rfl⟩
    | false => exact .inl ⟨f, rfl, rfl, rfl⟩

end OrbitBhyve.Entry
