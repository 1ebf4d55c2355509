import OrbitBhyve.Coordinator.Update
import OrbitBhyve.Entry.Build
import OrbitBhyve.Foundation.Runs

/-!
# Set-up of an entry and options in place

A set-up builds the devices of an entry under its options. The update listener
applies changed options to the devices which are there, whatever they are doing;
polls and notifications change what a device is doing, and its interval.
-/

namespace OrbitBhyve.Entry

open Cloud Coordinator Devices Foundation Python

structure EntryOptions where
  idleDisconnect : Option ℕ := none
  pollIdle : Option ℕ := none
  pollWatering : Option ℕ := none
  flowCountsPerGallon : Option ℕ := none
  meshStatusPoll : Option Bool := none
  hubMeshOverrides : Option String := none

/-- The options a set-up and the update listener read. -/
structure Tuning where
  idleDisconnect : ℕ
  pollIdle : ℕ
  pollWatering : ℕ
  flowCountsPerGallon : ℕ
  meshStatusPoll : Bool
  hubMeshOverrides : Dict ℤ

def EntryOptions.tuning (o : EntryOptions) : Tuning where
  idleDisconnect := o.idleDisconnect.getD 60
  pollIdle := o.pollIdle.getD 900
  pollWatering := o.pollWatering.getD 30
  flowCountsPerGallon := o.flowCountsPerGallon.getD 433
  meshStatusPoll := o.meshStatusPoll.getD false
  hubMeshOverrides := parseHubMeshOverrides (o.hubMeshOverrides.getD "")

/-- `BHyveDeviceCoordinator`; `preferred` is `preferred_duration_sec`. -/
structure LiveCoordinator where
  device : LiveDevice
  cadence : DeviceCoordinator
  preferred : Option ℕ := none

/-- `hub_mesh_overrides.get(device.mac)`. -/
def overrideOf (overrides : Dict ℤ) : Value → Option ℤ
  | .str mac => Dict.get overrides mac
  | _ => none

/-- The options of a mesh device, which no other class reads. -/
def LiveDevice.applyMesh (t : Tuning) (d : LiveDevice) : LiveDevice :=
  if d.cls.isHt25 then
    { d with
      activeStatusPoll := t.meshStatusPoll
      hubMeshOverride := overrideOf t.hubMeshOverrides d.mac }
  else d

/-! ## Set-up -/

/-- `(record.get("type") or "").lower() == "bridge"`. -/
def isHubRecord (r : DeviceRecord) : Except BuildError Bool :=
  match typeText r.fields with
  | .ok text => .ok (isBridge text)
  | .error e => .error (.raised e)

/-- The body of the loop of `async_setup_entry`; an unsupported model is skipped. -/
def setupRecord (t : Tuning) (r : DeviceRecord) : Except PyErr (Option LiveCoordinator) :=
  match isHubRecord r with
  | .error _ => .error .other
  | .ok true => .ok none
  | .ok false =>
    match buildDevice t.idleDisconnect t.flowCountsPerGallon r with
    | .ok d =>
      .ok (some {
        device := d.applyMesh t
        cadence := { pollIdle := t.pollIdle, pollWatering := t.pollWatering } })
    | .error (.unsupportedModel _ _) => .ok none
    | .error (.raised e) => .error e

abbrev Runtime := Dict LiveCoordinator

def setupLoop (t : Tuning) : Runtime → List DeviceRecord → Except PyErr Runtime
  | runtime, [] => .ok runtime
  | runtime, r :: devices => do
    match ← setupRecord t r with
    | none => setupLoop t runtime devices
    | some coordinator => setupLoop t (runtime.set r.cloudId coordinator) devices

/-- `async_setup_entry` up to its runtime; `none` is `False`. -/
def asyncSetupEntry (o : EntryOptions) (devices : List DeviceRecord) :
    Except PyErr (Option Runtime) :=
  if devices.isEmpty then .ok none else (setupLoop o.tuning [] devices).map some

/-! ## Options in place -/

/-- The body of the loop of `_async_update_listener`. -/
def LiveCoordinator.retune (t : Tuning) (c : LiveCoordinator) : LiveCoordinator :=
  let device := { c.device with flowCountsPerGallon := t.flowCountsPerGallon }.applyMesh t
  { c with
    device :=
      { device with
        connection := device.connection.map fun link => { link with idleSec := t.idleDisconnect } }
    cadence := {
      pollIdle := t.pollIdle
      pollWatering := t.pollWatering
      updateInterval := if c.device.state.isWatering then t.pollWatering else t.pollIdle } }

def asyncUpdateListener (o : EntryOptions) (runtime : Runtime) : Runtime :=
  runtime.mapValues (LiveCoordinator.retune o.tuning)

/-! ## The life of a runtime -/

/-- What happens to a coordinator besides changed options. -/
inductive Activity where
  /-- A notification or a command leaves the device in a state. -/
  | moved (state : DeviceState)
  /-- An update leaves it in a state, and takes the interval of the coordinator from that. -/
  | polled (clock : DateTime) (state : DeviceState)
  /-- The duration entity sets `preferred_duration_sec`. -/
  | prefers (seconds : ℕ)

inductive LifeEvent where
  | options (o : EntryOptions)
  | active (cloudId : String) (a : Activity)

def LiveCoordinator.act (c : LiveCoordinator) : Activity → LiveCoordinator
  | .moved state => { c with device := { c.device with state := state } }
  | .polled clock state =>
    { c with
      device := { c.device with state := state }
      cadence :=
        match c.cadence.cadence clock state with
        | .ok target => { c.cadence with updateInterval := target }
        | .error _ => c.cadence }
  | .prefers seconds => { c with preferred := some seconds }

def lifeStep (runtime : Runtime) : LifeEvent → Runtime
  | .options o => asyncUpdateListener o runtime
  | .active cloudId a =>
    runtime.map fun item => (item.1, if item.1 = cloudId then item.2.act a else item.2)

end OrbitBhyve.Entry
