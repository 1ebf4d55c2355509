import OrbitBhyve.Cloud.Join
import OrbitBhyve.Devices.HubMesh
import OrbitBhyve.Devices.State

/-!
# Devices of records

`build_device` picks a class by the hardware, the firmware and the type of a
stored record, and constructs a device of it. The record may hold anything: an
unsupported model is one way to fail, a missing key or a value of another type
is any other.
-/

namespace OrbitBhyve.Entry

open Cloud Devices Python Wire

inductive BHyveClass where
  | hub
  | ht25
  | ht25Fw0085
  | ht25g2
  | ht34a
  deriving DecidableEq

namespace BHyveClass

/-- `isinstance(device, BHyveHT25Device)`. -/
def isHt25 : BHyveClass → Bool
  | ht25 | ht25Fw0085 => true
  | _ => false

/-- `isinstance(device, BHyveProtobufDevice)`. -/
def isProtobuf : BHyveClass → Bool
  | ht25g2 | ht34a => true
  | _ => false

/-- `frame_magic`, and `trailer_const`. -/
def frameMagic (c : BHyveClass) : UInt8 := if c.isProtobuf then 0x11 else 0x10

def replyHeader (c : BHyveClass) : Option Bytes :=
  if c.isProtobuf then some [0xAA, 0x77, 0x5A, 0x0F] else none

def hasFlow (c : BHyveClass) : Bool := c == ht25g2

def hasFlowGen1 (c : BHyveClass) : Bool := c.isHt25

def rebindSidDelta (c : BHyveClass) : ℕ := if c = ht25Fw0085 then 3 else 2

end BHyveClass

inductive BuildError where
  | unsupportedModel (hardware firmware : Value)
  | raised (e : PyErr)

def startsWith (text start : String) : Bool := start.toList.isPrefixOf text.toList
def endsWith (text ending : String) : Bool := ending.toList.isSuffixOf text.toList

/-- The clauses of `resolve_device_class` on the hardware. -/
def classOfHardware (hardware : String) (firmware : Value) : Option BHyveClass :=
  if startsWith hardware "HT25" then
    if startsWith hardware "HT25G2" then some .ht25g2
    else if endsWith hardware "-0000" then
      if firmware.eq (.str "0085") then some .ht25Fw0085 else some .ht25
    else some .ht25g2
  else if startsWith hardware "HT34" then some .ht34a
  else if startsWith hardware "HT32" then some .ht34a
  else if startsWith hardware "HT31" then some .ht34a
  else none

def resolveDeviceClass (hardware firmware type_ : Value) : Except BuildError BHyveClass :=
  if type_.eq (.str "bridge") then .ok .hub
  else
    match hardware.or (.str "") with
    | .str text =>
      match classOfHardware text firmware with
      | some c => .ok c
      | none => .error (.unsupportedModel (hardware.or (.str "?")) (firmware.or (.str "?")))
    | _ => .error (.raised .other)

/-! ## Construction -/

/-- What the constructor of `BHyveBleConnection` keeps. -/
structure LinkSettings where
  mac : Value
  key : Bytes
  frameMagic : UInt8
  trailerConst : UInt8
  replyHeader : Option Bytes
  idleSec : ℕ
  gattSettleMs : ℕ

/-- A device as its constructor leaves it, and as options and polls change it. -/
structure LiveDevice where
  cls : BHyveClass
  cloudId : String
  name : Value
  mac : Value
  hardware : Value
  firmware : Value
  stations : Value
  meshId : Value
  meshDeviceId : Value
  bridgeDeviceId : Value
  hubMeshDeviceId : Value
  networkKey : Value
  connection : Option LinkSettings
  flowCountsPerGallon : ℕ
  activeStatusPoll : Bool := false
  hubMeshOverride : Option ℤ := none
  state : DeviceState := {}

/-- `record[key]`. -/
def item (fields : Dict Value) (key : String) : Except BuildError Value :=
  match fields.get key with
  | some v => .ok v
  | none => .error (.raised .other)

/-- `bytes.fromhex` of a stored key. -/
def keyBytes : Value → Except BuildError Bytes
  | .str text =>
    match fromHex text with
    | some key => .ok key
    | none => .error (.raised .valueError)
  | _ => .error (.raised .typeError)

def buildConnection (c : BHyveClass) (idleSec : ℕ) (mac networkKey : Value) :
    Except BuildError (Option LinkSettings) :=
  if networkKey.truthy && mac.truthy then do
    let key ← keyBytes networkKey
    return some {
      mac := mac
      key := key
      frameMagic := c.frameMagic
      trailerConst := c.frameMagic
      replyHeader := c.replyHeader
      idleSec := idleSec
      gattSettleMs := 300 }
  else .ok none

/-- The constructor of a class; that of a hub takes the key off the record first. -/
def construct (c : BHyveClass) (idleSec flowCountsPerGallon : ℕ) (r : DeviceRecord) :
    Except BuildError LiveDevice := do
  let fields := if c = .hub then r.fields.set "network_key" (.str "") else r.fields
  let name ← item fields "name"
  let mac ← item fields "mac"
  let hardware ← item fields "hardware"
  let firmware ← item fields "firmware"
  let stations ← item fields "stations"
  let networkKey ← item fields "network_key"
  let connection ← buildConnection c idleSec mac networkKey
  return {
    cls := c
    cloudId := r.cloudId
    name := name
    mac := mac
    hardware := hardware
    firmware := firmware
    stations := stations
    meshId := Dict.lookup fields "mesh_id"
    meshDeviceId := Dict.lookup fields "mesh_device_id"
    bridgeDeviceId := Dict.lookup fields "bridge_device_id"
    hubMeshDeviceId := Dict.lookup fields "hub_mesh_device_id"
    networkKey := networkKey
    connection := connection
    flowCountsPerGallon := flowCountsPerGallon }

/-- `record.get(key, "")`. -/
def textItem (fields : Dict Value) (key : String) : Value := (fields.get key).getD (.str "")

def buildDevice (idleSec flowCountsPerGallon : ℕ) (r : DeviceRecord) :
    Except BuildError LiveDevice := do
  let c ← resolveDeviceClass (textItem r.fields "hardware") (textItem r.fields "firmware")
    (textItem r.fields "type")
  construct c idleSec flowCountsPerGallon r

end OrbitBhyve.Entry
