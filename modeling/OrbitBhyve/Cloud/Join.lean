import OrbitBhyve.Entry.Merge
import OrbitBhyve.Python.Base64
import OrbitBhyve.Python.Operators

/-!
# Joined records

`_join_device` and what it reads a device and its mesh with. Both come from a
JSON body and may hold anything; what has no attribute or is no number raises.
-/

namespace OrbitBhyve.Cloud

open Entry Python Wire

def CLOUD_KEY_PATHS : List String :=
  ["/meshes/{mesh_id}", "/network_topologies/{mesh_id}", "/networks/{mesh_id}"]

def CLOUD_KEY_FIELDS : List String := ["ble_network_key", "network_key"]

def asDict : Value → Except PyErr (Dict Value)
  | .dict items => .ok items
  | _ => .error .other

def normalizeFw (s : Value) : Except PyErr String :=
  if s.truthy then
    match s, s.toInt with
    | _, .ok n => .ok (fourDigits n)
    -- only of a text is it a `ValueError`
    | .str text, .error _ => .ok text
    | _, .error e => .error e
  else .ok "?"

/-- `":".join(no_colons[i:i + 2] for i in range(0, 12, 2)).upper()`. -/
def colonPairs (noColons : String) : String :=
  String.ofList (upper ([':'].intercalate
    ((List.range 6).map fun i => (noColons.toList.drop (2 * i)).take 2)))

def formatMac (noColons : Value) : Except PyErr Value :=
  if noColons.truthy then
    match noColons with
    | .str s => .ok (if s.length = 12 then .str (colonPairs s) else .none)
    | .list xs => if xs.length = 12 then .error .typeError else .ok .none
    | .dict items => if items.length = 12 then .error .typeError else .ok .none
    | _ => .error .typeError
  else .ok .none

/-- `_b64_to_hex`; what is no text is no Base64 either. -/
def b64ToHex : Value → Value
  | .str s =>
    if s = "" then .none
    else
      match b64decode s with
      | some data => .str (hexText data)
      | none => .none
  | _ => .none

def keyFromMesh (mesh : Dict Value) : Value :=
  match CLOUD_KEY_FIELDS.find? fun f => (mesh.lookup f).truthy with
  | some f => b64ToHex (mesh.lookup f)
  | none => .none

/-- The loop of `_ble_device_id_from_mesh`: the first member with the id decides. -/
def bleDeviceIdOfMember (cloudId : Value) : List Value → Except PyErr (Option ℤ)
  | [] => .ok none
  | member :: members => do
    let member ← asDict member
    if (member.lookup "device_id").eq cloudId then
      return (member.lookup "ble_device_id").toInt.toOption
    bleDeviceIdOfMember cloudId members

def bleDeviceIdFromMesh (mesh : Dict Value) (cloudId : Value) : Except PyErr (Option ℤ) := do
  bleDeviceIdOfMember cloudId (← ((mesh.lookup "devices").or (.list [])).iterate)

/-- `_ble_device_id_from_reference`: the number after the first dash. -/
def bleDeviceIdFromReference (ref : Value) : Except PyErr (Option ℤ) :=
  if ref.truthy then
    match ref with
    | .str s =>
      if '-' ∈ s.toList then
        .ok (intOfText (String.ofList (s.toList.dropWhile fun c => c != '-').tail))
      else .ok none
    | .list xs => if xs.any fun x => x.eq (.str "-") then .error .other else .ok none
    | .dict items => if items.any fun item => item.1 == "-" then .error .other else .ok none
    | _ => .error .typeError
  else .ok none

def optionalInt : Option ℤ → Value
  | some n => .int n
  | none => .none

def bleDeviceIdOf (d mesh : Dict Value) (cloudId : Value) : Except PyErr (Option ℤ) := do
  match ← bleDeviceIdFromMesh mesh cloudId with
  | some n => return some n
  | none => bleDeviceIdFromReference (d.lookup "reference")

def hubMeshDeviceIdOf (mesh : Dict Value) (bridgeDeviceId : Value) : Except PyErr (Option ℤ) :=
  if bridgeDeviceId.truthy then bleDeviceIdFromMesh mesh bridgeDeviceId else .ok none

def joinDevice (d mesh : Dict Value) : Except PyErr (Dict Value) := do
  let cloudId := (d.lookup "id").or (.str "")
  let mac ← formatMac (d.lookup "mac_address")
  let bleDeviceId ← bleDeviceIdOf d mesh cloudId
  let bridgeDeviceId := mesh.lookup "bridge_device_id"
  let hubMeshDeviceId ← hubMeshDeviceIdOf mesh bridgeDeviceId
  let battery ← asDict ((d.lookup "battery").or (.dict []))
  let firmware ← normalizeFw (d.lookup "firmware_version")
  let stations ← ((d.lookup "num_stations").or (.int 0)).toInt
  return [
    ("cloud_id", cloudId),
    ("name", (d.lookup "name").or (.str "B-Hyve")),
    ("mac", mac),
    ("type", (d.lookup "type").or (.str "unknown")),
    ("hardware", (d.lookup "hardware_version").or (.str "unknown")),
    ("firmware", .str firmware),
    ("stations", .int stations),
    ("mesh_id", mesh.lookup "id"),
    ("mesh_device_id", optionalInt bleDeviceId),
    ("bridge_device_id", bridgeDeviceId),
    ("hub_mesh_device_id", optionalInt hubMeshDeviceId),
    ("network_key", keyFromMesh mesh),
    ("battery_pct", battery.lookup "percent"),
    ("battery_mv", battery.lookup "mv")]

/-- `d.get("type") or ""`, of which `discover` takes the lower case. -/
def typeText (d : Dict Value) : Except PyErr String :=
  match (d.lookup "type").or (.str "") with
  | .str s => .ok s
  | _ => .error .other

/-- `text.lower() == "bridge"`; only the capitals of ASCII have its letters as lower case. -/
def isBridge (text : String) : Bool := text.toList.map Char.toLower == "bridge".toList

end OrbitBhyve.Cloud
