import OrbitBhyve.Cloud.Join
import OrbitBhyve.Entry.Flows
import OrbitBhyve.Foundation.Memo
import OrbitBhyve.Python.Repr

/-!
# The cloud client

`OrbitCloudClient` against any cloud: a reply may depend on every request before
it. The state of the client is its credentials and, for the record, what it has
sent.
-/

namespace OrbitBhyve.Cloud

open Entry Foundation Python

/-! ## Requests and replies -/

inductive Endpoint where
  | session (email password : String)
  | devices
  /-- A path which is filled in with a mesh id. -/
  | mesh (path : String)
  deriving DecidableEq

structure Request where
  endpoint : Endpoint
  headers : Dict Value

/-- `client` is an `aiohttp.ClientError`; a timeout and broken JSON are not of them. -/
inductive HttpError where
  | client
  | other

structure HttpResponse where
  status : ℕ
  json : Except HttpError Value

abbrev Reply := Except HttpError HttpResponse

/-- The cloud, by the requests before this one. -/
abbrev Server := List Request → Request → Reply

structure OrbitCloudClient where
  token : Value := .none
  userId : Value := .none
  /-- Oldest first. -/
  sent : List Request := []

def CLOUD_APP_ID : String := "Bhyve-App"

def CLOUD_USER_AGENT : String :=
  "Mozilla/5.0 (X11; Linux x86_64) AppleWebKit/537.36 (KHTML, like Gecko) " ++
    "Chrome/72.0.3626.81 Safari/537.36"

/-- `_headers(include_auth=True)`. -/
def authHeaders (token : Value) : Dict Value :=
  [("orbit-app-id", .str CLOUD_APP_ID), ("User-Agent", .str CLOUD_USER_AGENT),
    ("Accept", .str "application/json, text/plain, */*")] ++
  if token.truthy then [("orbit-api-key", token)] else []

def loginHeaders : Dict Value := authHeaders .none ++ [("Content-Type", .str "application/json")]

/-- How a failed request leaves `discover`. -/
def HttpError.discover : HttpError → DiscoverError
  | .client => .connection
  | .other => .other

/-- A program of the client. -/
abbrev Call (α : Type) := Prog DiscoverError OrbitCloudClient α

/-- Anything which no `except` of the client names. -/
def uncaught {α : Type} (r : Except PyErr α) : Except DiscoverError α :=
  r.mapError fun _ => .other

/-- `async with self._session.get(...)`, or `post`. -/
def send (server : Server) (endpoint : Endpoint) (headers : Dict Value) : Call HttpResponse := do
  let client ← get
  let request := Request.mk endpoint headers
  modify fun client => { client with sent := client.sent ++ [request] }
  raising ((server client.sent request).mapError HttpError.discover)

/-- `resp.raise_for_status()`, then `resp.json()`. -/
def HttpResponse.read (resp : HttpResponse) : Except DiscoverError Value :=
  if 400 ≤ resp.status then .error .connection else resp.json.mapError HttpError.discover

/-! ## The methods -/

def login (server : Server) (email password : String) : Call (Dict Value) := do
  let resp ← send server (.session email password) loginHeaders
  if resp.status ∈ [400, 401, 403] then throw .auth
  let body ← raising resp.read
  let body ← raising (uncaught (asDict body))
  let token := body.lookup "orbit_api_key"
  modify fun client => { client with token := token, userId := body.lookup "user_id" }
  if !token.truthy then throw .auth
  return body

def listDevices (server : Server) : Call Value := do
  let resp ← send server .devices (authHeaders (← get).token)
  if resp.status = 401 then throw .auth
  raising resp.read

/-- `path_tmpl.format(mesh_id=mesh_id)`, of a template with the one field and an id as it is
written. -/
def formatPath (pathTmpl meshId : String) : String :=
  String.ofList (pathTmpl.toList.takeWhile (· != '\x7b') ++ meshId.toList ++
    (pathTmpl.toList.dropWhile (· != '\x7d')).drop 1)

/-- The loop of `get_mesh` over the candidate paths. -/
def tryPaths (server : Server) (meshId : String) : List String → Call Value
  | [] => throw .keyNotFound
  | pathTmpl :: paths => do
    let resp ← send server (.mesh (formatPath pathTmpl meshId)) (authHeaders (← get).token)
    if resp.status ∈ [401, 403, 404] then tryPaths server meshId paths
    else raising resp.read

def getMesh (server : Server) (meshId : String) : Call Value :=
  tryPaths server meshId CLOUD_KEY_PATHS

/-! ## Discovery -/

/-- A key of `mesh_cache`; equal numbers are one key. -/
inductive MeshKey where
  | number (q : ℚ)
  | text (s : String)
  deriving DecidableEq

/-- The key of a mesh id, and the id as `format` writes it. A list or a dictionary is no key. -/
def meshKey : Value → Except PyErr (MeshKey × String)
  | .str s => .ok (.text s, s)
  | .int n => .ok (.number n, toString n)
  | .bool b => .ok (.number (if b then 1 else 0), if b then "True" else "False")
  | .float q => .ok (.number q, reprFloat q)
  | _ => .error .typeError

def meshIdOf (d : Dict Value) : Value := (d.lookup "mesh_id").or (d.lookup "network_topology_id")

/-- A device of the list which is no hub and has a mesh id, with that id. -/
def wanted (d : Value) : Except PyErr (Option (Dict Value × Value)) := do
  let d ← asDict d
  if isBridge (← typeText d) then return none
  let meshId := meshIdOf d
  return if meshId.truthy then some (d, meshId) else none

/-- `mesh_cache[mesh_id]`, fetched first if it is not there. -/
def cachedMesh (server : Server) (cache : List (MeshKey × Value)) (meshId : Value) :
    Call (Value × List (MeshKey × Value)) := do
  let (key, text) ← raising (uncaught (meshKey meshId))
  memo (getMesh server text) cache key

/-- The loop of `discover`. -/
def joinAll (server : Server) : List Value → List (MeshKey × Value) → Call (List (Dict Value))
  | [], _ => pure []
  | d :: rawDevices, cache => do
    match ← raising (uncaught (wanted d)) with
    | none => joinAll server rawDevices cache
    | some (d, meshId) =>
      let (mesh, cache) ← cachedMesh server cache meshId
      let record ← raising (uncaught (asDict mesh >>= joinDevice d))
      return record :: (← joinAll server rawDevices cache)

def discover (server : Server) (email password : String) : Call (List (Dict Value)) := do
  let _ ← login server email password
  let rawDevices ← listDevices server
  let rawDevices ← raising (uncaught rawDevices.iterate)
  joinAll server rawDevices []

/-! ### Without the cache -/

/-- The loop of a `discover` which fetches the mesh of every device. -/
def joinAllPlain (server : Server) : List Value → Call (List (Dict Value))
  | [] => pure []
  | d :: rawDevices => do
    match ← raising (uncaught (wanted d)) with
    | none => joinAllPlain server rawDevices
    | some (d, meshId) =>
      let (_, text) ← raising (uncaught (meshKey meshId))
      let mesh ← getMesh server text
      let record ← raising (uncaught (asDict mesh >>= joinDevice d))
      return record :: (← joinAllPlain server rawDevices)

def discoverPlain (server : Server) (email password : String) : Call (List (Dict Value)) := do
  let _ ← login server email password
  let rawDevices ← listDevices server
  let rawDevices ← raising (uncaught rawDevices.iterate)
  joinAllPlain server rawDevices

end OrbitBhyve.Cloud
