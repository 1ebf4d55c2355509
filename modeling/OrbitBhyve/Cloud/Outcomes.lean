import OrbitBhyve.Cloud.Caching

/-!
# How a discovery ends

Only the login and the device list can end a discovery as an authentication
failure; what the mesh endpoints reply cannot. The records of one which succeeds
have every key in its place, and the values the rest of the integration counts
on.
-/

namespace OrbitBhyve.Cloud

open Entry Foundation Python

variable {server server' : Server} {α : Type}

/-! ## Authentication failures -/

/-- A call which never ends in an authentication failure. -/
def SparesAuth (x : Call α) : Prop := ∀ s s', x s ≠ .error .auth s'

theorem SparesAuth.raising {r : Except DiscoverError α} (h : r ≠ .error .auth) :
    SparesAuth (raising r) := by
  intro s s' heq
  cases r with
  | ok a => cases heq
  | error e =>
    cases heq
    exact h rfl

theorem HttpError.discover_ne_auth (e : HttpError) : e.discover ≠ .auth := by
  cases e <;> simp [HttpError.discover]

theorem HttpResponse.read_ne_auth (resp : HttpResponse) : resp.read ≠ .error .auth := by
  unfold HttpResponse.read
  split_ifs
  · simp
  · cases resp.json <;> simp [Except.mapError, HttpError.discover_ne_auth]

theorem sparesAuth_tryPaths (meshId : String) (paths : List String) :
    SparesAuth (tryPaths server meshId paths) := by
  induction paths with
  | nil =>
    intro s s' h
    cases h
  | cons pathTmpl paths ih =>
    intro s s' h
    rw [run_tryPaths_cons] at h
    split at h
    · next e _ =>
      injection h with he
      exact e.discover_ne_auth he
    · next resp _ =>
      split_ifs at h
      · exact ih _ _ h
      · exact SparesAuth.raising resp.read_ne_auth _ _ h

theorem sparesAuth_memo {x : Call α} (hx : SparesAuth x) (cache : List (MeshKey × α))
    (key : MeshKey) : SparesAuth (memo x cache key) := by
  intro s s' h
  obtain ⟨a, -, hrun⟩ | ⟨-, hrun⟩ := memo_cases x cache key s
  · cases hrun.symm.trans h
  · rw [hrun] at h
    cases hxs : x s with
    | ok a t =>
      rw [hxs] at h
      cases h
    | error e t =>
      rw [hxs] at h
      cases h
      exact hx s s' hxs

theorem sparesAuth_joinAll (rawDevices : List Value) (cache : List (MeshKey × Value)) :
    SparesAuth (joinAll server rawDevices cache) := by
  induction rawDevices generalizing cache with
  | nil =>
    intro s s' h
    cases h
  | cons d rawDevices ih =>
    intro s s' h
    rw [run_joinAll_cons] at h
    split at h
    · cases h
    · exact ih cache s s' h
    split at h
    · cases h
    split at h
    · next hmemo =>
      cases h
      exact sparesAuth_memo (sparesAuth_tryPaths _ _) cache _ _ _ hmemo
    · next cache' t _ =>
      split at h
      · cases h
      · cases hrest : joinAll server rawDevices cache' t with
        | ok records t' =>
          rw [hrest] at h
          cases h
        | error e t' =>
          rw [hrest] at h
          cases h
          exact ih cache' t s' hrest

/-- Two clouds which reply alike to all but requests for a mesh. -/
def AgreeOffMeshes (server server' : Server) : Prop :=
  ∀ sent r, (∀ path, r.endpoint ≠ .mesh path) → server sent r = server' sent r

theorem AgreeOffMeshes.login (h : AgreeOffMeshes server server') (email password : String) :
    login server email password = login server' email password := by
  funext s
  rw [run_login, run_login,
    h _ ⟨.session email password, loginHeaders⟩ fun _ => Endpoint.noConfusion]

theorem AgreeOffMeshes.listDevices (h : AgreeOffMeshes server server') :
    listDevices server = listDevices server' := by
  funext s
  rw [run_listDevices, run_listDevices, h _ ⟨.devices, authHeaders s.token⟩ fun _ =>
    Endpoint.noConfusion]

/-- Whether a discovery ends in an authentication failure does not depend on what any path of any
mesh replies: a 401 or 403 of theirs is not taken for bad credentials. -/
theorem discover_auth_iff (h : AgreeOffMeshes server server') (email password : String)
    (client : OrbitCloudClient) :
    result (discover server email password) client = .error .auth ↔
      result (discover server' email password) client = .error .auth := by
  have hspares : ∀ (cloud : Server) rawDevices s,
      result (joinAll cloud rawDevices []) s ≠ .error .auth := by
    intro cloud rawDevices s heq
    unfold result at heq
    split at heq
    · cases heq
    · next e t hrun =>
      cases heq
      exact sparesAuth_joinAll rawDevices [] s t hrun
  unfold discover result
  rw [h.login, h.listDevices]
  cases hlogin : login server' email password client with
  | error e s₁ => rw [run_bind_error hlogin, run_bind_error hlogin]
  | ok body s₁ =>
    rw [run_bind_ok hlogin, run_bind_ok hlogin]
    cases hraw : listDevices server' s₁ with
    | error e s₂ => rw [run_bind_error hraw, run_bind_error hraw]
    | ok raw s₂ =>
      rw [run_bind_ok hraw, run_bind_ok hraw]
      cases raw.iterate with
      | error e => exact Iff.rfl
      | ok rawDevices => exact iff_of_false (hspares _ _ _) (hspares _ _ _)

/-- The cloud of `oneMesh`, with every path of its mesh refused. -/
def meshRefused : Server := fun sent r =>
  match r.endpoint with
  | .mesh _ => .ok ⟨401, .error .client⟩
  | _ => oneMesh sent r

/-- It ends for want of a key. -/
theorem discover_auth_iff_meshRefused :
    result (discover meshRefused "me@example.com" "secret") {} = .error .keyNotFound ∧
      (result (discover oneMesh "me@example.com" "secret") {} = .error .auth ↔
        result (discover meshRefused "me@example.com" "secret") {} = .error .auth) := by
  refine ⟨by rfl, discover_auth_iff (fun sent r h => ?_) _ _ _⟩
  unfold meshRefused
  split
  · next path heq => exact absurd heq (h path)
  · rfl

/-! ## Joined records -/

def RECORD_KEYS : List String :=
  ["cloud_id", "name", "mac", "type", "hardware", "firmware", "stations", "mesh_id",
    "mesh_device_id", "bridge_device_id", "hub_mesh_device_id", "network_key", "battery_pct",
    "battery_mv"]

structure Joined (r : Dict Value) : Prop where
  keys : r.keys = RECORD_KEYS
  type : ∃ text, r.lookup "type" = .str text ∧ isBridge text = false
  mac : r.lookup "mac" = .none ∨ ∃ noColons : String, noColons.length = 12 ∧
    r.lookup "mac" = .str (colonPairs noColons)
  firmware : ∃ text, r.lookup "firmware" = .str text
  stations : ∃ n, r.lookup "stations" = .int n
  networkKey : r.lookup "network_key" = .none ∨
    ∃ data, r.lookup "network_key" = .str (hexText data)
  meshDeviceId : ∃ n, r.lookup "mesh_device_id" = optionalInt n
  hubMeshDeviceId : ∃ n, r.lookup "hub_mesh_device_id" = optionalInt n

theorem formatMac_cases {v mac : Value} (h : formatMac v = .ok mac) :
    mac = .none ∨ ∃ noColons : String, noColons.length = 12 ∧ mac = .str (colonPairs noColons) := by
  unfold formatMac at h
  split_ifs at h
  · split at h
    · next noColons _ =>
      split_ifs at h with hlength
      · cases h
        exact .inr ⟨noColons, hlength, rfl⟩
      · cases h
        exact .inl rfl
    · split_ifs at h
      cases h
      exact .inl rfl
    · split_ifs at h
      cases h
      exact .inl rfl
    · cases h
  · cases h
    exact .inl rfl

theorem keyFromMesh_cases (mesh : Dict Value) :
    keyFromMesh mesh = .none ∨ ∃ data, keyFromMesh mesh = .str (hexText data) := by
  unfold keyFromMesh
  split
  · next f _ =>
    unfold b64ToHex
    split
    · split_ifs
      · exact .inl rfl
      · split
        · exact .inr ⟨_, rfl⟩
        · exact .inl rfl
    · exact .inl rfl
  · exact .inl rfl

theorem joinDevice_eq_ok {d mesh r : Dict Value} (h : joinDevice d mesh = .ok r) :
    ∃ mac bleDeviceId hubMeshDeviceId battery firmware stations,
      formatMac (d.lookup "mac_address") = .ok mac ∧
      normalizeFw (d.lookup "firmware_version") = .ok firmware ∧
      r = [
        ("cloud_id", (d.lookup "id").or (.str "")),
        ("name", (d.lookup "name").or (.str "B-Hyve")),
        ("mac", mac),
        ("type", (d.lookup "type").or (.str "unknown")),
        ("hardware", (d.lookup "hardware_version").or (.str "unknown")),
        ("firmware", .str firmware),
        ("stations", .int stations),
        ("mesh_id", mesh.lookup "id"),
        ("mesh_device_id", optionalInt bleDeviceId),
        ("bridge_device_id", mesh.lookup "bridge_device_id"),
        ("hub_mesh_device_id", optionalInt hubMeshDeviceId),
        ("network_key", keyFromMesh mesh),
        ("battery_pct", Dict.lookup battery "percent"),
        ("battery_mv", Dict.lookup battery "mv")] := by
  unfold joinDevice at h
  obtain ⟨mac, hmac, h⟩ := except_bind_eq_ok h
  obtain ⟨bleDeviceId, -, h⟩ := except_bind_eq_ok h
  obtain ⟨hubMeshDeviceId, -, h⟩ := except_bind_eq_ok h
  obtain ⟨battery, -, h⟩ := except_bind_eq_ok h
  obtain ⟨firmware, hfirmware, h⟩ := except_bind_eq_ok h
  obtain ⟨stations, -, h⟩ := except_bind_eq_ok h
  exact ⟨mac, bleDeviceId, hubMeshDeviceId, battery, firmware, stations, hmac, hfirmware,
    (Except.ok.inj h).symm⟩

theorem joined_of_joinDevice {d mesh r : Dict Value} {text : String} (htype : typeText d = .ok text)
    (hbridge : isBridge text = false) (h : joinDevice d mesh = .ok r) : Joined r := by
  obtain ⟨mac, bleDeviceId, hubMeshDeviceId, battery, firmware, stations, hmac, hfirmware, rfl⟩ :=
    joinDevice_eq_ok h
  have htext : ∃ text, (d.lookup "type").or (.str "unknown") = .str text ∧
      isBridge text = false := by
    unfold typeText at htype
    by_cases htruthy : (d.lookup "type").truthy
    · rw [Value.or, if_pos htruthy] at htype ⊢
      split at htype
      · next found hfound =>
        cases htype
        exact ⟨text, hfound, hbridge⟩
      · cases htype
    · rw [Value.or, if_neg htruthy]
      exact ⟨"unknown", rfl, by decide +kernel⟩
  exact ⟨rfl, htext, formatMac_cases hmac, ⟨firmware, rfl⟩, ⟨stations, rfl⟩, keyFromMesh_cases mesh,
    ⟨bleDeviceId, rfl⟩, ⟨hubMeshDeviceId, rfl⟩⟩

/-- No wanted device is a hub. -/
theorem typeText_of_wanted {d meshId : Value} {items : Dict Value}
    (h : wanted d = .ok (some (items, meshId))) :
    ∃ text, typeText items = .ok text ∧ isBridge text = false := by
  unfold wanted at h
  obtain ⟨found, -, h⟩ := except_bind_eq_ok h
  obtain ⟨text, htext, h⟩ := except_bind_eq_ok h
  split_ifs at h with hbridge
  · cases h
  · dsimp only at h
    split_ifs at h
    · cases h
      exact ⟨text, htext, Bool.eq_false_of_not_eq_true hbridge⟩
    · cases h

theorem joined_of_joinAll {rawDevices : List Value} {cache : List (MeshKey × Value)}
    {s s' : OrbitCloudClient} {records : List (Dict Value)}
    (h : joinAll server rawDevices cache s = .ok records s') : ∀ r ∈ records, Joined r := by
  induction rawDevices generalizing cache s records with
  | nil =>
    cases h
    exact fun r hr => by cases hr
  | cons d rawDevices ih =>
    rw [run_joinAll_cons] at h
    split at h
    · cases h
    · exact ih h
    next items meshId hwanted =>
      split at h
      · cases h
      split at h
      · cases h
      next mesh cache' t _ =>
        split at h
        · cases h
        next record hrecord =>
          obtain ⟨mesh', -, hjoin⟩ := except_bind_eq_ok hrecord
          obtain ⟨text, htext, hbridge⟩ := typeText_of_wanted hwanted
          cases hrest : joinAll server rawDevices cache' t with
          | error e t' =>
            rw [hrest] at h
            cases h
          | ok rest t' =>
            rw [hrest] at h
            cases h
            exact List.forall_mem_cons.mpr ⟨joined_of_joinDevice htext hbridge hjoin, ih hrest⟩

/-- Whatever the cloud replies, the records of a discovery have the shape which is stored. -/
theorem joined_of_discover {email password : String} {client client' : OrbitCloudClient}
    {records : List (Dict Value)}
    (h : discover server email password client = .ok records client') :
    ∀ r ∈ records, Joined r := by
  obtain ⟨body, s₁, -, h⟩ := run_bind_eq_ok.mp h
  obtain ⟨raw, s₂, -, h⟩ := run_bind_eq_ok.mp h
  obtain ⟨rawDevices, s₃, -, h⟩ := run_bind_eq_ok.mp h
  exact joined_of_joinAll h

end OrbitBhyve.Cloud
