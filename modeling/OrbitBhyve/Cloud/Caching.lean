import OrbitBhyve.Cloud.Client

/-!
# What a discovery asks for

Where devices name their meshes by texts, a discovery asks for no path twice,
whatever the cloud replies. A cloud which replies to a request as it did before is asked less than without the cache,
with the same outcome.
-/

namespace OrbitBhyve.Cloud

open Entry Foundation Python

variable {server : Server} {α : Type}

/-! ## One request -/

def OrbitCloudClient.sending (client : OrbitCloudClient) (requests : List Request) :
    OrbitCloudClient :=
  { client with sent := client.sent ++ requests }

@[simp] theorem token_sending (client : OrbitCloudClient) (requests : List Request) :
    (client.sending requests).token = client.token := rfl

theorem sending_nil (client : OrbitCloudClient) : client.sending [] = client := by
  rw [OrbitCloudClient.sending, List.append_nil]

theorem sending_sending (client : OrbitCloudClient) (a b : List Request) :
    (client.sending a).sending b = client.sending (a ++ b) := by
  simp only [OrbitCloudClient.sending, List.append_assoc]

theorem run_send (endpoint : Endpoint) (headers : Dict Value) (s : OrbitCloudClient) :
    send server endpoint headers s =
      match server s.sent ⟨endpoint, headers⟩ with
      | .ok resp => .ok resp (s.sending [⟨endpoint, headers⟩])
      | .error e => .error e.discover (s.sending [⟨endpoint, headers⟩]) := by
  have hrun : send server endpoint headers s =
      raising ((server s.sent ⟨endpoint, headers⟩).mapError HttpError.discover)
        (s.sending [⟨endpoint, headers⟩]) := rfl
  rw [hrun]
  cases server s.sent ⟨endpoint, headers⟩ <;> rfl

/-! ## The paths of a mesh -/

def meshRequest (token : Value) (meshId pathTmpl : String) : Request :=
  ⟨.mesh (formatPath pathTmpl meshId), authHeaders token⟩

/-- The paths of different meshes differ, and so do those of one mesh. -/
theorem formatPath_inj {p p' meshId meshId' : String} (hp : p ∈ CLOUD_KEY_PATHS)
    (hp' : p' ∈ CLOUD_KEY_PATHS) (h : formatPath p meshId = formatPath p' meshId') :
    p = p' ∧ meshId = meshId' := by
  have hchars := String.ofList_injective h
  simp only [CLOUD_KEY_PATHS, List.mem_cons, List.not_mem_nil, or_false] at hp hp'
  rcases hp with rfl | rfl | rfl <;> rcases hp' with rfl | rfl | rfl <;>
    simp_all [String.toList_inj]

theorem run_tryPaths_cons (server : Server) (meshId : String) (pathTmpl : String)
    (paths : List String) (s : OrbitCloudClient) :
    tryPaths server meshId (pathTmpl :: paths) s =
      match server s.sent (meshRequest s.token meshId pathTmpl) with
      | .error e => .error e.discover (s.sending [meshRequest s.token meshId pathTmpl])
      | .ok resp =>
        if resp.status ∈ [401, 403, 404] then
          tryPaths server meshId paths (s.sending [meshRequest s.token meshId pathTmpl])
        else raising resp.read (s.sending [meshRequest s.token meshId pathTmpl]) := by
  have hrun : tryPaths server meshId (pathTmpl :: paths) s =
      (send server (.mesh (formatPath pathTmpl meshId)) (authHeaders s.token) >>= fun resp =>
        if resp.status ∈ [401, 403, 404] then tryPaths server meshId paths
        else raising resp.read) s := rfl
  rw [hrun, run_bind, run_send]
  unfold meshRequest
  cases server s.sent ⟨.mesh (formatPath pathTmpl meshId), authHeaders s.token⟩ with
  | error e => rfl
  | ok resp =>
    dsimp only
    split_ifs <;> rfl

/-- Some first part of the paths is asked for, each of them once. -/
theorem after_tryPaths (server : Server) (meshId : String) (paths : List String)
    (s : OrbitCloudClient) :
    ∃ k, after (tryPaths server meshId paths) s =
      s.sending ((paths.take k).map (meshRequest s.token meshId)) := by
  induction paths generalizing s with
  | nil => exact ⟨0, (sending_nil s).symm⟩
  | cons pathTmpl paths ih =>
    have hrun := run_tryPaths_cons server meshId pathTmpl paths s
    cases hreply : server s.sent (meshRequest s.token meshId pathTmpl) with
    | error e =>
      rw [hreply] at hrun
      exact ⟨1, after_of_error hrun⟩
    | ok resp =>
      rw [hreply] at hrun
      dsimp only at hrun
      split_ifs at hrun with hrejected
      · obtain ⟨k, hk⟩ := ih (s.sending [meshRequest s.token meshId pathTmpl])
        refine ⟨k + 1, ?_⟩
        rw [after, hrun, ← after, hk, sending_sending]
        rfl
      · refine ⟨1, ?_⟩
        rw [after, hrun, ← after, after_raising]
        rfl

/-! ## One device -/

/-- The records of the devices behind one, after its own. -/
def consRecord (record : Dict Value) (r : EStateM.Result DiscoverError OrbitCloudClient
    (List (Dict Value))) : EStateM.Result DiscoverError OrbitCloudClient (List (Dict Value)) :=
  match r with
  | .ok records s => .ok (record :: records) s
  | .error e s => .error e s

theorem run_joinAll_cons (server : Server) (d : Value) (rawDevices : List Value)
    (cache : List (MeshKey × Value)) (s : OrbitCloudClient) :
    joinAll server (d :: rawDevices) cache s =
      match wanted d with
      | .error _ => .error .other s
      | .ok none => joinAll server rawDevices cache s
      | .ok (some (items, meshId)) =>
        match meshKey meshId with
        | .error _ => .error .other s
        | .ok (key, text) =>
          match memo (getMesh server text) cache key s with
          | .error e s' => .error e s'
          | .ok (mesh, cache') s' =>
            match asDict mesh >>= joinDevice items with
            | .error _ => .error .other s'
            | .ok record => consRecord record (joinAll server rawDevices cache' s') := by
  rw [joinAll]
  cases hwanted : wanted d with
  | error e => rfl
  | ok w =>
    cases w with
    | none => rfl
    | some w =>
      obtain ⟨items, meshId⟩ := w
      have hrun : ∀ r s',
          (raising (uncaught (asDict (Prod.fst r) >>= joinDevice items)) >>= fun record =>
          joinAll server rawDevices (Prod.snd r) >>= fun records => pure (record :: records)) s' =
          match asDict r.1 >>= joinDevice items with
          | .error _ => .error .other s'
          | .ok record => consRecord record (joinAll server rawDevices r.2 s') := by
        intro r s'
        cases asDict r.1 >>= joinDevice items with
        | error e => rfl
        | ok record =>
          change (joinAll server rawDevices r.2 >>= fun records => pure (record :: records)) s' = _
          rw [run_bind]
          cases joinAll server rawDevices r.2 s' <;> rfl
      change (cachedMesh server cache meshId >>= fun r => _) s = _
      rw [run_bind, cachedMesh]
      dsimp only
      cases meshKey meshId with
      | error e => rfl
      | ok named =>
        obtain ⟨key, text⟩ := named
        have hmemo : (raising (uncaught (.ok (key, text))) >>= fun named =>
            memo (getMesh server named.2) cache named.1) s =
              memo (getMesh server text) cache key s := rfl
        rw [hmemo]
        dsimp only
        cases memo (getMesh server text) cache key s with
        | error e s' => rfl
        | ok r s' => exact hrun r s'

/-! ## The requests of a discovery -/

/-- A mesh which is asked for, at its first `tries` paths. -/
structure Fetch where
  key : MeshKey
  text : String
  tries : ℕ

def Fetch.requests (token : Value) (f : Fetch) : List Request :=
  (CLOUD_KEY_PATHS.take f.tries).map (meshRequest token f.text)

/-- Some device names its mesh so. -/
def Fetch.Named (rawDevices : List Value) (f : Fetch) : Prop :=
  ∃ d ∈ rawDevices, ∃ items meshId, wanted d = .ok (some (items, meshId)) ∧
    meshKey meshId = .ok (f.key, f.text)

theorem Fetch.Named.cons {rawDevices : List Value} {f : Fetch} (h : f.Named rawDevices)
    (d : Value) : f.Named (d :: rawDevices) := by
  obtain ⟨d', hd', hnamed⟩ := h
  exact ⟨d', List.mem_cons_of_mem d hd', hnamed⟩

/-- Fetches of different meshes, none of which is in the cache. -/
structure Fresh (cached : List MeshKey) (fetches : List Fetch) : Prop where
  once : (fetches.map Fetch.key).Nodup
  uncached : ∀ f ∈ fetches, f.key ∉ cached

theorem Fresh.nil (cached : List MeshKey) : Fresh cached [] :=
  ⟨List.nodup_nil, fun _ h => by cases h⟩

theorem Fresh.cons {cached : List MeshKey} {f : Fetch} {fetches : List Fetch}
    (hf : f.key ∉ cached) (h : Fresh (f.key :: cached) fetches) : Fresh cached (f :: fetches) where
  once := by
    refine List.nodup_cons.mpr ⟨fun hmem => ?_, h.once⟩
    obtain ⟨g, hg, heq⟩ := List.mem_map.mp hmem
    exact h.uncached g hg (heq ▸ List.mem_cons_self)
  uncached := by
    intro g hg
    obtain rfl | hg := List.mem_cons.mp hg
    · exact hf
    · exact fun hmem => h.uncached g hg (List.mem_cons_of_mem _ hmem)

/-- How far a turn of the loop of `discover` gets: to nothing, over a device which is skipped,
to the mesh of the device, or past that to the other devices. -/
theorem after_joinAll_cons (server : Server) (d : Value) (rawDevices : List Value)
    (cache : List (MeshKey × Value)) (s : OrbitCloudClient) :
    after (joinAll server (d :: rawDevices) cache) s = s ∨
    after (joinAll server (d :: rawDevices) cache) s = after (joinAll server rawDevices cache) s ∨
    ∃ items meshId key text, wanted d = .ok (some (items, meshId)) ∧
      meshKey meshId = .ok (key, text) ∧
      (after (joinAll server (d :: rawDevices) cache) s =
          after (memo (getMesh server text) cache key) s ∨
        ∃ mesh cache' s', memo (getMesh server text) cache key s = .ok (mesh, cache') s' ∧
          after (joinAll server (d :: rawDevices) cache) s =
            after (joinAll server rawDevices cache') s') := by
  have hrun := run_joinAll_cons server d rawDevices cache s
  cases hwanted : wanted d with
  | error e =>
    rw [hwanted] at hrun
    exact .inl (after_of_error hrun)
  | ok w =>
    rw [hwanted] at hrun
    cases w with
    | none =>
      refine .inr (.inl ?_)
      rw [after, hrun]
      rfl
    | some w =>
      obtain ⟨items, meshId⟩ := w
      dsimp only at hrun
      cases hkey : meshKey meshId with
      | error e =>
        rw [hkey] at hrun
        exact .inl (after_of_error hrun)
      | ok named =>
        obtain ⟨key, text⟩ := named
        rw [hkey] at hrun
        dsimp only at hrun
        refine .inr (.inr ⟨items, meshId, key, text, rfl, hkey, ?_⟩)
        cases hmemo : memo (getMesh server text) cache key s with
        | error e s' =>
          rw [hmemo] at hrun
          rw [after_of_error hrun, after_of_error hmemo]
          exact .inl rfl
        | ok r s' =>
          obtain ⟨mesh, cache'⟩ := r
          rw [hmemo] at hrun
          dsimp only at hrun
          cases hrecord : asDict mesh >>= joinDevice items with
          | error e =>
            rw [hrecord] at hrun
            rw [after_of_error hrun, after_of_ok hmemo]
            exact .inl rfl
          | ok record =>
            rw [hrecord] at hrun
            refine .inr ⟨mesh, cache', s', rfl, ?_⟩
            rw [after, hrun, after]
            cases joinAll server rawDevices cache' s' <;> rfl

/-- The loop of `discover` sends fetches of meshes which are not in the cache, each once. -/
theorem after_joinAll (server : Server) (rawDevices : List Value) (cache : List (MeshKey × Value))
    (s : OrbitCloudClient) :
    ∃ fetches, Fresh (cache.map Prod.fst) fetches ∧ (∀ f ∈ fetches, f.Named rawDevices) ∧
      after (joinAll server rawDevices cache) s =
        s.sending (fetches.flatMap (Fetch.requests s.token)) := by
  induction rawDevices generalizing cache s with
  | nil => exact ⟨[], .nil _, fun _ h => (List.not_mem_nil h).elim, (sending_nil s).symm⟩
  | cons d rawDevices ih =>
    have hnone : ∀ s', s' = s → ∃ fetches, Fresh (cache.map Prod.fst) fetches ∧
        (∀ f ∈ fetches, f.Named (d :: rawDevices)) ∧
          s' = s.sending (fetches.flatMap (Fetch.requests s.token)) := by
      rintro s' rfl
      exact ⟨[], .nil _, fun _ h => (List.not_mem_nil h).elim, (sending_nil s').symm⟩
    obtain hstop | hskip | ⟨items, meshId, key, text, hwanted, hkey, hrest⟩ :=
      after_joinAll_cons server d rawDevices cache s
    · exact hnone _ hstop
    · obtain ⟨fetches, hfresh, hnamed, hafter⟩ := ih cache s
      exact ⟨fetches, hfresh, fun f hf => (hnamed f hf).cons d, hskip.trans hafter⟩
    obtain ⟨k, hk⟩ := after_tryPaths server text CLOUD_KEY_PATHS s
    let fetch : Fetch := ⟨key, text, k⟩
    have hnamed : fetch.Named (d :: rawDevices) :=
      ⟨d, List.mem_cons_self, items, meshId, hwanted, hkey⟩
    have hfetch : after (getMesh server text) s = s.sending (fetch.requests s.token) := hk
    obtain ⟨mesh, hhit, hmemo⟩ | ⟨hmiss, hmemo⟩ := memo_cases (getMesh server text) cache key s
    · obtain hlast | ⟨_, _, _, hmemo', hnext⟩ := hrest
      · rw [hlast, after_of_ok hmemo]
        exact hnone s rfl
      · rw [hmemo] at hmemo'
        cases hmemo'
        rw [hnext]
        obtain ⟨fetches, hfresh, hothers, hafter⟩ := ih cache s
        exact ⟨fetches, hfresh, fun f hf => (hothers f hf).cons d, hafter⟩
    · have hnew : key ∉ cache.map Prod.fst := notMem_of_lookup hmiss
      obtain hlast | ⟨mesh, cache', s', hmemo', hnext⟩ := hrest
      · refine ⟨[fetch], Fresh.cons hnew (.nil _), ?_, ?_⟩
        · rintro f hf
          rw [List.mem_singleton.mp hf]
          exact hnamed
        · rw [List.flatMap_singleton, ← hfetch, hlast, after, hmemo, after]
          cases getMesh server text s <;> rfl
      · rw [hmemo] at hmemo'
        cases hmesh : getMesh server text s with
        | error e t =>
          rw [hmesh] at hmemo'
          cases hmemo'
        | ok a t =>
          rw [hmesh] at hmemo'
          cases hmemo'
          rw [after_of_ok hmesh] at hfetch
          obtain ⟨fetches, hfresh, hothers, hafter⟩ := ih ((key, mesh) :: cache) s'
          refine ⟨fetch :: fetches, Fresh.cons hnew hfresh, ?_, ?_⟩
          · intro f hf
            obtain rfl | hf := List.mem_cons.mp hf
            · exact hnamed
            · exact (hothers f hf).cons d
          · rw [hnext, hafter, hfetch, token_sending, sending_sending, List.flatMap_cons]

/-- The keys of texts are the texts, so that what is fetched once is asked for once. -/
theorem Fresh.nodup_endpoints {cached : List MeshKey} {fetches : List Fetch}
    (h : Fresh cached fetches) (htext : ∀ f ∈ fetches, f.key = .text f.text) (token : Value) :
    ((fetches.flatMap (Fetch.requests token)).map Request.endpoint).Nodup := by
  rw [List.map_flatMap, List.nodup_flatMap]
  constructor
  · intro f _
    have hpaths : (CLOUD_KEY_PATHS.take f.tries).Nodup :=
      (by decide : CLOUD_KEY_PATHS.Nodup).sublist (List.take_sublist _ _)
    rw [Fetch.requests, List.map_map]
    refine hpaths.map_on fun p hp p' hp' heq => ?_
    exact (formatPath_inj (List.mem_of_mem_take hp) (List.mem_of_mem_take hp')
      (Endpoint.mesh.inj heq)).1
  · refine (List.pairwise_map.mp h.once).imp_of_mem ?_
    intro f g hf hg hne endpoint hasked hasked'
    refine hne ?_
    simp only [Fetch.requests, meshRequest, List.map_map, List.mem_map,
      Function.comp_apply] at hasked hasked'
    obtain ⟨p, hp, rfl⟩ := hasked
    obtain ⟨p', hp', heq⟩ := hasked'
    rw [htext f hf, htext g hg, (formatPath_inj (List.mem_of_mem_take hp')
      (List.mem_of_mem_take hp) (Endpoint.mesh.inj heq)).2]

def OrbitCloudClient.loggedIn (client : OrbitCloudClient) (body : Dict Value) : OrbitCloudClient :=
  { client with token := body.lookup "orbit_api_key", userId := body.lookup "user_id" }

theorem run_login (server : Server) (email password : String) (s : OrbitCloudClient) :
    login server email password s =
      let s' := s.sending [⟨.session email password, loginHeaders⟩]
      match server s.sent ⟨.session email password, loginHeaders⟩ with
      | .error e => .error e.discover s'
      | .ok resp =>
        if resp.status ∈ [400, 401, 403] then .error .auth s'
        else
          match resp.read >>= fun body => uncaught (asDict body) with
          | .error e => .error e s'
          | .ok body =>
            if (body.lookup "orbit_api_key").truthy then .ok body (s'.loggedIn body)
            else .error .auth (s'.loggedIn body) := by
  rw [login, run_bind, run_send]
  cases server s.sent ⟨.session email password, loginHeaders⟩ with
  | error e => rfl
  | ok resp =>
    dsimp only
    split_ifs with hrejected
    · rfl
    · cases hread : resp.read with
      | error e => rfl
      | ok body =>
        cases body with
        | dict items =>
          change ((if (!(Dict.lookup items "orbit_api_key").truthy) = true then
            throw .auth >>= fun _ : Unit => pure items else pure items : Call _) _) =
              if (Dict.lookup items "orbit_api_key").truthy = true then _ else _
          cases (Dict.lookup items "orbit_api_key").truthy <;> rfl
        | _ => rfl

theorem login_spec (server : Server) (email password : String) (s : OrbitCloudClient) :
    (after (login server email password) s).sent =
        s.sent ++ [⟨.session email password, loginHeaders⟩] ∧
      ∀ body s', login server email password s = .ok body s' → s'.token.truthy = true := by
  have hrun := run_login server email password s
  dsimp only at hrun
  split at hrun
  · exact ⟨by rw [after_of_error hrun]; rfl, fun _ _ h => by cases hrun.symm.trans h⟩
  split_ifs at hrun
  · exact ⟨by rw [after_of_error hrun]; rfl, fun _ _ h => by cases hrun.symm.trans h⟩
  split at hrun
  · exact ⟨by rw [after_of_error hrun]; rfl, fun _ _ h => by cases hrun.symm.trans h⟩
  split_ifs at hrun with htoken
  · refine ⟨by rw [after_of_ok hrun]; rfl, fun _ _ h => ?_⟩
    cases hrun.symm.trans h
    exact htoken
  · exact ⟨by rw [after_of_error hrun]; rfl, fun _ _ h => by cases hrun.symm.trans h⟩

theorem run_listDevices (server : Server) (s : OrbitCloudClient) :
    listDevices server s =
      let s' := s.sending [⟨.devices, authHeaders s.token⟩]
      match server s.sent ⟨.devices, authHeaders s.token⟩ with
      | .error e => .error e.discover s'
      | .ok resp => if resp.status = 401 then .error .auth s' else raising resp.read s' := by
  have hrun : listDevices server s = (send server .devices (authHeaders s.token) >>= fun resp =>
      if resp.status = 401 then throw .auth >>= fun _ : Unit => raising resp.read
      else raising resp.read) s := rfl
  rw [hrun, run_bind, run_send]
  cases server s.sent ⟨.devices, authHeaders s.token⟩ with
  | error e => rfl
  | ok resp =>
    dsimp only
    split_ifs <;> rfl

theorem after_listDevices (server : Server) (s : OrbitCloudClient) :
    after (listDevices server) s = s.sending [⟨.devices, authHeaders s.token⟩] := by
  have hrun := run_listDevices server s
  dsimp only at hrun
  split at hrun
  · exact after_of_error hrun
  · split_ifs at hrun
    · exact after_of_error hrun
    · rw [after, hrun, ← after, after_raising]

theorem reply_of_listDevices {s s' : OrbitCloudClient} {raw : Value}
    (h : listDevices server s = .ok raw s') :
    ∃ resp, server s.sent ⟨.devices, authHeaders s.token⟩ = .ok resp ∧ resp.json = .ok raw := by
  rw [run_listDevices] at h
  dsimp only at h
  split at h
  · cases h
  next resp hreply =>
    split_ifs at h
    obtain ⟨hread, -⟩ := run_raising_eq_ok.mp h
    refine ⟨resp, hreply, ?_⟩
    unfold HttpResponse.read at hread
    split_ifs at hread
    cases hjson : resp.json with
    | error e =>
      rw [hjson] at hread
      cases hread
    | ok v =>
      rw [hjson] at hread
      exact congrArg Except.ok (Except.ok.inj hread)

/-- The devices of an account name their meshes by texts. -/
def TextMeshIds (server : Server) : Prop :=
  ∀ sent headers resp body rawDevices, server sent ⟨.devices, headers⟩ = .ok resp →
    resp.json = .ok body → body.iterate = .ok rawDevices →
    ∀ d ∈ rawDevices, ∀ items meshId, wanted d = .ok (some (items, meshId)) →
      ∃ text, meshId = .str text

/-- A discovery logs in with its first request. All others have the token, and no two of them
ask for the same: whatever the replies, a mesh is asked for at most once at each path. -/
theorem discover_asks_once (htext : TextMeshIds server) (email password : String)
    (client : OrbitCloudClient) :
    let client' := after (discover server email password) client
    ∃ rest, client'.sent =
        client.sent ++ ⟨.session email password, loginHeaders⟩ :: rest ∧
      (rest.map Request.endpoint).Nodup ∧
      ∀ r ∈ rest, r.headers = authHeaders client'.token ∧ client'.token.truthy = true ∧
        (r.endpoint = .devices ∨ ∃ pathTmpl ∈ CLOUD_KEY_PATHS, ∃ meshId,
          r.endpoint = .mesh (formatPath pathTmpl meshId)) := by
  obtain ⟨hsent, htoken⟩ := login_spec server email password client
  dsimp only
  rw [discover]
  cases hlogin : login server email password client with
  | error e s₁ =>
    rw [after_of_error hlogin] at hsent
    rw [after_bind_error hlogin]
    exact ⟨[], hsent, List.nodup_nil, fun r hr => by cases hr⟩
  | ok body s₁ =>
    rw [after_of_ok hlogin] at hsent
    replace htoken := htoken body s₁ hlogin
    rw [after_bind_ok hlogin]
    have hlist := after_listDevices server s₁
    have hrest : ∀ fetches cached s', Fresh cached fetches →
        (∀ f ∈ fetches, f.key = .text f.text) →
        s' = s₁.sending ([⟨.devices, authHeaders s₁.token⟩] ++
          fetches.flatMap (Fetch.requests s₁.token)) →
        ∃ rest, s'.sent = client.sent ++ ⟨.session email password, loginHeaders⟩ :: rest ∧
          (rest.map Request.endpoint).Nodup ∧
          ∀ r ∈ rest, r.headers = authHeaders s'.token ∧ s'.token.truthy = true ∧
            (r.endpoint = .devices ∨ ∃ pathTmpl ∈ CLOUD_KEY_PATHS, ∃ meshId,
              r.endpoint = .mesh (formatPath pathTmpl meshId)) := by
      rintro fetches cached s' hfresh hkeys rfl
      have hmesh : ∀ r ∈ fetches.flatMap (Fetch.requests s₁.token),
          ∃ pathTmpl ∈ CLOUD_KEY_PATHS, ∃ meshId, r = meshRequest s₁.token meshId pathTmpl := by
        intro r hr
        obtain ⟨f, -, hr⟩ := List.mem_flatMap.mp hr
        obtain ⟨p, hp, rfl⟩ := List.mem_map.mp hr
        exact ⟨p, List.mem_of_mem_take hp, f.text, rfl⟩
      refine ⟨⟨.devices, authHeaders s₁.token⟩ :: fetches.flatMap (Fetch.requests s₁.token), ?_,
        List.nodup_cons.mpr ⟨?_, hfresh.nodup_endpoints hkeys s₁.token⟩, fun r hr => ?_⟩
      · rw [OrbitCloudClient.sending, hsent, List.append_assoc]
        rfl
      · intro hmem
        obtain ⟨r, hr, hdevices⟩ := List.mem_map.mp hmem
        obtain ⟨p, -, meshId, rfl⟩ := hmesh r hr
        cases hdevices
      · obtain rfl | hr := List.mem_cons.mp hr
        · exact ⟨rfl, htoken, .inl rfl⟩
        · obtain ⟨p, hp, meshId, rfl⟩ := hmesh r hr
          exact ⟨rfl, htoken, .inr ⟨p, hp, meshId, rfl⟩⟩
    cases hraw : listDevices server s₁ with
    | error e s₂ =>
      rw [after_of_error hraw] at hlist
      rw [after_bind_error hraw]
      exact hrest [] [] s₂ (.nil _) (fun _ h => by cases h) hlist
    | ok raw s₂ =>
      obtain ⟨resp, hreply, hjson⟩ := reply_of_listDevices hraw
      rw [after_of_ok hraw] at hlist
      rw [after_bind_ok hraw]
      cases hdevices : raw.iterate with
      | error e =>
        have hraise : raising (uncaught (.error e : Except PyErr (List Value))) s₂ =
            .error .other s₂ := rfl
        rw [after_bind_error hraise]
        exact hrest [] [] s₂ (.nil _) (fun _ h => by cases h) hlist
      | ok rawDevices =>
        have hraise : raising (uncaught (.ok rawDevices)) s₂ = .ok rawDevices s₂ := rfl
        rw [after_bind_ok hraise]
        obtain ⟨fetches, hfresh, hnamed, hafter⟩ := after_joinAll server rawDevices [] s₂
        refine hrest fetches _ _ hfresh (fun f hf => ?_) ?_
        · obtain ⟨d, hd, items, meshId, hwanted, hkey⟩ := hnamed f hf
          obtain ⟨text, rfl⟩ := htext _ _ resp raw rawDevices hreply hjson hdevices d hd items
            meshId hwanted
          obtain ⟨hk, ht⟩ := Prod.mk.inj (Except.ok.inj hkey)
          rw [← hk, ← ht]
        · rw [hafter, hlist, token_sending, sending_sending]

/-- Two timers on one mesh, whose key is at the second path. -/
def oneMesh : Server := fun _ r =>
  match r.endpoint with
  | .session _ _ => .ok ⟨200, .ok (.dict [("orbit_api_key", .str "t"), ("user_id", .str "u")])⟩
  | .devices => .ok ⟨200, .ok (.list [.dict [("id", .str "a"), ("mesh_id", .str "m")],
      .dict [("id", .str "b"), ("mesh_id", .str "m")]])⟩
  | .mesh path =>
    if path = "/meshes/m" then .ok ⟨401, .error .client⟩
    else .ok ⟨200, .ok (.dict [("id", .str "m"), ("network_key", .str "AP8=")])⟩

theorem textMeshIds_oneMesh : TextMeshIds oneMesh := by
  intro sent headers resp body rawDevices hreply hjson hdevices d hd items meshId hwanted
  cases hreply
  cases hjson
  cases hdevices
  simp only [List.mem_cons, List.not_mem_nil, or_false] at hd
  obtain rfl | rfl := hd <;> · cases hwanted; exact ⟨"m", rfl⟩

/-- The paths are asked for in their order, until one has the mesh. -/
theorem discover_asks_once_oneMesh :
    let client' := after (discover oneMesh "me@example.com" "secret") {}
    client'.sent.map Request.endpoint = [.session "me@example.com" "secret", .devices,
      .mesh "/meshes/m", .mesh "/network_topologies/m"] ∧
    ∃ rest, client'.sent = [] ++ ⟨.session "me@example.com" "secret", loginHeaders⟩ :: rest ∧
      (rest.map Request.endpoint).Nodup ∧
      ∀ r ∈ rest, r.headers = authHeaders client'.token ∧ client'.token.truthy = true ∧
        (r.endpoint = .devices ∨ ∃ pathTmpl ∈ CLOUD_KEY_PATHS, ∃ meshId,
          r.endpoint = .mesh (formatPath pathTmpl meshId)) :=
  ⟨by decide +kernel, discover_asks_once textMeshIds_oneMesh _ _ {}⟩

/-! ## A cloud which does not change its mind -/

/-- The reply to a request does not depend on the requests before it. -/
def Stable (server : Server) : Prop := ∀ sent sent' r, server sent r = server sent' r

def MeshKey.textId : MeshKey → String
  | .number _ => ""
  | .text s => s

theorem result_tryPaths (hstable : Stable server) (meshId : String) (paths : List String)
    {s s' : OrbitCloudClient} (h : s.token = s'.token) :
    result (tryPaths server meshId paths) s = result (tryPaths server meshId paths) s' := by
  induction paths generalizing s s' with
  | nil => rfl
  | cons pathTmpl paths ih =>
    rw [result, result, run_tryPaths_cons, run_tryPaths_cons, h, hstable s.sent s'.sent]
    cases server s'.sent (meshRequest s'.token meshId pathTmpl) with
    | error e => rfl
    | ok resp =>
      dsimp only
      split_ifs
      · exact ih (by rw [token_sending, token_sending, h])
      · cases resp.read <;> rfl

theorem steady_getMesh (hstable : Stable server) (meshId : String) :
    Steady OrbitCloudClient.token (getMesh server meshId) where
  keeps := by
    intro s
    obtain ⟨k, hk⟩ := after_tryPaths server meshId CLOUD_KEY_PATHS s
    rw [getMesh, hk]
    rfl
  same := fun _ _ h => result_tryPaths hstable meshId CLOUD_KEY_PATHS h

theorem run_joinAllPlain_cons (d : Value) (rawDevices : List Value) (s : OrbitCloudClient) :
    joinAllPlain server (d :: rawDevices) s =
      match wanted d with
      | .error _ => .error .other s
      | .ok none => joinAllPlain server rawDevices s
      | .ok (some (items, meshId)) =>
        match meshKey meshId with
        | .error _ => .error .other s
        | .ok (_, text) =>
          match getMesh server text s with
          | .error e s' => .error e s'
          | .ok mesh s' =>
            match asDict mesh >>= joinDevice items with
            | .error _ => .error .other s'
            | .ok record => consRecord record (joinAllPlain server rawDevices s') := by
  rw [joinAllPlain]
  cases hwanted : wanted d with
  | error e => rfl
  | ok w =>
    cases w with
    | none => rfl
    | some w =>
      obtain ⟨items, meshId⟩ := w
      dsimp only
      cases hkey : meshKey meshId with
      | error e =>
        have hraise : (raising (uncaught (.error e : Except PyErr (MeshKey × String)))) s =
            .error .other s := rfl
        change (raising (uncaught (meshKey meshId)) >>= fun named => _) s = _
        rw [hkey, run_bind_error hraise]
      | ok named =>
        have hraise : (raising (uncaught (.ok named : Except PyErr (MeshKey × String)))) s =
            .ok named s := rfl
        change (raising (uncaught (meshKey meshId)) >>= fun named => _) s = _
        rw [hkey, run_bind_ok hraise]
        obtain ⟨key, text⟩ := named
        change (getMesh server text >>= fun mesh => _) s = _
        rw [run_bind]
        dsimp only
        cases getMesh server text s with
        | error e s' => rfl
        | ok mesh s' =>
          dsimp only
          cases asDict mesh >>= joinDevice items with
          | error e => rfl
          | ok record =>
            change (joinAllPlain server rawDevices >>= fun records => pure (record :: records)) s' =
              _
            rw [run_bind]
            cases joinAllPlain server rawDevices s' <;> rfl

theorem result_consRecord {record : Dict Value} {x y : Call (List (Dict Value))}
    {s s' : OrbitCloudClient} (h : result x s = result y s') :
    result (fun t => consRecord record (x t)) s = result (fun t => consRecord record (y t)) s' := by
  unfold result at h ⊢
  cases hx : x s <;> cases hy : y s' <;> simp_all [consRecord]

/-- Behind a coherent cache the loop joins what it joins without one. -/
theorem result_joinAll (hstable : Stable server) {rawDevices : List Value}
    (htext : ∀ d ∈ rawDevices, ∀ items meshId, wanted d = .ok (some (items, meshId)) →
      ∃ text, meshId = .str text)
    {cache : List (MeshKey × Value)} {s s' : OrbitCloudClient} (htoken : s.token = s'.token)
    (hcache : Coherent OrbitCloudClient.token s.token
      (fun key => getMesh server (MeshKey.textId key)) cache) :
    result (joinAll server rawDevices cache) s = result (joinAllPlain server rawDevices) s' := by
  induction rawDevices generalizing cache s s' with
  | nil => rfl
  | cons d rawDevices ih =>
    replace ih := @ih fun d' hd' => htext d' (List.mem_cons_of_mem d hd')
    rw [result, result, run_joinAll_cons, run_joinAllPlain_cons]
    cases hwanted : wanted d with
    | error e => rfl
    | ok w =>
      cases w with
      | none => exact ih htoken hcache
      | some w =>
        obtain ⟨items, meshId⟩ := w
        obtain ⟨text, rfl⟩ := htext d List.mem_cons_self items meshId hwanted
        dsimp only
        have hkey : meshKey (.str text) = .ok (.text text, text) := rfl
        have hid : (MeshKey.text text).textId = text := rfl
        have hsame : result (getMesh server text) s = result (getMesh server text) s' :=
          (steady_getMesh hstable _).same s s' htoken
        have hkeeps : (after (getMesh server text) s').token = s'.token :=
          (steady_getMesh hstable _).keeps.apply s'
        have hmemo := hcache.memo (.text text) (steady_getMesh hstable (MeshKey.text text).textId)
        rw [hkey]
        dsimp only at hmemo ⊢
        rw [hid] at hmemo
        cases hrun : memo (getMesh server text) cache (.text text) s with
        | error e t =>
          rw [hrun] at hmemo
          rw [hmemo.1, result] at hsame
          cases hplain : getMesh server text s' with
          | error e' t' =>
            rw [hplain] at hsame
            rw [Except.error.inj hsame]
          | ok a t' =>
            rw [hplain] at hsame
            cases hsame
        | ok r t =>
          obtain ⟨mesh, cache'⟩ := r
          rw [hrun] at hmemo
          obtain ⟨hresult, ht, hcache'⟩ := hmemo
          rw [hresult, result] at hsame
          cases hplain : getMesh server text s' with
          | error e' t' =>
            rw [hplain] at hsame
            cases hsame
          | ok mesh' t' =>
            rw [hplain] at hsame
            obtain rfl := Except.ok.inj hsame
            rw [after_of_ok hplain] at hkeeps
            dsimp only
            cases asDict mesh >>= joinDevice items with
            | error e => rfl
            | ok record =>
              have htoken' : t.token = t'.token := by rw [ht, hkeeps, htoken]
              exact result_consRecord (ih htoken' (ht ▸ hcache'))

/-- Over a cloud which replies to a request as it did before, a discovery finds what one which
fetches the mesh of every device finds, or fails as that does. -/
theorem discover_eq_plain (hstable : Stable server) (htext : TextMeshIds server)
    (email password : String) (client : OrbitCloudClient) :
    result (discover server email password) client =
      result (discoverPlain server email password) client := by
  unfold discover discoverPlain result
  cases hlogin : login server email password client with
  | error e s₁ => rw [run_bind_error hlogin, run_bind_error hlogin]
  | ok body s₁ =>
    rw [run_bind_ok hlogin, run_bind_ok hlogin]
    cases hraw : listDevices server s₁ with
    | error e s₂ => rw [run_bind_error hraw, run_bind_error hraw]
    | ok raw s₂ =>
      rw [run_bind_ok hraw, run_bind_ok hraw]
      cases hdevices : raw.iterate with
      | error e => rfl
      | ok rawDevices =>
        obtain ⟨resp, hreply, hjson⟩ := reply_of_listDevices hraw
        exact result_joinAll hstable
          (htext _ _ resp raw rawDevices hreply hjson hdevices) rfl (.nil _)

/-- It is asked twice for the one mesh, or four times without the cache. -/
theorem discover_eq_plain_oneMesh :
    result (discover oneMesh "me@example.com" "secret") {} =
        result (discoverPlain oneMesh "me@example.com" "secret") {} ∧
      (after (discover oneMesh "me@example.com" "secret") {}).sent.length = 4 ∧
      (after (discoverPlain oneMesh "me@example.com" "secret") {}).sent.length = 6 := by
  exact ⟨discover_eq_plain (fun _ _ _ => rfl) textMeshIds_oneMesh _ _ _, by decide +kernel,
    by decide +kernel⟩

end OrbitBhyve.Cloud
