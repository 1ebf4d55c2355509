import OrbitBhyve.Entry.Setup

/-!
# In place as after a set-up

A reload under new options would make every device anew, at rest. The update
listener leaves the devices as they are, and still: but for what they are doing,
they are then what the reload would have made.
-/

namespace OrbitBhyve.Entry

open Cloud Coordinator Devices Foundation Python

/-- A coordinator without what its device is doing. -/
def LiveCoordinator.rest (c : LiveCoordinator) : LiveCoordinator where
  device := { c.device with state := {} }
  cadence := { c.cadence with updateInterval := c.cadence.pollIdle }
  preferred := none

def LiveCoordinator.AtRest (c : LiveCoordinator) : Prop := c.rest = c

/-! ## One coordinator -/

theorem buildConnection_idle (c : BHyveClass) (idle idle' : ℕ) (mac networkKey : Value) :
    buildConnection c idle' mac networkKey = (buildConnection c idle mac networkKey).map
      (Option.map fun link => { link with idleSec := idle' }) := by
  unfold buildConnection
  split_ifs
  · cases keyBytes networkKey <;> rfl
  · rfl

theorem buildDevice_retune (t t' : Tuning) (r : DeviceRecord) :
    buildDevice t'.idleDisconnect t'.flowCountsPerGallon r =
      (buildDevice t.idleDisconnect t.flowCountsPerGallon r).map fun d =>
        { d with
          flowCountsPerGallon := t'.flowCountsPerGallon
          connection := d.connection.map fun link =>
            { link with idleSec := t'.idleDisconnect } } := by
  simp only [buildDevice, construct, except_map_bind,
    buildConnection_idle _ t.idleDisconnect t'.idleDisconnect, except_bind_map]
  rfl

/-- What a constructor makes is at rest, without the options of a mesh device. -/
theorem buildDevice_fresh {t : Tuning} {r : DeviceRecord} {d : LiveDevice}
    (h : buildDevice t.idleDisconnect t.flowCountsPerGallon r = .ok d) :
    d.state = {} ∧ d.activeStatusPoll = false ∧ d.hubMeshOverride = none := by
  obtain ⟨c, -, h⟩ := except_bind_eq_ok h
  obtain ⟨name, -, h⟩ := except_bind_eq_ok h
  obtain ⟨mac, -, h⟩ := except_bind_eq_ok h
  obtain ⟨hardware, -, h⟩ := except_bind_eq_ok h
  obtain ⟨firmware, -, h⟩ := except_bind_eq_ok h
  obtain ⟨stations, -, h⟩ := except_bind_eq_ok h
  obtain ⟨networkKey, -, h⟩ := except_bind_eq_ok h
  obtain ⟨connection, -, h⟩ := except_bind_eq_ok h
  cases h
  exact ⟨rfl, rfl, rfl⟩

/-- A record comes to the same coordinator under any options, but for the options. -/
theorem setupRecord_retune (t t' : Tuning) (r : DeviceRecord) :
    setupRecord t' r = (setupRecord t r).map (Option.map (LiveCoordinator.retune t')) := by
  unfold setupRecord
  cases isHubRecord r with
  | error e => rfl
  | ok hub =>
    cases hub with
    | true => rfl
    | false =>
      dsimp only
      rw [buildDevice_retune t t']
      cases hbuild : buildDevice t.idleDisconnect t.flowCountsPerGallon r with
      | error e => cases e <;> rfl
      | ok d =>
        obtain ⟨hstate, hpoll, hoverride⟩ := buildDevice_fresh hbuild
        simp only [Except.map, Option.map_some, LiveCoordinator.retune, LiveDevice.applyMesh]
        cases hcls : d.cls.isHt25 <;> simp [hcls, hstate, hpoll, hoverride]

theorem setupLoop_retune (t t' : Tuning) (devices : List DeviceRecord) (runtime : Runtime) :
    setupLoop t' (runtime.mapValues (LiveCoordinator.retune t')) devices =
      (setupLoop t runtime devices).map (Dict.mapValues (LiveCoordinator.retune t')) := by
  induction devices generalizing runtime with
  | nil => rfl
  | cons r devices ih =>
    simp only [setupLoop, setupRecord_retune t t' r, except_bind_map, except_map_bind]
    refine congrArg (setupRecord t r >>= ·) (funext fun made => ?_)
    cases made with
    | none => exact ih runtime
    | some c =>
      simp only [Option.map_some, ← Dict.mapValues_set]
      exact ih (runtime.set r.cloudId c)

theorem asyncSetupEntry_retune (o o' : EntryOptions) (devices : List DeviceRecord) :
    asyncSetupEntry o' devices =
      (asyncSetupEntry o devices).map (Option.map (asyncUpdateListener o')) := by
  unfold asyncSetupEntry
  split_ifs
  · rfl
  · have hloop := setupLoop_retune o.tuning o'.tuning devices []
    rw [Dict.mapValues, List.map_nil] at hloop
    rw [hloop]
    cases setupLoop o.tuning [] devices <;> rfl

/-! ## A life -/

def Runtime.rest (runtime : Runtime) : Runtime := runtime.mapValues LiveCoordinator.rest

/-- What holds of every coordinator of a record holds of those of a set-up. -/
theorem forall_of_setupLoop {P : LiveCoordinator → Prop} {t : Tuning}
    (hrecord : ∀ r c, setupRecord t r = .ok (some c) → P c) {devices : List DeviceRecord}
    {runtime made : Runtime} (hruntime : ∀ item ∈ runtime, P item.2)
    (h : setupLoop t runtime devices = .ok made) : ∀ item ∈ made, P item.2 := by
  induction devices generalizing runtime with
  | nil =>
    cases h
    exact hruntime
  | cons r devices ih =>
    obtain ⟨found, hfound, h⟩ := except_bind_eq_ok h
    cases found with
    | none => exact ih hruntime h
    | some c =>
      have hset : ∀ item ∈ Dict.set runtime r.cloudId c, P item.2 :=
        Dict.forall_mem_update hruntime fun item hitem => by
          obtain rfl := List.mem_singleton.mp hitem
          exact hrecord r c hfound
      exact ih hset h

theorem forall_of_asyncSetupEntry {P : LiveCoordinator → Prop} {o : EntryOptions}
    (hrecord : ∀ r c, setupRecord o.tuning r = .ok (some c) → P c) {devices : List DeviceRecord}
    {runtime : Runtime} (h : asyncSetupEntry o devices = .ok (some runtime)) :
    ∀ item ∈ runtime, P item.2 := by
  unfold asyncSetupEntry at h
  split_ifs at h
  · cases h
  cases hloop : setupLoop o.tuning [] devices with
  | error e =>
    rw [hloop] at h
    cases h
  | ok made =>
    rw [hloop] at h
    cases h
    exact forall_of_setupLoop hrecord (fun item hitem => by cases hitem) hloop

end OrbitBhyve.Entry
