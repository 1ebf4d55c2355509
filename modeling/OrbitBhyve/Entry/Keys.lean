import OrbitBhyve.Entry.SetupRuns

/-!
# The network key, from the cloud to the link

The cloud writes a key in Base64, the entry keeps it in hex, and the link reads
it back as bytes.
-/

namespace OrbitBhyve.Entry

open Cloud Foundation Python Wire

/-- The key of a mesh, in the first of its key fields which has anything. -/
structure ServesKey (mesh : Dict Value) (key : Bytes) : Prop where
  nonempty : key ≠ []
  written : ∃ field text, CLOUD_KEY_FIELDS.find? (fun f => (mesh.lookup f).truthy) = some field ∧
    mesh.lookup field = .str text ∧ (∀ c ∈ text.toList, c.toNat < 128) ∧
    text.toList.filter isB64 = b64encode key

theorem b64encode_ne_nil {key : Bytes} (h : key ≠ []) : b64encode key ≠ [] := by
  fun_cases b64encode key
  · exact absurd rfl h
  all_goals exact List.cons_ne_nil _ _

theorem ServesKey.keyFromMesh {mesh : Dict Value} {key : Bytes} (h : ServesKey mesh key) :
    keyFromMesh mesh = .str (hexText key) := by
  obtain ⟨field, text, hfind, hvalue, hascii, hencoded⟩ := h.written
  have hne : text ≠ "" := by
    rintro rfl
    exact b64encode_ne_nil h.nonempty hencoded.symm
  rw [Cloud.keyFromMesh, hfind]
  dsimp only
  rw [hvalue, b64ToHex, if_neg hne, b64decode_of_filter hascii hencoded]

theorem hexText_ne_empty {key : Bytes} (h : key ≠ []) : hexText key ≠ "" := by
  intro heq
  have hread := fromHex_hexText key
  rw [heq] at hread
  exact h (Option.some.inj hread).symm

theorem get_mergeDiscovered (stored : List DeviceRecord) {new : DeviceRecord} {key : String}
    {v : Value} (hget : new.fields.get key = some v) (hv : v.isBlank = false) :
    (mergeDiscovered stored new).fields.get key = some v := by
  unfold mergeDiscovered
  split
  · exact hget
  · next old _ =>
    have hfilled : filled (Dict.update old.fields new.fields) key = true := by
      rw [filled, Dict.get_update, hget]
      simp [hv]
    rw [get_mergeDeviceRecord, hfilled, hget]
    simp

/-- What the cloud serves as the key of a mesh is the key of the link of its device, whatever was
stored of the device, and whatever breaks and blanks stand in the text of the key. -/
theorem link_key_of_discovered {d mesh fields : Dict Value} {key : Bytes} {new : DeviceRecord}
    {stored : List DeviceRecord} {idleSec flowCountsPerGallon : ℕ} {device : LiveDevice}
    (hkey : ServesKey mesh key) (hjoin : joinDevice d mesh = .ok fields)
    (hrecord : recordOf fields = some new)
    (hbuild : buildDevice idleSec flowCountsPerGallon (mergeDiscovered stored new) = .ok device)
    (hclass : device.cls ≠ .hub) :
    device.connection.map LinkSettings.key = if device.mac.truthy then some key else none := by
  have hget : new.fields.get "network_key" = some (.str (hexText key)) := by
    obtain ⟨_, _, _, _, _, _, -, -, rfl⟩ := joinDevice_eq_ok hjoin
    rw [← hkey.keyFromMesh]
    unfold recordOf at hrecord
    split at hrecord
    · next heq =>
      cases hrecord
      obtain ⟨-, rfl⟩ := List.cons.inj heq
      rfl
    · cases hrecord
  have hblank : (Value.str (hexText key)).isBlank = false :=
    beq_eq_false_iff_ne.mpr (hexText_ne_empty hkey.nonempty)
  have hmerged := get_mergeDiscovered stored hget hblank
  obtain ⟨c, -, hbuild⟩ := except_bind_eq_ok hbuild
  obtain ⟨name, -, hbuild⟩ := except_bind_eq_ok hbuild
  obtain ⟨mac, -, hbuild⟩ := except_bind_eq_ok hbuild
  obtain ⟨hardware, -, hbuild⟩ := except_bind_eq_ok hbuild
  obtain ⟨firmware, -, hbuild⟩ := except_bind_eq_ok hbuild
  obtain ⟨stations, -, hbuild⟩ := except_bind_eq_ok hbuild
  obtain ⟨networkKey, hnetworkKey, hbuild⟩ := except_bind_eq_ok hbuild
  obtain ⟨connection, hconnection, hbuild⟩ := except_bind_eq_ok hbuild
  cases hbuild
  rw [if_neg hclass, item, hmerged] at hnetworkKey
  cases hnetworkKey
  have htruthy : (Value.str (hexText key)).truthy = true :=
    bne_iff_ne.mpr (hexText_ne_empty hkey.nonempty)
  rw [buildConnection, htruthy, Bool.true_and] at hconnection
  dsimp only
  split_ifs at hconnection with hmac
  · rw [keyBytes, fromHex_hexText] at hconnection
    cases hconnection
    rw [if_pos hmac]
    rfl
  · cases hconnection
    rw [if_neg hmac]
    rfl

def wrappedKeyMesh : Dict Value := [("id", .str "m"), ("ble_network_key", .str "AP\n8=")]

def keyedTimer : Dict Value :=
  [("id", .str "a"), ("mac_address", .str "001122aabbcc"), ("hardware_version", .str "HT34A-0001")]

/-- A key with a line break in it, for a timer which was stored without one. -/
theorem link_key_of_discovered_wrapped :
    ∃ fields new device, joinDevice keyedTimer wrappedKeyMesh = .ok fields ∧
      recordOf fields = some new ∧
      buildDevice 60 433 (mergeDiscovered [⟨"a", [("network_key", .none)]⟩] new) = .ok device ∧
      device.connection.map LinkSettings.key = some [0, 255] := by
  obtain ⟨fields, new, device, hjoin, hrecord, hbuild, hclass, hmac⟩ :
      ∃ fields new device, joinDevice keyedTimer wrappedKeyMesh = .ok fields ∧
        recordOf fields = some new ∧
        buildDevice 60 433 (mergeDiscovered [⟨"a", [("network_key", .none)]⟩] new) = .ok device ∧
        device.cls ≠ .hub ∧ device.mac.truthy = true :=
    ⟨_, _, _, rfl, rfl, rfl, by decide +kernel, by decide +kernel⟩
  refine ⟨fields, new, device, hjoin, hrecord, hbuild, ?_⟩
  have hchars : "AP\n8=".toList = ['A', 'P', '\n', '8', '='] := rfl
  have hkey : ServesKey wrappedKeyMesh [0, 255] :=
    ⟨by decide, "ble_network_key", "AP\n8=", rfl, rfl, by simp [hchars], by rw [hchars]; decide⟩
  rw [link_key_of_discovered hkey hjoin hrecord hbuild hclass, if_pos hmac]

end OrbitBhyve.Entry
