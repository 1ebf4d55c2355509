import OrbitBhyve.Devices.Mesh
import OrbitBhyve.Python.Case
import OrbitBhyve.Python.IntLiteral
import OrbitBhyve.Python.Value

/-!
# Hub mesh overrides

`hub_mesh_overrides` lists `MAC=id` pairs, with commas between them. Each pair is
read by itself, and what is read later wins.
-/

namespace OrbitBhyve.Devices

open Python Wire

/-- What one chunk of the option comes to; all but a pair are skipped, with a warning
unless the chunk is blank. -/
inductive ChunkRead where
  | blank
  | missingSep
  | notANumber
  | outOfRange (hubId : ℤ)
  | pair (mac : String) (hubId : ℤ)
  deriving DecidableEq

/-- What follows the first `=`. -/
def afterSep (chunk : List Char) : List Char := (chunk.dropWhile fun c => c != '=').tail

/-- The body of the loop of `parse_hub_mesh_overrides`. -/
def readChunk (chunk : List Char) : ChunkRead :=
  let chunk := strip chunk
  if chunk.isEmpty then .blank
  else if '=' ∉ chunk then .missingSep
  else
    match intLiteral (strip (afterSep chunk)) with
    | none => .notANumber
    | some hubId =>
      if 0 ≤ hubId ∧ hubId ≤ 0xFFFF then
        .pair (String.ofList (upper (strip (chunk.takeWhile fun c => c != '=')))) hubId
      else .outOfRange hubId

def ChunkRead.add (out : Dict ℤ) : ChunkRead → Dict ℤ
  | .pair mac hubId => out.set mac hubId
  | _ => out

/-- The loop of `parse_hub_mesh_overrides`. -/
def readChunks (chunks : List (List Char)) : Dict ℤ :=
  chunks.foldl (fun out chunk => (readChunk chunk).add out) []

def parseHubMeshOverrides (raw : String) : Dict ℤ := readChunks (raw.toList.splitOn ',')

def hubMeshAddress (hubMeshDeviceId hubMeshOverride : Option ℤ) : Except PyErr Bytes :=
  toBytes2 ((hubMeshDeviceId <|> hubMeshOverride).getD 0)

/-! ## Pair by pair -/

theorem ChunkRead.add_eq (out : Dict ℤ) (read : ChunkRead) :
    read.add out = out.update (read.add []) := by
  cases read with
  | pair mac hubId => rfl
  | _ => simp [ChunkRead.add, Dict.update]

theorem readChunks_append (a b : List (List Char)) :
    readChunks (a ++ b) = (readChunks a).update (readChunks b) := by
  induction b using List.reverseRecOn with
  | nil => simp [readChunks, Dict.update]
  | append_singleton b chunk ih =>
    have hlast : ∀ chunks : List (List Char), readChunks (chunks ++ [chunk]) =
        (readChunks chunks).update ((readChunk chunk).add []) := by
      intro chunks
      rw [readChunks, List.foldl_append, List.foldl_cons, List.foldl_nil, ChunkRead.add_eq]
      rfl
    rw [← List.append_assoc, hlast, hlast, ih, Dict.update_update]

/-- A comma separates: neither side of it affects the other. -/
theorem parseHubMeshOverrides_append (a b : String) :
    parseHubMeshOverrides (a ++ "," ++ b) =
      (parseHubMeshOverrides a).update (parseHubMeshOverrides b) := by
  have hsplit : (a ++ "," ++ b).toList.splitOn ',' =
      a.toList.splitOn ',' ++ b.toList.splitOn ',' := by
    have hcomma : (",".toList : List Char) = [','] := rfl
    rw [String.toList_append, String.toList_append, hcomma, List.append_assoc,
      List.singleton_append, List.splitOn_append_cons_self]
  rw [parseHubMeshOverrides, hsplit, readChunks_append]
  rfl

/-! ## The range of the ids -/

def FitsAddress (hubId : ℤ) : Prop := 0 ≤ hubId ∧ hubId ≤ 0xFFFF

theorem fitsAddress_of_pair {chunk : List Char} {mac : String} {hubId : ℤ}
    (h : readChunk chunk = .pair mac hubId) : FitsAddress hubId := by
  unfold readChunk at h
  dsimp only at h
  split_ifs at h
  split at h
  · cases h
  · split_ifs at h with hrange
    cases h
    exact hrange

theorem fitsAddress_of_mem_readChunks (chunks : List (List Char)) :
    ∀ item ∈ readChunks chunks, FitsAddress item.2 := by
  induction chunks with
  | nil => simp [readChunks]
  | cons chunk chunks ih =>
    have hone : ∀ item ∈ readChunks [chunk], FitsAddress item.2 := by
      change ∀ item ∈ (readChunk chunk).add [], FitsAddress item.2
      cases hread : readChunk chunk with
      | pair mac hubId =>
        simpa [ChunkRead.add, Dict.set, Dict.update] using fitsAddress_of_pair hread
      | _ => simp [ChunkRead.add]
    have hsplit : readChunks (chunk :: chunks) = (readChunks [chunk]).update (readChunks chunks) :=
      readChunks_append [chunk] chunks
    rw [hsplit]
    exact Dict.forall_mem_update hone ih

/-- An id in range has an address of two bytes, which reads it back. -/
theorem hubMeshAddress_of_fits {hubId : ℤ} (h : FitsAddress hubId) : ∃ address,
    hubMeshAddress none (some hubId) = .ok address ∧ (unpackU16 address : ℤ) = hubId := by
  refine ⟨packU16 (BitVec.ofInt 16 hubId), if_pos h, ?_⟩
  have hlow := h.1
  have hhigh := h.2
  rw [unpackU16_packU16, BitVec.toNat_ofInt]
  omega

/-! ## Written overrides -/

structure HubOverride where
  mac : String
  hubId : ℕ
  style : NumeralStyle
  nonempty : mac.toList ≠ []
  isUpper : upper mac.toList = mac.toList
  stripped : strip mac.toList = mac.toList
  noComma : ',' ∉ mac.toList
  noSep : '=' ∉ mac.toList
  fits : hubId ≤ 0xFFFF

def HubOverride.item (o : HubOverride) : String × ℤ := (o.mac, o.hubId)

/-- `f"{mac}={hub_id}"`. -/
def HubOverride.render (o : HubOverride) : String :=
  o.mac ++ "=" ++ String.ofList (numeral o.style o.hubId)

/-- A finite map from addresses to ids, in some order. -/
structure HubOverrides where
  overrides : List HubOverride
  distinct : (overrides.map HubOverride.mac).Nodup

def HubOverrides.items (m : HubOverrides) : Dict ℤ := m.overrides.map HubOverride.item

def HubOverrides.render (m : HubOverrides) : String :=
  ",".intercalate (m.overrides.map HubOverride.render)

namespace HubOverride

variable (o : HubOverride)

theorem toList_render : o.render.toList = o.mac.toList ++ '=' :: numeral o.style o.hubId := by
  have hsep : ("=".toList : List Char) = ['='] := rfl
  rw [render, String.toList_append, String.toList_append, hsep, String.toList_ofList,
    List.append_assoc, List.singleton_append]

theorem comma_notMem_render : ',' ∉ o.render.toList := by
  rw [toList_render, List.mem_append, List.mem_cons]
  rintro (hmac | hsep | hnumeral)
  · exact o.noComma hmac
  · cases hsep
  · exact notMem_numeral (by decide) hnumeral

theorem strip_numeral (style : NumeralStyle) (n : ℕ) : strip (numeral style n) = numeral style n :=
  strip_eq_self_iff.mpr
    ⟨fun c hc => (plain_of_mem_numeral c (List.mem_of_mem_head? hc)).noSpace,
      fun c hc => (plain_of_mem_numeral c (List.mem_of_getLast? hc)).noSpace⟩

theorem strip_render : strip o.render.toList = o.render.toList := by
  have hmac := strip_eq_self_iff.mp o.stripped
  have hnumeral := strip_eq_self_iff.mp (strip_numeral o.style o.hubId)
  rw [strip_eq_self_iff, toList_render]
  constructor
  · intro c hc
    rw [List.head?_append_of_ne_nil _ o.nonempty] at hc
    exact hmac.1 c hc
  · intro c hc
    rw [List.getLast?_append_of_ne_nil _ (List.cons_ne_nil _ _),
      List.getLast?_cons_of_ne_nil numeral_ne_nil] at hc
    exact hnumeral.2 c hc

theorem readChunk_render : readChunk o.render.toList = .pair o.mac o.hubId := by
  have hmac : ∀ c ∈ o.mac.toList, (c != '=') = true := by
    intro c hc
    exact bne_iff_ne.mpr fun heq => o.noSep (heq ▸ hc)
  have hfront : o.render.toList.takeWhile (fun c => c != '=') = o.mac.toList := by
    rw [toList_render, List.takeWhile_append_of_pos hmac]
    simp
  have hback : afterSep o.render.toList = numeral o.style o.hubId := by
    rw [afterSep, toList_render, List.dropWhile_append_of_pos hmac]
    rfl
  have hsep : '=' ∈ o.render.toList := by simp [toList_render]
  have hread : intLiteral (strip (numeral o.style o.hubId)) = some (o.hubId : ℤ) := by
    have hdigits : (Nat.toDigits 10 o.hubId).length ≤ 5 :=
      (Nat.length_toDigits_le_iff (by decide) (by decide)).mpr (o.fits.trans_lt (by decide))
    rw [strip_numeral, intLiteral_numeral (hdigits.trans (by decide))]
  have hfits : (0 : ℤ) ≤ o.hubId ∧ (o.hubId : ℤ) ≤ 0xFFFF := ⟨by omega, by exact_mod_cast o.fits⟩
  have hnonempty : o.render.toList.isEmpty = false :=
    List.isEmpty_eq_false_iff.mpr (List.ne_nil_of_mem hsep)
  unfold readChunk
  dsimp only
  rw [strip_render, hnonempty, if_neg (by decide), if_neg (not_not_intro hsep), hback, hread]
  dsimp only
  rw [if_pos hfits, hfront, o.stripped, o.isUpper, String.ofList_toList]

end HubOverride

theorem readChunks_render {overrides : List HubOverride}
    (h : (overrides.map HubOverride.mac).Nodup) :
    readChunks (overrides.map fun o => o.render.toList) = overrides.map HubOverride.item := by
  induction overrides with
  | nil => rfl
  | cons o overrides ih =>
    obtain ⟨hfresh, hdistinct⟩ := List.nodup_cons.mp h
    have hone : readChunks [o.render.toList] = [o.item] := by
      change (readChunk o.render.toList).add [] = _
      rw [o.readChunk_render]
      rfl
    have hkeys : (overrides.map HubOverride.item).map Prod.fst = overrides.map HubOverride.mac := by
      rw [List.map_map]
      rfl
    have hsplit := readChunks_append [o.render.toList] (overrides.map fun o => o.render.toList)
    rw [hone, ih hdistinct, Dict.update_of_disjoint] at hsplit
    · exact hsplit
    · intro k hk hmem
      rw [Dict.keys, hkeys] at hk
      obtain rfl : k = o.mac := List.mem_singleton.mp hmem
      exact hfresh hk

theorem parseHubMeshOverrides_render (m : HubOverrides) :
    parseHubMeshOverrides m.render = m.items := by
  rcases List.eq_nil_or_concat m.overrides with hnil | ⟨init, last, hlast⟩
  · have hrender : m.render = "" := by
      rw [HubOverrides.render, hnil]
      rfl
    rw [hrender, HubOverrides.items, hnil]
    decide +kernel
  · have hne : m.overrides.map (fun o => o.render.toList) ≠ [] := by simp [hlast]
    have hsplit : m.render.toList.splitOn ',' = m.overrides.map fun o => o.render.toList := by
      have hcomma : (",".toList : List Char) = [','] := rfl
      rw [HubOverrides.render, String.toList_intercalate, List.map_map, hcomma]
      refine List.splitOn_intercalate ',' ?_ hne
      intro cs hcs
      obtain ⟨o, -, rfl⟩ := List.mem_map.mp hcs
      exact o.comma_notMem_render
    rw [parseHubMeshOverrides, hsplit, readChunks_render m.distinct]
    rfl

/-- Overrides are read pair by pair, into ids which have an address, and a map which is written
down is read back. -/
theorem parseHubMeshOverrides_spec :
    (∀ a b, parseHubMeshOverrides (a ++ "," ++ b) =
      (parseHubMeshOverrides a).update (parseHubMeshOverrides b)) ∧
    (∀ raw, ∀ item ∈ parseHubMeshOverrides raw, FitsAddress item.2 ∧
      ∃ address, hubMeshAddress none (some item.2) = .ok address ∧
        (unpackU16 address : ℤ) = item.2) ∧
    ∀ m : HubOverrides, parseHubMeshOverrides m.render = m.items := by
  refine ⟨parseHubMeshOverrides_append, ?_, parseHubMeshOverrides_render⟩
  intro raw item hitem
  have hfits : FitsAddress item.2 := fitsAddress_of_mem_readChunks _ item hitem
  exact ⟨hfits, hubMeshAddress_of_fits hfits⟩

/-- Two timers, the id of one in decimal and that of the other in hex. -/
def twoTimers : HubOverrides where
  overrides := [
    { mac := "AA:BB:CC:DD:EE:FF"
      hubId := 25190
      style := .decimal
      nonempty := by decide
      isUpper := by decide +kernel
      stripped := by decide +kernel
      noComma := by decide
      noSep := by decide
      fits := by decide },
    { mac := "11:22:33:44:55:66"
      hubId := 0xD747
      style := .hex false
      nonempty := by decide
      isUpper := by decide +kernel
      stripped := by decide +kernel
      noComma := by decide
      noSep := by decide
      fits := by decide }]
  distinct := by decide

theorem parseHubMeshOverrides_spec_twoTimers :
    parseHubMeshOverrides "AA:BB:CC:DD:EE:FF=25190,11:22:33:44:55:66=0xd747" =
      [("AA:BB:CC:DD:EE:FF", 25190), ("11:22:33:44:55:66", 55111)] := by
  have hrender : twoTimers.render = "AA:BB:CC:DD:EE:FF=25190,11:22:33:44:55:66=0xd747" := by
    decide +kernel
  rw [← hrender, parseHubMeshOverrides_spec.2.2 twoTimers]
  rfl

end OrbitBhyve.Devices
