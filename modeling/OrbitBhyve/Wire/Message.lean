import OrbitBhyve.Python.Errors
import OrbitBhyve.Wire.Protobuf
import Mathlib.Data.List.GetD

/-!
# Inner messages

`AA 77 5A 0F | payload_len | 00 | protobuf | CRC16-CCITT`. A body is framed by
`_build_message`, read back by `decode_inner`, and found in a reassembled
stream by `split_inner_messages`, which skips to the next header and stops at
the first header whose message is not complete.
-/

namespace OrbitBhyve.Wire

open Foundation Python

def MSG_HEADER : Bytes := [0xAA, 0x77, 0x5A, 0x0F]

/-! ## CRC -/

/-- One round of the inner loop of `_crc16_ccitt`. -/
def crcBit (crc : BitVec 16) : BitVec 16 :=
  if crc &&& 0x8000#16 ≠ 0 then (crc <<< 1) ^^^ 0x1021#16 else crc <<< 1

def crcByte (crc : BitVec 16) (b : UInt8) : BitVec 16 :=
  crcBit^[8] (crc ^^^ (BitVec.ofNat 16 b.toNat <<< 8))

def crc16Ccitt (data : Bytes) (init : BitVec 16) : BitVec 16 := data.foldl crcByte init

/-- `struct.pack("<H", v)`. -/
def packU16 (v : BitVec 16) : Bytes := [UInt8.ofNat (v.toNat % 256), UInt8.ofNat (v.toNat / 256)]

/-- `struct.unpack("<H", data)[0]` on two bytes. -/
def unpackU16 (data : Bytes) : ℕ := (data.getD 0 0).toNat + 256 * (data.getD 1 0).toNat

theorem unpackU16_packU16 (v : BitVec 16) : unpackU16 (packU16 v) = v.toNat := by
  have := v.isLt
  simp only [unpackU16, packU16, List.getD_cons_zero, List.getD_cons_succ,
    toNat_ofNat_of_lt (show v.toNat % 256 < 256 by omega),
    toNat_ofNat_of_lt (show v.toNat / 256 < 256 by omega)]
  omega

/-! ## Framing -/

/-- The framed message before its checksum. -/
def messageHead (protobuf : Bytes) : Bytes :=
  MSG_HEADER ++ [UInt8.ofNat (protobuf.length + 2), 0x00] ++ protobuf

/-- `_build_message`. The length byte refuses a payload above 255. -/
def buildMessage (protobuf : Bytes) : Except PyErr Bytes :=
  if protobuf.length + 2 > 255 then .error .valueError
  else
    let msg := messageHead protobuf
    .ok (msg ++ packU16 (crc16Ccitt msg 0))

def decodeInner (pt : Bytes) : Option Bytes :=
  if pt.length < 6 ∨ pt.take 4 ≠ MSG_HEADER then none
  else
    let payloadLen := (pt.getD 4 0).toNat
    let pbEnd := 4 + payloadLen
    if payloadLen < 2 ∨ pt.length < pbEnd + 2 then none
    else
      let protobuf := (pt.take pbEnd).drop 6
      let crcRx := unpackU16 ((pt.drop pbEnd).take 2)
      if crcRx ≠ (crc16Ccitt (pt.take pbEnd) 0).toNat then none else some protobuf

/-- `stream.find(MSG_HEADER)`, as the suffix which starts at the header. -/
def findHeader : Bytes → Option Bytes
  | [] => none
  | b :: rest => if MSG_HEADER.isPrefixOf (b :: rest) then some (b :: rest) else findHeader rest

/-- One round of the `split_inner_messages` loop on the unread stream: `none`
leaves the loop, and a message with a bad checksum is skipped. -/
def scanMessage (stream : Bytes) : Option (Option Bytes × Bytes) :=
  if stream.length < 6 then none
  else
    match findHeader stream with
    | none => none
    | some found =>
      if found.length < 6 then none
      else
        let payloadLen := (found.getD 4 0).toNat
        let total := payloadLen + 6
        -- incomplete trailing message
        if payloadLen < 2 ∨ found.length < total then none
        else some (decodeInner (found.take total), found.drop total)

def splitInnerMessages (stream : Bytes) : List Bytes :=
  (parseWhile scanMessage stream).filterMap id

/-- A protobuf body short enough for the one-byte length. -/
structure Body where
  pb : Bytes
  fits : pb.length ≤ 253

namespace Body

def frame (b : Body) : Bytes := messageHead b.pb ++ packU16 (crc16Ccitt (messageHead b.pb) 0)

theorem buildMessage_eq (b : Body) : buildMessage b.pb = .ok b.frame := by
  have := b.fits
  rw [buildMessage, if_neg (by omega)]
  rfl

end Body

theorem buildMessage_ok {pb msg : Bytes} (h : buildMessage pb = .ok msg) :
    ∃ b : Body, b.pb = pb ∧ b.frame = msg := by
  unfold buildMessage at h
  split_ifs at h with hl
  simp only [Except.ok.injEq] at h
  exact ⟨⟨pb, by omega⟩, rfl, h⟩

@[simp] theorem length_messageHead (pb : Bytes) : (messageHead pb).length = pb.length + 6 := by
  simp [messageHead, MSG_HEADER]

@[simp] theorem length_packU16 (v : BitVec 16) : (packU16 v).length = 2 := rfl

@[simp] theorem Body.length_frame (b : Body) : b.frame.length = b.pb.length + 8 := by
  simp [Body.frame]

theorem Body.frame_eq (b : Body) : b.frame =
    0xAA :: 0x77 :: 0x5A :: 0x0F :: UInt8.ofNat (b.pb.length + 2) :: 0x00 ::
      (b.pb ++ packU16 (crc16Ccitt (messageHead b.pb) 0)) := by
  simp [Body.frame, messageHead, MSG_HEADER]

theorem Body.take_header (b : Body) (rest : Bytes) : (b.frame ++ rest).take 4 = MSG_HEADER := by
  simp [Body.frame_eq, MSG_HEADER]

theorem Body.length_byte (b : Body) (rest : Bytes) :
    ((b.frame ++ rest).getD 4 0).toNat = b.pb.length + 2 := by
  have := b.fits
  rw [Body.frame_eq]
  exact toNat_ofNat_of_lt (by omega)

/-- A framed body at the front is decoded, whatever bytes follow it. -/
theorem decodeInner_frame_append (b : Body) (rest : Bytes) :
    decodeInner (b.frame ++ rest) = some b.pb := by
  have hlen : (b.frame ++ rest).length = b.pb.length + 8 + rest.length := by simp
  have hhead : (b.frame ++ rest).take (4 + (b.pb.length + 2)) = messageHead b.pb := by
    rw [Body.frame, List.append_assoc, List.take_append_of_le_length (by simp; omega)]
    exact List.take_of_length_le (by simp; omega)
  have htail : ((b.frame ++ rest).drop (4 + (b.pb.length + 2))).take 2 =
      packU16 (crc16Ccitt (messageHead b.pb) 0) := by
    rw [Body.frame, List.append_assoc, show 4 + (b.pb.length + 2) = (messageHead b.pb).length from by
      simp; omega, List.drop_left]
    rfl
  have hbody : (messageHead b.pb).drop 6 = b.pb := by simp [messageHead, MSG_HEADER]
  unfold decodeInner
  rw [if_neg (by rw [b.take_header]; simp only [hlen, ne_eq, not_true_eq_false, or_false]; omega),
    b.length_byte]
  simp only [hhead, htail, hbody, hlen, unpackU16_packU16]
  rw [if_neg (by omega)]
  simp

theorem decodeInner_frame (b : Body) : decodeInner b.frame = some b.pb := by
  simpa using decodeInner_frame_append b []

theorem findHeader_of_take {stream : Bytes} (h : stream.take 4 = MSG_HEADER) :
    findHeader stream = some stream := by
  cases stream with
  | nil => simp [MSG_HEADER] at h
  | cons b rest =>
    have hpre : MSG_HEADER.isPrefixOf (b :: rest) = true := by
      rw [List.isPrefixOf_iff_prefix, ← h]
      exact List.take_prefix _ _
    simp [findHeader, hpre]

theorem findHeader_length {stream found : Bytes} (h : findHeader stream = some found) :
    found.length ≤ stream.length := by
  induction stream with
  | nil => simp [findHeader] at h
  | cons b rest ih =>
    simp only [findHeader] at h
    split_ifs at h
    · simp only [Option.some.injEq] at h
      simp [← h]
    · exact (ih h).trans (by simp)

theorem scanMessage_consumes : Parser.Consumes scanMessage := by
  intro data a rest h
  unfold scanMessage at h
  split_ifs at h
  cases hf : findHeader data with
  | none => simp [hf] at h
  | some found =>
    have hle := findHeader_length hf
    simp only [hf] at h
    split_ifs at h
    simp only [Option.some.injEq, Prod.mk.injEq] at h
    rw [← h.2, List.length_drop]
    omega

theorem scanMessage_frame_append (b : Body) (rest : Bytes) :
    scanMessage (b.frame ++ rest) = some (some b.pb, rest) := by
  have hlen : (b.frame ++ rest).length = b.pb.length + 8 + rest.length := by simp
  have htotal : b.pb.length + 2 + 6 = b.frame.length := by simp
  unfold scanMessage
  rw [if_neg (by omega), findHeader_of_take (b.take_header rest)]
  simp only [b.length_byte]
  rw [if_neg (by omega), if_neg (by omega), htotal, List.take_left, List.drop_left,
    decodeInner_frame]

theorem scanMessage_inverts :
    Parser.Inverts scanMessage Body.frame (fun b => some b.pb) (fun _ => True) :=
  fun b rest _ => scanMessage_frame_append b rest

/-- The loop leaves at a message which the stream cuts short. -/
theorem scanMessage_of_cut (b : Body) {tail : Bytes} (h : tail <+: b.frame)
    (hne : tail ≠ b.frame) : scanMessage tail = none := by
  obtain ⟨rest, hrest⟩ := h
  have hlt : tail.length < b.pb.length + 8 := by
    have hlen := congrArg List.length hrest
    have hrne : rest ≠ [] := fun hr => hne (by simpa [hr] using hrest)
    have := List.length_pos_iff.mpr hrne
    simp only [List.length_append, Body.length_frame] at hlen
    omega
  unfold scanMessage
  split_ifs with hshort
  · rfl
  · have htake : tail.take 4 = MSG_HEADER := by
      have := b.take_header []
      rw [List.append_nil, ← hrest, List.take_append_of_le_length (by omega)] at this
      exact this
    have hbyte : (tail.getD 4 0).toNat = b.pb.length + 2 := by
      have := b.length_byte []
      rw [List.append_nil, ← hrest, List.getD_append _ _ _ _ (by omega)] at this
      exact this
    rw [findHeader_of_take htake]
    simp only [hbyte]
    rw [if_neg (by omega), if_pos (by omega)]

/-- Framing round trip with truncation: exactly the complete messages are found. -/
theorem splitInnerMessages_frames_append (bodies : List Body) (b : Body) {tail : Bytes}
    (h : tail <+: b.frame) (hne : tail ≠ b.frame) :
    splitInnerMessages (bodies.flatMap Body.frame ++ tail) = bodies.map Body.pb := by
  rw [splitInnerMessages, parseWhile_flatMap_append scanMessage_consumes scanMessage_inverts bodies
    (fun _ _ => trivial), parseWhile_of_none (scanMessage_of_cut b h hne)]
  simp [List.filterMap_map]

theorem splitInnerMessages_frames (bodies : List Body) :
    splitInnerMessages (bodies.flatMap Body.frame) = bodies.map Body.pb := by
  simpa using splitInnerMessages_frames_append bodies ⟨[], by simp⟩ ⟨_, List.nil_append _⟩
    (by simp [Body.frame_eq])

theorem exists_bodies {pbs : List Bytes} (h : ∀ pb ∈ pbs, pb.length ≤ 253) :
    ∃ bodies : List Body, pbs = bodies.map Body.pb := by
  induction pbs with
  | nil => exact ⟨[], rfl⟩
  | cons pb pbs ih =>
    obtain ⟨bodies, hbodies⟩ := ih fun b hb => h b (List.mem_cons_of_mem _ hb)
    have hpb : pb.length ≤ 253 := h pb List.mem_cons_self
    exact ⟨⟨pb, hpb⟩ :: bodies, congrArg (pb :: ·) hbodies⟩

theorem mapM_buildMessage (bodies : List Body) :
    (bodies.map Body.pb).mapM buildMessage = .ok (bodies.map Body.frame) := by
  induction bodies with
  | nil => rfl
  | cons b bodies ih =>
    rw [List.map_cons, List.mapM_cons, b.buildMessage_eq, ih]
    rfl

/-- Built frames give back the bodies they were built from. -/
theorem splitInnerMessages_built {bodies : List Bytes} (h : ∀ pb ∈ bodies, pb.length ≤ 253) :
    ∃ frames, bodies.mapM buildMessage = .ok frames ∧
      splitInnerMessages frames.flatten = bodies := by
  obtain ⟨framed, rfl⟩ := exists_bodies h
  refine ⟨framed.map Body.frame, mapM_buildMessage framed, ?_⟩
  rw [← List.flatMap_def]
  exact splitInnerMessages_frames framed

/-- Built frames, the last one cut short, give back the bodies they were built from. -/
theorem splitInnerMessages_truncated (bodies : List Bytes) (pb : Bytes)
    (hbodies : ∀ b ∈ bodies, b.length ≤ 253) (hpb : pb.length ≤ 253) :
    ∃ frames msg, bodies.mapM buildMessage = .ok frames ∧ buildMessage pb = .ok msg ∧
      ∀ tail, tail <+: msg → tail ≠ msg →
        splitInnerMessages (frames.flatten ++ tail) = bodies := by
  obtain ⟨framed, rfl⟩ := exists_bodies hbodies
  refine ⟨framed.map Body.frame, Body.frame ⟨pb, hpb⟩, mapM_buildMessage framed,
    Body.buildMessage_eq ⟨pb, hpb⟩, ?_⟩
  intro tail htail hne
  rw [← List.flatMap_def]
  exact splitInnerMessages_frames_append framed ⟨pb, hpb⟩ htail hne

/-- The second message lacks its last checksum byte. -/
theorem splitInnerMessages_truncated_header_bytes :
    ∃ frames msg, [MSG_HEADER].mapM buildMessage = .ok frames ∧ buildMessage [] = .ok msg ∧
      ∀ tail, tail <+: msg → tail ≠ msg →
        splitInnerMessages (frames.flatten ++ tail) = [MSG_HEADER] :=
  splitInnerMessages_truncated [MSG_HEADER] [] (by decide) (by decide)

end OrbitBhyve.Wire
