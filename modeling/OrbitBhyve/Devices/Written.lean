import OrbitBhyve.Devices.Messages

/-!
# What a write tells the device

The device parses what is written to it with the same grammar. A built message
carries one top-level field, so it says nothing under any other number.
-/

namespace OrbitBhyve.Devices

open Foundation Python Wire

/-- The block of a written message under a top-level field number. -/
def writtenField (num : ℕ) (pt : Bytes) : Option Bytes :=
  match decodeInner pt with
  | none => none
  | some pb =>
    match pbField (pbParse pb) num with
    | some (.bytes block) => some block
    | _ => none

/-- Whatever message is built from the body is `ok`. -/
def Sends (ok : Bytes → Prop) (pb : Bytes) : Prop := ∀ msg, buildMessage pb = .ok msg → ok msg

theorem writtenField_of_buildMessage {f num : ℕ} {block msg : Bytes}
    (h : buildMessage (pbFieldBytes f block) = .ok msg) :
    writtenField num msg = if num = f then some block else none := by
  obtain ⟨b, hb, rfl⟩ := buildMessage_ok h
  rw [writtenField, decodeInner_frame, hb]
  dsimp only
  rw [pbParse_pbFieldBytes, pbField_cons, Field.blob_num, Field.blob_val, pbField_nil]
  by_cases hnum : num = f
  · rw [if_pos hnum.symm, if_pos hnum]
  · rw [if_neg (Ne.symm hnum), if_neg hnum]

theorem REQUEST_STATUS_PB_eq : REQUEST_STATUS_PB = pbFieldBytes 15 [] := by decide +kernel

theorem FLOW_SUBSCRIBE_PB_eq :
    FLOW_SUBSCRIBE_PB = pbFieldBytes 57 [0x08, 0xE8, 0x07, 0x10, 0x02] := by
  decide +kernel

theorem FLOW_UNSUBSCRIBE_PB_eq : FLOW_UNSUBSCRIBE_PB = pbFieldBytes 57 [0x08, 0x00, 0x10, 0x02] := by
  decide +kernel

end OrbitBhyve.Devices
