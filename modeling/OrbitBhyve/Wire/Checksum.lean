import OrbitBhyve.Foundation.Crc
import OrbitBhyve.Wire.Message

/-!
# What the checksum protects

`_crc16_ccitt` is the 16-bit register with generator `0x1021`, fed byte by
byte. Two bytes in a row fill the register, so a message in which two
neighbouring bytes were changed at most has another checksum.
-/

namespace OrbitBhyve.Wire

open Foundation

/-! ## The register -/

theorem crcBit_eq_step : crcBit = Crc.step 0x1021#16 := by
  funext c
  have hmask : c &&& 0x8000#16 = if c.getLsbD 15 then BitVec.twoPow 16 15 else 0#16 :=
    BitVec.and_twoPow c 15
  unfold crcBit Crc.step
  rw [hmask, BitVec.msb_eq_getLsbD_last]
  cases c.getLsbD (16 - 1) <;> rfl

def byteWord (b : UInt8) : BitVec 16 := BitVec.ofNat 16 b.toNat

theorem crcByte_eq_feed (s : BitVec 16) (b : UInt8) :
    crcByte s b = Crc.feed 0x1021#16 8 s (byteWord b) := by
  rw [crcByte, crcBit_eq_step]
  rfl

theorem crcByte_injective_state (b : UInt8) : Function.Injective fun s => crcByte s b := by
  simp only [crcByte_eq_feed]
  exact Crc.feed_injective_state (by decide) 8 _

theorem toNat_byteWord_lt (b : UInt8) : (byteWord b).toNat < 2 ^ 8 := by
  have := b.toNat_lt
  rw [byteWord, BitVec.toNat_ofNat]
  omega

theorem byteWord_injective : Function.Injective byteWord := by
  intro a b h
  have ha := a.toNat_lt
  have hb := b.toNat_lt
  have hval := congrArg BitVec.toNat h
  simp only [byteWord, BitVec.toNat_ofNat] at hval
  apply UInt8.toNat_inj.mp
  omega

theorem crcByte_injective_byte (s : BitVec 16) : Function.Injective (crcByte s) := by
  intro a b h
  rw [crcByte_eq_feed, crcByte_eq_feed] at h
  apply byteWord_injective
  exact Crc.feed_injective_word (by decide) (by decide) s (toNat_byteWord_lt a)
    (toNat_byteWord_lt b) h

/-- The word which two bytes in a row make up. -/
def wordOf (a b : UInt8) : BitVec 16 := (byteWord a <<< 8) ^^^ byteWord b

theorem wordOf_injective {a b a' b' : UInt8} (h : wordOf a b = wordOf a' b') :
    a = a' ∧ b = b' := by
  have hshift : ∀ x y, wordOf x y <<< 8 = byteWord y <<< 8 := by
    intro x y
    rw [wordOf, BitVec.shiftLeft_xor_distrib, ← BitVec.shiftLeft_add,
      BitVec.shiftLeft_eq_zero (by decide), BitVec.zero_xor]
  have hlow : byteWord b = byteWord b' := by
    apply Crc.eq_of_shiftLeft (show 8 ≤ 16 by decide) (toNat_byteWord_lt b) (toNat_byteWord_lt b')
    rw [← hshift a b, ← hshift a' b', h]
  have hhigh : byteWord a = byteWord a' := by
    apply Crc.eq_of_shiftLeft (show 8 ≤ 16 by decide) (toNat_byteWord_lt a) (toNat_byteWord_lt a')
    rw [wordOf, wordOf, hlow] at h
    exact (BitVec.xor_left_inj _).mp h
  exact ⟨byteWord_injective hhigh, byteWord_injective hlow⟩

theorem crcByte_crcByte (s : BitVec 16) (a b : UInt8) :
    crcByte (crcByte s a) b = Crc.feed 0x1021#16 16 s (wordOf a b) := by
  rw [crcByte_eq_feed, crcByte_eq_feed, Crc.feed_feed (by decide) _ _
    (toNat_byteWord_lt b)]
  rfl

/-- Two bytes in a row leave different registers behind unless both are the same. -/
theorem crcByte_crcByte_inj {s : BitVec 16} {a b a' b' : UInt8}
    (h : crcByte (crcByte s a) b = crcByte (crcByte s a') b') : a = a' ∧ b = b' := by
  rw [crcByte_crcByte, crcByte_crcByte] at h
  apply wordOf_injective
  exact Crc.feed_injective_word (by decide) le_rfl s (BitVec.isLt _) (BitVec.isLt _) h

/-! ## Windows of two bytes -/

theorem foldl_crcByte_injective (data : Bytes) :
    Function.Injective fun s => data.foldl crcByte s := by
  induction data with
  | nil => exact fun s s' h => h
  | cons b data ih => exact fun s s' h => crcByte_injective_state b (ih h)

/-- Changed bytes in one window of two always change the register. -/
theorem foldl_crcByte_ne {i : ℕ} {data data' : Bytes} (hlen : data.length = data'.length)
    (hwindow : ∀ j, data[j]? ≠ data'[j]? → j = i ∨ j = i + 1) (hne : data ≠ data')
    (s : BitVec 16) : data.foldl crcByte s ≠ data'.foldl crcByte s := by
  induction data generalizing i data' s with
  | nil => exact absurd (List.length_eq_zero_iff.mp hlen.symm).symm hne
  | cons a data ih =>
    obtain ⟨a', data', rfl⟩ : ∃ a' rest, data' = a' :: rest :=
      List.exists_cons_of_length_eq_add_one hlen.symm
    rw [List.length_cons, List.length_cons, Nat.add_right_cancel_iff] at hlen
    have htail : ∀ j, data[j]? ≠ data'[j]? → j + 1 = i ∨ j + 1 = i + 1 :=
      fun j hj => hwindow (j + 1) (by simpa using hj)
    cases i with
    | succ i =>
      have hhead : a = a' := by
        by_contra hdiff
        have := hwindow 0 (by simpa using hdiff)
        omega
      subst hhead
      have hrest : ∀ j, data[j]? ≠ data'[j]? → j = i ∨ j = i + 1 := by
        intro j hj
        have := htail j hj
        omega
      exact ih hlen hrest (fun heq => hne (by rw [heq])) _
    | zero =>
      cases data with
      | nil =>
        obtain rfl : data' = [] := List.length_eq_zero_iff.mp hlen.symm
        intro heq
        exact hne (by rw [crcByte_injective_byte s heq])
      | cons b rest =>
        obtain ⟨b', rest', rfl⟩ : ∃ b' rest', data' = b' :: rest' :=
          List.exists_cons_of_length_eq_add_one hlen.symm
        have hsame : rest = rest' := by
          apply List.ext_getElem?
          intro j
          by_contra hj
          have := htail (j + 1) (by simpa using hj)
          omega
        subst hsame
        intro heq
        simp only [List.foldl_cons] at heq
        have hstates : crcByte (crcByte s a) b = crcByte (crcByte s a') b' :=
          foldl_crcByte_injective rest heq
        obtain ⟨rfl, rfl⟩ := crcByte_crcByte_inj hstates
        exact hne rfl

/-- What `decode_inner` compares: the checksum received with that of the bytes before it. -/
theorem decodeInner_eq_none {pt head : Bytes} {crc : BitVec 16} (h : pt = head ++ packU16 crc)
    (hbyte : (pt.getD 4 0).toNat + 4 = head.length) (hcrc : crc16Ccitt head 0 ≠ crc) :
    decodeInner pt = none := by
  have htake : pt.take (4 + (pt.getD 4 0).toNat) = head := by
    rw [Nat.add_comm, hbyte, h, List.take_left]
  have hdrop : (pt.drop (4 + (pt.getD 4 0).toNat)).take 2 = packU16 crc := by
    rw [Nat.add_comm, hbyte, h, List.drop_left]
    rfl
  unfold decodeInner
  simp only [htake, hdrop, unpackU16_packU16]
  split_ifs with hshort hlen hsame
  · rfl
  · rfl
  · rfl
  · exact absurd (BitVec.eq_of_toNat_eq (not_ne_iff.mp hsame)).symm hcrc

/-- A built message in which one window of two bytes after the length byte was changed, the
checksum excepted, does not decode. -/
theorem decodeInner_corrupted (body msg msg' : Bytes) (i : ℕ) (hmsg : buildMessage body = .ok msg)
    (hlen : msg'.length = msg.length) (hne : msg' ≠ msg)
    (hwindow : ∀ j, msg'[j]? ≠ msg[j]? → (j = i ∨ j = i + 1) ∧ 5 ≤ j ∧ j ≤ 5 + body.length) :
    decodeInner msg' = none := by
  obtain ⟨b, rfl, rfl⟩ := buildMessage_ok hmsg
  set crc := crc16Ccitt (messageHead b.pb) 0 with hcrc
  set n := b.pb.length + 6 with hn
  have hhead : b.frame.take n = messageHead b.pb := by
    rw [Body.frame, List.take_left' (length_messageHead b.pb)]
  have hsum : b.frame.drop n = packU16 crc := by
    rw [Body.frame, List.drop_left' (length_messageHead b.pb)]
  have hsum' : msg'.drop n = packU16 crc := by
    rw [← hsum]
    apply List.ext_getElem?
    intro j
    rw [List.getElem?_drop, List.getElem?_drop]
    by_contra hj
    have := (hwindow _ hj).2
    omega
  have hsplit : msg' = msg'.take n ++ packU16 crc := by rw [← hsum', List.take_append_drop]
  have hlenhead : (msg'.take n).length = (messageHead b.pb).length := by
    rw [List.length_take, hlen, Body.length_frame, length_messageHead]
    omega
  have hbyte : (msg'.getD 4 0).toNat + 4 = (msg'.take n).length := by
    have hsame : msg'[4]? = b.frame[4]? := by
      by_contra hj
      have := (hwindow 4 hj).2
      omega
    have := b.length_byte []
    rw [List.append_nil, List.getD_eq_getElem?_getD] at this
    rw [List.getD_eq_getElem?_getD, hsame, this, hlenhead, length_messageHead]
  refine decodeInner_eq_none hsplit hbyte ?_
  rw [hcrc]
  refine foldl_crcByte_ne (i := i) hlenhead ?_ ?_ 0
  · intro j hj
    rw [← hhead] at hj
    rcases Nat.lt_or_ge j n with hjn | hjn
    · rw [List.getElem?_take_of_lt hjn, List.getElem?_take_of_lt hjn] at hj
      exact (hwindow j hj).1
    · rw [List.getElem?_take_eq_none hjn, List.getElem?_take_eq_none hjn] at hj
      exact absurd rfl hj
  · intro heq
    apply hne
    rw [hsplit, heq]
    rfl

/-- Messages with the same end differ before it. -/
theorem getElem?_append_ne {front front' back : Bytes} {j : ℕ}
    (hlen : front.length = front'.length) (h : (front ++ back)[j]? ≠ (front' ++ back)[j]?) :
    j < front.length ∧ front[j]? ≠ front'[j]? := by
  rcases Nat.lt_or_ge j front.length with hlt | hge
  · rw [List.getElem?_append_left hlt, List.getElem?_append_left (hlen ▸ hlt)] at h
    exact ⟨hlt, h⟩
  · rw [List.getElem?_append_right hge, List.getElem?_append_right (hlen ▸ hge), hlen] at h
    exact absurd rfl h

/-- Both bytes of a two-byte body. -/
theorem decodeInner_corrupted_body :
    decodeInner (messageHead [0x09, 0x02] ++ packU16 (crc16Ccitt (messageHead [0x08, 0x01]) 0)) =
      none :=
  decodeInner_corrupted [0x08, 0x01] (Body.frame ⟨[0x08, 0x01], by decide⟩) _ 6 rfl rfl
    (by decide +kernel) (by
      intro j hj
      simp only [Body.frame] at hj
      obtain ⟨hlt, hdiff⟩ := getElem?_append_ne (by rfl) hj
      have hall : ∀ k < 8, (messageHead [0x09, 0x02])[k]? ≠ (messageHead [0x08, 0x01])[k]? →
          (k = 6 ∨ k = 7) ∧ 5 ≤ k ∧ k ≤ 7 := by decide
      exact hall j hlt hdiff)

end OrbitBhyve.Wire
