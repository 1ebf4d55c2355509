import OrbitBhyve.Wire.Message

/-!
# Headers in a stream of messages

Messages are framed back to back. In a stream of plain bodies the header can
only stand where a message starts, so a cut of the stream which decodes at all
starts with a whole message.
-/

namespace OrbitBhyve.Wire

/-- A body in which the header cannot start: it is too short, or its first byte is not there. -/
def Body.Plain (b : Body) : Prop := b.pb.length ≤ 1 ∨ 0xAA ∉ b.pb

theorem getElem?_of_take_header {s : Bytes} {k : ℕ} (h : (s.drop k).take 4 = MSG_HEADER) :
    s[k]? = some 0xAA ∧ s[k + 1]? = some 0x77 ∧ s[k + 2]? = some 0x5A ∧ s[k + 3]? = some 0x0F := by
  have hget : ∀ i, i < 4 → s[k + i]? = MSG_HEADER[i]? := by
    intro i hi
    rw [← h, List.getElem?_take_of_lt hi, List.getElem?_drop]
  exact ⟨hget 0 (by decide), hget 1 (by decide), hget 2 (by decide), hget 3 (by decide)⟩

/-- A stream is empty or starts with the header's first byte. -/
theorem head?_flatMap_frame (bodies : List Body) {b : UInt8}
    (h : (bodies.flatMap Body.frame)[0]? = some b) : b = 0xAA := by
  cases bodies with
  | nil => simp at h
  | cons c bs =>
    rw [List.flatMap_cons, Body.frame_eq] at h
    simpa using h.symm

/-- No header starts strictly inside a plain message, the next one's first bytes included. -/
theorem not_header_inside {b : Body} (hb : b.Plain) (bodies : List Body) {k : ℕ} (hpos : 0 < k)
    (hk : k < b.frame.length) :
    ((b.frame ++ bodies.flatMap Body.frame).drop k).take 4 ≠ MSG_HEADER := by
  intro h
  obtain ⟨h₀, h₁, h₂, h₃⟩ := getElem?_of_take_header h
  set t := bodies.flatMap Body.frame
  set crc := packU16 (crc16Ccitt (messageHead b.pb) 0) with hcrc
  have hlen : crc.length = 2 := rfl
  rw [Body.length_frame] at hk
  have hframe : b.frame ++ t = [0xAA, 0x77, 0x5A, 0x0F, UInt8.ofNat (b.pb.length + 2), 0x00] ++
      (b.pb ++ (crc ++ t)) := by
    rw [Body.frame_eq, ← hcrc]
    simp
  have hbody : ∀ j, (b.frame ++ t)[6 + j]? = (b.pb ++ (crc ++ t))[j]? := by
    intro j
    rw [hframe, List.getElem?_append_right (by simp)]
    simp
  have hnext : ∀ {x : UInt8}, (b.pb ++ (crc ++ t))[b.pb.length + 2]? = some x → x = 0xAA := by
    intro x hx
    rw [List.getElem?_append_right (by omega), List.getElem?_append_right (by omega)] at hx
    exact head?_flatMap_frame bodies (by simpa [hlen] using hx)
  by_cases hsix : k < 6
  · interval_cases k <;> simp [hframe] at h₀ h₁
  · obtain ⟨j, rfl⟩ : ∃ j, k = 6 + j := ⟨k - 6, by omega⟩
    rw [hbody] at h₀
    rw [Nat.add_assoc, hbody] at h₁ h₂ h₃
    rcases Nat.lt_or_ge j b.pb.length with hj | hj
    · rw [List.getElem?_append_left hj] at h₀
      have hmem : (0xAA : UInt8) ∈ b.pb := List.mem_of_getElem? h₀
      have hshort : b.pb.length ≤ 1 := hb.resolve_right fun h => h hmem
      have hend : j + 3 = b.pb.length + 2 := by omega
      rw [hend] at h₃
      exact absurd (hnext h₃) (by decide)
    · rcases Nat.lt_or_ge b.pb.length j with hj' | hj'
      · have hend : j + 1 = b.pb.length + 2 := by omega
        rw [hend] at h₁
        exact absurd (hnext h₁) (by decide)
      · have hend : j + 2 = b.pb.length + 2 := by omega
        rw [hend] at h₂
        exact absurd (hnext h₂) (by decide)

/-- In a stream of plain bodies a header only stands where a message starts. -/
theorem header_starts_message {bodies : List Body} (hplain : ∀ b ∈ bodies, b.Plain)
    {before rest : Bytes} (h : before ++ rest = bodies.flatMap Body.frame)
    (hrest : rest.take 4 = MSG_HEADER) :
    ∃ bs₁ bs₂, bodies = bs₁ ++ bs₂ ∧ before = bs₁.flatMap Body.frame ∧
      rest = bs₂.flatMap Body.frame := by
  induction bodies generalizing before with
  | nil =>
    have hnil : rest = [] := by simp_all
    simp [hnil, MSG_HEADER] at hrest
  | cons b bs ih =>
    rcases Nat.eq_zero_or_pos before.length with hzero | hpos
    · have hnil : before = [] := List.length_eq_zero_iff.mp hzero
      subst hnil
      exact ⟨[], b :: bs, rfl, rfl, h⟩
    · have hout : b.frame.length ≤ before.length := by
        by_contra hin
        have hheader := not_header_inside (hplain b List.mem_cons_self) bs hpos (by omega)
        rw [← List.flatMap_cons, ← h, List.drop_left] at hheader
        exact hheader hrest
      obtain ⟨before', rfl⟩ : ∃ before', before = b.frame ++ before' := by
        have hpre : b.frame <+: before :=
          List.prefix_of_prefix_length_le (h ▸ ⟨bs.flatMap Body.frame, List.flatMap_cons.symm⟩)
            ⟨rest, rfl⟩ hout
        exact ⟨_, hpre.choose_spec.symm⟩
      rw [List.append_assoc, List.flatMap_cons, List.append_cancel_left_eq] at h
      obtain ⟨bs₁, bs₂, rfl, rfl, hrest'⟩ := ih (fun c hc => hplain c (List.mem_cons_of_mem _ hc)) h
      exact ⟨b :: bs₁, bs₂, rfl, List.flatMap_cons.symm, hrest'⟩

/-- A cut which starts with a message and decodes holds that message whole. -/
theorem decodeInner_of_cut {b : Body} {pt rest tail pb : Bytes}
    (h : pt ++ rest = b.frame ++ tail) (hdec : decodeInner pt = some pb) :
    pb = b.pb ∧ b.frame.length ≤ pt.length := by
  rcases Nat.lt_or_ge pt.length b.frame.length with hlt | hge
  · exfalso
    have hpre : pt <+: b.frame :=
      List.prefix_of_prefix_length_le ⟨rest, h⟩ ⟨tail, rfl⟩ (by omega)
    obtain ⟨missing, hmissing⟩ := hpre
    rw [Body.length_frame] at hlt
    unfold decodeInner at hdec
    split_ifs at hdec with hshort
    have hbyte : (pt.getD 4 0).toNat = b.pb.length + 2 := by
      have := b.length_byte []
      rw [List.append_nil, ← hmissing, List.getD_append _ _ _ _ (by omega)] at this
      exact this
    simp only [hbyte] at hdec
    rw [if_pos (by omega)] at hdec
    cases hdec
  · have hpre : b.frame <+: pt := List.prefix_of_prefix_length_le ⟨tail, h.symm⟩ ⟨rest, rfl⟩ hge
    obtain ⟨more, rfl⟩ := hpre
    rw [decodeInner_frame_append] at hdec
    exact ⟨(Option.some.inj hdec).symm, hge⟩

theorem take_header_of_decodeInner {pt pb : Bytes} (h : decodeInner pt = some pb) :
    pt.take 4 = MSG_HEADER ∧ 4 ≤ pt.length := by
  unfold decodeInner at h
  split_ifs at h with hshort
  exact ⟨by simpa using (not_or.mp hshort).2, by omega⟩

end OrbitBhyve.Wire
