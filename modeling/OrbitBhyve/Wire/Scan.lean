import OrbitBhyve.Wire.Stream

/-!
# What the scan of a stream returns

`split_inner_messages` goes from header to header: from a header it jumps over
the length claimed there, and it stops for good where that length is too small
or reaches past the end of the stream. The headers it comes by are a relation
on the stream, and a message is returned exactly if its header is among them
and it decodes. So a message is lost exactly behind a header which does not
decode and whose claimed length hides it.
-/

namespace OrbitBhyve.Wire

open Foundation

variable {stream : Bytes} {i g h p q : ℕ}

/-! ## Positions -/

def IsHeader (stream : Bytes) (h : ℕ) : Prop := (stream.drop h).take 4 = MSG_HEADER

/-- `hdr = stream.find(MSG_HEADER, i)`. -/
def FirstHeader (stream : Bytes) (i h : ℕ) : Prop :=
  i ≤ h ∧ IsHeader stream h ∧ ∀ k, i ≤ k → k < h → ¬IsHeader stream k

/-- `stream[hdr + 4]`, zero past the end of the stream. -/
def payloadLenAt (stream : Bytes) (h : ℕ) : ℕ := (stream.getD (h + 4) 0).toNat

/-- Where the message at `h` claims to end. -/
def claimedEnd (stream : Bytes) (h : ℕ) : ℕ := h + (payloadLenAt stream h + 6)

/-- The protobuf of a CRC-valid message at position `p`, whatever follows it. -/
def messageAt (stream : Bytes) (p : ℕ) : Option Bytes := decodeInner (stream.drop p)

theorem payloadLenAt_eq (stream : Bytes) (h : ℕ) :
    ((stream.drop h).getD 4 0).toNat = payloadLenAt stream h := by
  rw [payloadLenAt, List.getD_eq_getElem?_getD, List.getD_eq_getElem?_getD, List.getElem?_drop]

theorem IsHeader.lt (hh : IsHeader stream h) : h + 4 ≤ stream.length := by
  have hlen := congrArg List.length hh
  simp only [List.length_take, List.length_drop, MSG_HEADER, List.length_cons,
    List.length_nil] at hlen
  omega

theorem FirstHeader.unique (hg : FirstHeader stream i g) (hh : FirstHeader stream i h) : g = h := by
  rcases Nat.lt_trichotomy g h with hlt | heq | hgt
  · exact absurd hg.2.1 (hh.2.2 g hg.1 hlt)
  · exact heq
  · exact absurd hh.2.1 (hg.2.2 h hh.1 hgt)

theorem FirstHeader.le (hg : FirstHeader stream i g) (hi : i ≤ h) (hh : IsHeader stream h) :
    g ≤ h := by
  by_contra hlt
  exact hg.2.2 h hi (by omega) hh

theorem exists_firstHeader (hi : i ≤ h) (hh : IsHeader stream h) : ∃ g, FirstHeader stream i g := by
  classical
  have hex : ∃ k, i ≤ k ∧ IsHeader stream k := ⟨h, hi, hh⟩
  refine ⟨Nat.find hex, (Nat.find_spec hex).1, (Nat.find_spec hex).2, ?_⟩
  intro k hk hlt hheader
  exact Nat.find_min hex hlt ⟨hk, hheader⟩

theorem messageAt_some {pb : Bytes} (hp : messageAt stream p = some pb) :
    IsHeader stream p ∧ 2 ≤ payloadLenAt stream p ∧ claimedEnd stream p ≤ stream.length ∧
      claimedEnd stream p = p + (pb.length + 8) := by
  have hheader := (take_header_of_decodeInner hp).1
  have hfit := (take_header_of_decodeInner hp).2
  unfold messageAt decodeInner at hp
  rw [payloadLenAt_eq] at hp
  simp only at hp
  split_ifs at hp with hshort hlen hcrc
  simp only [Option.some.injEq] at hp
  simp only [List.length_drop] at hlen hfit
  refine ⟨hheader, by omega, by unfold claimedEnd; omega, ?_⟩
  rw [← hp, List.length_drop, List.length_take, List.length_drop, claimedEnd]
  omega

/-- The bytes past the claimed end do not matter to the checksum. -/
theorem decodeInner_take_claimed (hlen : claimedEnd stream h ≤ stream.length) :
    decodeInner ((stream.drop h).take (payloadLenAt stream h + 6)) = messageAt stream h := by
  have hn : payloadLenAt stream h + 6 ≤ (stream.drop h).length := by
    rw [List.length_drop]
    unfold claimedEnd at hlen
    omega
  rw [messageAt, ← payloadLenAt_eq] at *
  set s := stream.drop h
  set n := (s.getD 4 0).toNat with hndef
  have hbyte : ((s.take (n + 6)).getD 4 0).toNat = n := by
    rw [List.getD_eq_getElem?_getD, List.getElem?_take_of_lt (by omega),
      ← List.getD_eq_getElem?_getD]
  unfold decodeInner
  simp only [hbyte, ← hndef, List.length_take, Nat.min_eq_left hn, List.take_take,
    List.drop_take, Nat.min_eq_left (show 4 ≤ n + 6 by omega),
    Nat.min_eq_left (show 4 + n ≤ n + 6 by omega),
    Nat.min_eq_left (show 2 ≤ n + 6 - (4 + n) by omega)]
  simp only [show ¬ n + 6 < 6 by omega, show ¬ s.length < 6 by omega,
    show ¬ n + 6 < 4 + n + 2 by omega, show ¬ s.length < 4 + n + 2 by omega]

theorem findHeader_drop (hi : i ≤ stream.length) :
    (∃ h, FirstHeader stream i h ∧ findHeader (stream.drop i) = some (stream.drop h)) ∨
      findHeader (stream.drop i) = none ∧ ∀ h, ¬FirstHeader stream i h := by
  induction hn : stream.length - i generalizing i with
  | zero =>
    have hend : i = stream.length := by omega
    refine Or.inr ⟨by rw [hend, List.drop_length]; rfl, ?_⟩
    intro h hh
    have hle := hh.1
    have hlt := hh.2.1.lt
    omega
  | succ n ih =>
    have hlt : i < stream.length := by omega
    rw [List.drop_eq_getElem_cons hlt, findHeader, ← List.drop_eq_getElem_cons hlt]
    have hiff : MSG_HEADER.isPrefixOf (stream.drop i) = true ↔ IsHeader stream i := by
      rw [List.isPrefixOf_iff_prefix, List.prefix_iff_eq_take, IsHeader]
      exact eq_comm
    by_cases hheader : IsHeader stream i
    · left
      exact ⟨i, ⟨le_rfl, hheader, fun k hk hki => by omega⟩, if_pos (hiff.mpr hheader)⟩
    · rw [if_neg (fun h => hheader (hiff.mp h))]
      have hstep : ∀ h, FirstHeader stream (i + 1) h ↔ FirstHeader stream i h := by
        intro h
        constructor
        · rintro ⟨hle, hh, hbefore⟩
          refine ⟨by omega, hh, fun k hk hkh => ?_⟩
          rcases Nat.eq_or_lt_of_le hk with rfl | hik
          · exact hheader
          · exact hbefore k hik hkh
        · rintro ⟨hle, hh, hbefore⟩
          refine ⟨?_, hh, fun k hk hkh => hbefore k (by omega) hkh⟩
          rcases Nat.eq_or_lt_of_le hle with rfl | hih
          · exact absurd hh hheader
          · exact hih
      simpa only [hstep] using ih (show i + 1 ≤ stream.length by omega) (by omega)

/-! ## The scan with positions -/

/-- One round of the loop with the number of bytes left at the header it found. -/
def scanMarked (unread : Bytes) : Option ((ℕ × Option Bytes) × Bytes) :=
  (scanMessage unread).map fun r => ((((findHeader unread).getD []).length, r.1), r.2)

/-- The messages which `split_inner_messages` returns from `i` on, each with its position. -/
def returnedFrom (stream : Bytes) (i : ℕ) : List (ℕ × Bytes) :=
  (parseWhile scanMarked (stream.drop i)).filterMap fun r =>
    r.2.map fun pb => (stream.length - r.1, pb)

def returned (stream : Bytes) : List (ℕ × Bytes) := returnedFrom stream 0

theorem scanMarked_consumes : Parser.Consumes scanMarked := by
  intro data a rest h
  obtain ⟨r, hr, hra⟩ := Option.map_eq_some_iff.mp h
  rw [Prod.mk.injEq] at hra
  exact hra.2 ▸ scanMessage_consumes _ _ _ hr

theorem parseWhile_scanMarked (unread : Bytes) :
    (parseWhile scanMarked unread).map Prod.snd = parseWhile scanMessage unread := by
  induction hn : unread.length using Nat.strong_induction_on generalizing unread with
  | _ n ih =>
    cases hm : scanMessage unread with
    | none =>
      rw [parseWhile_of_none hm, parseWhile_of_none (by rw [scanMarked, hm]; rfl), List.map_nil]
    | some r =>
      have hne : unread ≠ [] := by
        rintro rfl
        simp [scanMessage] at hm
      have hmark : scanMarked unread =
          some ((((findHeader unread).getD []).length, r.1), r.2) := by
        rw [scanMarked, hm]
        rfl
      have hlt := scanMessage_consumes _ _ _ hm
      rw [parseWhile_of_some scanMarked_consumes hmark hne,
        parseWhile_of_some scanMessage_consumes hm hne, List.map_cons,
        ih r.2.length (hn ▸ hlt) r.2 rfl]

/-- The positions are an annotation: the messages are those of `split_inner_messages`. -/
theorem returned_messages (stream : Bytes) :
    (returned stream).map Prod.snd = splitInnerMessages stream := by
  rw [splitInnerMessages, returned, returnedFrom, List.drop_zero, ← parseWhile_scanMarked,
    List.map_filterMap, List.filterMap_map]
  congr 1
  funext r
  cases hr : r.2 <;> simp [hr]

theorem scanMarked_drop (hi : i ≤ stream.length) :
    (∃ h, FirstHeader stream i h ∧ 2 ≤ payloadLenAt stream h ∧
      claimedEnd stream h ≤ stream.length ∧
      scanMarked (stream.drop i) = some ((stream.length - h, messageAt stream h),
        stream.drop (claimedEnd stream h))) ∨
    scanMarked (stream.drop i) = none ∧ ∀ h, FirstHeader stream i h →
      ¬(2 ≤ payloadLenAt stream h ∧ claimedEnd stream h ≤ stream.length) := by
  rcases findHeader_drop hi with ⟨h, hh, hfound⟩ | ⟨hnone, hall⟩
  · have hle := hh.1
    by_cases hgood : 2 ≤ payloadLenAt stream h ∧ claimedEnd stream h ≤ stream.length
    · left
      have hend := hgood.2
      refine ⟨h, hh, hgood.1, hgood.2, ?_⟩
      unfold claimedEnd at hend
      rw [scanMarked, scanMessage, if_neg (by rw [List.length_drop]; omega), hfound]
      simp only [payloadLenAt_eq, List.length_drop]
      rw [if_neg (by omega), if_neg (by omega), decodeInner_take_claimed hgood.2, List.drop_drop,
        Option.map_some, Option.getD_some, List.length_drop, claimedEnd]
    · right
      refine ⟨?_, fun g hg => hg.unique hh ▸ hgood⟩
      rw [scanMarked, scanMessage, hfound]
      simp only [payloadLenAt_eq, List.length_drop]
      split_ifs with h₁ h₂ h₃
      · rfl
      · rfl
      · rfl
      · exact absurd ⟨by omega, by unfold claimedEnd; omega⟩ hgood
  · right
    refine ⟨?_, fun h hh => absurd hh (hall h)⟩
    rw [scanMarked, scanMessage, hnone]
    split_ifs <;> rfl

/-! ## The headers which the scan comes by -/

/-- `h` is among the values which `hdr` takes from `i` on. -/
inductive ReachedFrom (stream : Bytes) : ℕ → ℕ → Prop
  | first {i h : ℕ} : FirstHeader stream i h → ReachedFrom stream i h
  | next {i g h : ℕ} : FirstHeader stream i g → 2 ≤ payloadLenAt stream g →
      claimedEnd stream g ≤ stream.length → ReachedFrom stream (claimedEnd stream g) h →
      ReachedFrom stream i h

def Reached (stream : Bytes) (h : ℕ) : Prop := ReachedFrom stream 0 h

theorem lt_claimedEnd (stream : Bytes) (h : ℕ) : h < claimedEnd stream h := by
  unfold claimedEnd
  omega

theorem ReachedFrom.isHeader (hr : ReachedFrom stream i h) : i ≤ h ∧ IsHeader stream h := by
  induction hr with
  | first hh => exact ⟨hh.1, hh.2.1⟩
  | @next i g h hg _ _ _ ih =>
    have hle := hg.1
    have hlt := lt_claimedEnd stream g
    exact ⟨by omega, ih.2⟩

/-- Of two headers on the way the later one is not hidden by the earlier one. -/
theorem ReachedFrom.apart (hg : ReachedFrom stream i g) (hh : ReachedFrom stream i h)
    (hlt : g < h) : 2 ≤ payloadLenAt stream g ∧ claimedEnd stream g ≤ h := by
  induction hg with
  | first hfirst =>
    cases hh with
    | first hfirst' => exact absurd (hfirst.unique hfirst') (by omega)
    | next hg' hlen _ hrest =>
      rw [hfirst.unique hg']
      exact ⟨hlen, hrest.isHeader.1⟩
  | @next i g' g hg' _ _ hrest ih =>
    have hle := hrest.isHeader.1
    have hbefore := lt_claimedEnd stream g'
    cases hh with
    | first hfirst' =>
      have := hfirst'.unique hg'
      omega
    | next hg'' _ _ hrest' =>
      rw [hg''.unique hg'] at hrest'
      exact ih hrest' hlt

theorem mem_returnedFrom_iff {pb : Bytes} (hi : i ≤ stream.length) :
    (p, pb) ∈ returnedFrom stream i ↔
      ReachedFrom stream i p ∧ messageAt stream p = some pb := by
  induction hn : stream.length - i using Nat.strong_induction_on generalizing i with
  | _ n ih =>
    unfold returnedFrom
    rcases scanMarked_drop hi with ⟨h, hh, hlen, hend, hscan⟩ | ⟨hnone, hall⟩
    · have hlt := lt_claimedEnd stream h
      have hle := hh.1
      have hne : stream.drop i ≠ [] := by
        rw [Ne, List.drop_eq_nil_iff]
        omega
      rw [parseWhile_of_some scanMarked_consumes hscan hne, List.filterMap_cons]
      have hrest := ih (stream.length - claimedEnd stream h) (by omega) hend rfl
      have hback : stream.length - (stream.length - h) = h := by omega
      have hsplit : ReachedFrom stream i p ↔
          p = h ∨ ReachedFrom stream (claimedEnd stream h) p := by
        constructor
        · intro hp
          cases hp with
          | first hfirst => exact Or.inl (hfirst.unique hh)
          | next hg _ _ hp' => exact Or.inr (hg.unique hh ▸ hp')
        · rintro (rfl | hp)
          · exact .first hh
          · exact .next hh hlen hend hp
      rw [hsplit, or_and_right, ← hrest]
      cases hmsg : messageAt stream h with
      | none =>
        simp only [Option.map_none]
        constructor
        · exact Or.inr
        · rintro (⟨rfl, hsome⟩ | hmem)
          · rw [hmsg] at hsome
            cases hsome
          · exact hmem
      | some qb =>
        simp only [Option.map_some, List.mem_cons, Prod.mk.injEq, hback]
        apply or_congr _ Iff.rfl
        constructor
        · rintro ⟨rfl, rfl⟩
          exact ⟨rfl, hmsg⟩
        · rintro ⟨rfl, hsome⟩
          rw [hmsg, Option.some.injEq] at hsome
          exact ⟨rfl, hsome.symm⟩
    · rw [parseWhile_of_none hnone]
      constructor
      · intro hmem
        cases hmem
      · rintro ⟨hp, hmsg⟩
        have hvalid := messageAt_some hmsg
        cases hp with
        | first hfirst => exact absurd ⟨hvalid.2.1, hvalid.2.2.1⟩ (hall p hfirst)
        | next hg hlen hend _ => exact absurd ⟨hlen, hend⟩ (hall _ hg)

/-- A message is returned exactly if its header is come by and it decodes. -/
theorem mem_returned_iff {pb : Bytes} :
    (p, pb) ∈ returned stream ↔ Reached stream p ∧ messageAt stream p = some pb :=
  mem_returnedFrom_iff (Nat.zero_le _)

/-! ## Lost messages -/

/-- Every valid message which is not inside an earlier returned one is returned. -/
def Complete (stream : Bytes) : Prop :=
  ∀ p pb, messageAt stream p = some pb →
    (∀ q qb, (q, qb) ∈ returned stream → q < p → q + (qb.length + 8) ≤ p) →
    (p, pb) ∈ returned stream

/-- The claimed length of a header which does not decode hides no valid message. -/
def HidesNothing (stream : Bytes) (h : ℕ) : Prop :=
  ∀ p, h < p → (messageAt stream p).isSome → 2 ≤ payloadLenAt stream h ∧ claimedEnd stream h ≤ p

theorem reachedFrom_of_not_hidden (hi : i ≤ p) (hp : IsHeader stream p)
    (h : ∀ g, ReachedFrom stream i g → g < p →
      2 ≤ payloadLenAt stream g ∧ claimedEnd stream g ≤ p) : ReachedFrom stream i p := by
  induction hn : p - i using Nat.strong_induction_on generalizing i with
  | _ n ih =>
    obtain ⟨g, hg⟩ := exists_firstHeader hi hp
    rcases Nat.eq_or_lt_of_le (hg.le hi hp) with rfl | hlt
    · exact .first hg
    · obtain ⟨hlen, hend⟩ := h g (.first hg) hlt
      have hfit : claimedEnd stream g ≤ stream.length := hend.trans (by have := hp.lt; omega)
      have hle := hg.1
      have hbefore := lt_claimedEnd stream g
      refine .next hg hlen hfit (ih (p - claimedEnd stream g) (by omega) hend ?_ rfl)
      intro k hk hkp
      exact h k (.next hg hlen hfit hk) hkp

/-- Nothing is lost exactly if no header on the way hides a valid message. -/
theorem complete_iff (stream : Bytes) :
    Complete stream ↔
      ∀ h, Reached stream h → messageAt stream h = none → HidesNothing stream h := by
  constructor
  · intro hc h hh hnone p hlt hvalid
    obtain ⟨pb, hpb⟩ := Option.isSome_iff_exists.mp hvalid
    by_contra hhidden
    have hmissing : (p, pb) ∉ returned stream := by
      intro hmem
      exact hhidden (hh.apart (mem_returned_iff.mp hmem).1 hlt)
    refine hmissing (hc p pb hpb ?_)
    intro q qb hq hqp
    obtain ⟨hq, hqb⟩ := mem_returned_iff.mp hq
    rw [← (messageAt_some hqb).2.2.2]
    rcases Nat.lt_trichotomy q h with hqh | rfl | hhq
    · have hend := (hq.apart hh hqh).2
      omega
    · rw [hnone] at hqb
      cases hqb
    · obtain ⟨hlen, hend⟩ := hh.apart hq hhq
      exact absurd ⟨hlen, by omega⟩ hhidden
  · intro hhides p pb hpb hinside
    refine mem_returned_iff.mpr ⟨?_, hpb⟩
    refine reachedFrom_of_not_hidden (Nat.zero_le p) (messageAt_some hpb).1 ?_
    intro g hg hlt
    cases hgb : messageAt stream g with
    | none => exact hhides g hg hgb p hlt (by rw [hpb]; rfl)
    | some gb =>
      have hvalid := messageAt_some hgb
      refine ⟨hvalid.2.1, ?_⟩
      rw [hvalid.2.2.2]
      exact hinside g gb (mem_returned_iff.mpr ⟨hg, hgb⟩) hlt

/-- A stray header with length byte 0, then a whole message. -/
def strayHeader : Bytes :=
  MSG_HEADER ++ [0x00, 0x00] ++ Body.frame ⟨[0x08, 0x01], by decide⟩

/-- The scan stops at the stray header. -/
theorem strayHeader_loses : ¬∀ stream, Complete stream := by
  intro hall
  have hlost := hall strayHeader 6 [0x08, 0x01] (by decide +kernel)
  have hnone : returned strayHeader = [] := by decide +kernel
  rw [hnone] at hlost
  exact List.not_mem_nil (hlost (fun q qb hq => absurd hq List.not_mem_nil))

end OrbitBhyve.Wire
