import OrbitBhyve.Connection.Reassembly
import OrbitBhyve.Devices.Observer
import OrbitBhyve.Wire.Stream

/-!
# The observer on a packed burst

The observer decodes at most one message a frame, the one the frame starts
with; `split_inner_messages` rejoins the frames first. The two agree on a cut of
the stream, for every content of the messages, exactly when every message which
can say anything starts a frame and lies wholly in it.
-/

namespace OrbitBhyve.Devices

open Foundation Python Wire Connection

/-- A stream of framed messages cut into outer frames. -/
structure Packing where
  bodies : List Body
  pieces : List Piece
  join : (pieces.map Piece.pt).flatten = bodies.flatMap Body.frame

namespace Packing

/-- The lengths of the messages and of the frames are the same. -/
def SameCut (P Q : Packing) : Prop :=
  Q.bodies.map (fun b => b.pb.length) = P.bodies.map (fun b => b.pb.length) ∧
    Q.pieces.map (fun p => p.pt.length) = P.pieces.map (fun p => p.pt.length)

/-- The device after the callback has seen each frame. -/
def observedByFrame (P : Packing) (now : DateTime) (d : ProtobufDevice) : ProtobufDevice :=
  P.pieces.foldl (fun d p => observe now p.pt d) d

/-- The device after `apply_status_plaintext` on each message. -/
def observedByMessage (P : Packing) (now : DateTime) (d : ProtobufDevice) : ProtobufDevice :=
  P.bodies.foldl (fun d b => observe now b.frame d) d

/-- Every message of two bytes or more starts a frame and lies wholly in it. -/
def MessagesLead (P : Packing) : Prop :=
  ∀ bs₁ b bs₂, P.bodies = bs₁ ++ b :: bs₂ → 2 ≤ b.pb.length →
    ∃ ps₁ p ps₂, P.pieces = ps₁ ++ p :: ps₂ ∧
      (ps₁.map Piece.pt).flatten = bs₁.flatMap Body.frame ∧ b.frame.length ≤ p.pt.length

end Packing

/-! ## Frames without effect -/

theorem observe_of_none {pt : Bytes} (h : decodeInner pt = none) (now : DateTime)
    (d : ProtobufDevice) : observe now pt d = d := by
  rw [observe, applyStatusPlaintext, h, after_pure]

theorem observe_of_decode {pt pb : Bytes} (h : decodeInner pt = some pb) (now : DateTime)
    (d : ProtobufDevice) {st : DeviceStatus} (hst : extractStatus pb = .ok st) :
    observe now pt d = after (applyStatus now st) d := by
  rw [observe, applyStatusPlaintext, h]
  exact after_bind_ok (run_raising_ok hst d)

theorem observe_of_empty {pt pb : Bytes} (h : decodeInner pt = some pb)
    (hst : extractStatus pb = .ok {}) (now : DateTime) (d : ProtobufDevice) :
    observe now pt d = d := by
  rw [observe_of_decode h now d hst]
  rfl

theorem observe_congr {pt pt' : Bytes} (h : decodeInner pt = decodeInner pt') (now : DateTime)
    (d : ProtobufDevice) : observe now pt d = observe now pt' d := by
  rw [observe, observe, applyStatusPlaintext, applyStatusPlaintext, h]

/-- A body of at most one byte says nothing. -/
theorem extractStatus_of_short {pb : Bytes} (h : pb.length ≤ 1) : extractStatus pb = .ok {} := by
  match pb, h with
  | [], _ => rfl
  | [b], _ =>
    have hread : readField [b] = none := by
      unfold readField readVarint
      simp only [readVarintLoop]
      split_ifs <;> simp [readFixed, readVarintLoop]
    have hparse : pbParse [b] = none := parseMany_of_none hread (by simp)
    rw [extractStatus, hparse]

/-! ## A cut which leads every message -/

theorem foldl_observe_of_flatten_nil {ps : List Piece} (h : (ps.map Piece.pt).flatten = [])
    (now : DateTime) (d : ProtobufDevice) :
    ps.foldl (fun d p => observe now p.pt d) d = d := by
  induction ps with
  | nil => rfl
  | cons p ps ih =>
    simp only [List.map_cons, List.flatten_cons, List.append_eq_nil_iff] at h
    rw [List.foldl_cons, observe_of_none (by rw [h.1]; rfl), ih h.2]

/-- A frame which starts inside a short message has no effect. -/
theorem observe_inside_short {b : Body} (hshort : b.pb.length ≤ 1) {bs : List Body}
    {before pt rest : Bytes} (hin : before.length < b.frame.length)
    (h : before ++ (pt ++ rest) = b.frame ++ bs.flatMap Body.frame) (now : DateTime)
    (d : ProtobufDevice) : observe now pt d = d := by
  cases hdec : decodeInner pt with
  | none => exact observe_of_none hdec now d
  | some pb =>
    obtain ⟨hhead, hfour⟩ := take_header_of_decodeInner hdec
    have hzero : before.length = 0 := by
      by_contra hpos
      have hno := not_header_inside (.inl hshort) bs (Nat.pos_of_ne_zero hpos) hin
      rw [← h, List.drop_left, List.take_append_of_le_length hfour] at hno
      exact hno hhead
    have hnil : before = [] := List.length_eq_zero_iff.mp hzero
    subst hnil
    obtain ⟨rfl, -⟩ := decodeInner_of_cut (by simpa using h) hdec
    exact observe_of_empty hdec (extractStatus_of_short hshort) now d

/-- `MessagesLead` for the rest of a stream whose first bytes, `before`, went out in
earlier frames. -/
def LeadsFrom (before : Bytes) (bodies : List Body) (pieces : List Piece) : Prop :=
  ∀ bs₁ b bs₂, bodies = bs₁ ++ b :: bs₂ → 2 ≤ b.pb.length →
    ∃ ps₁ p ps₂, pieces = ps₁ ++ p :: ps₂ ∧
      before ++ (ps₁.map Piece.pt).flatten = bs₁.flatMap Body.frame ∧
      b.frame.length ≤ p.pt.length

namespace LeadsFrom

variable {before : Bytes} {b : Body} {bs : List Body} {p : Piece} {ps : List Piece}

theorem drop_message (h : LeadsFrom (b.frame ++ before) (b :: bs) ps) : LeadsFrom before bs ps := by
  intro bs₁ c bs₂ hbs hc
  obtain ⟨ps₁, q, ps₂, hps, hstart, hfit⟩ := h (b :: bs₁) c bs₂ (by rw [hbs]; rfl) hc
  rw [List.append_assoc, List.flatMap_cons, List.append_cancel_left_eq] at hstart
  exact ⟨ps₁, q, ps₂, hps, hstart, hfit⟩

/-- A frame which starts inside a short message leads nothing. -/
theorem take_piece (hshort : b.pb.length < 2) (hin : before.length < b.frame.length)
    (h : LeadsFrom before (b :: bs) (p :: ps)) : LeadsFrom (before ++ p.pt) (b :: bs) ps := by
  intro bs₁ c bs₂ hbs hc
  obtain ⟨ps₁, q, ps₂, hps, hstart, hfit⟩ := h bs₁ c bs₂ hbs hc
  cases bs₁ with
  | nil =>
    simp only [List.nil_append, List.cons.injEq] at hbs
    rw [hbs.1] at hshort
    omega
  | cons b' bs₁ =>
    simp only [List.cons_append, List.cons.injEq] at hbs
    cases ps₁ with
    | nil =>
      have hlen := congrArg List.length hstart
      rw [← hbs.1] at hlen
      simp at hlen hin
      omega
    | cons p' ps₁ =>
      simp only [List.cons_append, List.cons.injEq] at hps
      obtain ⟨rfl, rfl⟩ := hps
      exact ⟨ps₁, q, ps₂, rfl, by simpa using hstart, hfit⟩

theorem after_piece {ps₁ ps₂ : List Piece} {more : Bytes} (hempty : (ps₁.map Piece.pt).flatten = [])
    (hp : b.frame ++ more = p.pt) (h : LeadsFrom [] (b :: bs) (ps₁ ++ p :: ps₂)) :
    LeadsFrom more bs ps₂ := by
  intro bs₁ c bs₂ hbs hc
  obtain ⟨qs₁, q, qs₂, hqs, hstart, hfit⟩ := h (b :: bs₁) c bs₂ (by rw [hbs]; rfl) hc
  have hne : (qs₁.map Piece.pt).flatten ≠ [] := by
    rw [List.nil_append] at hstart
    rw [hstart, List.flatMap_cons, Body.frame_eq]
    simp
  rcases List.append_eq_append_iff.mp hqs with ⟨as, has, htail⟩ | ⟨cs, hcs, -⟩
  · cases as with
    | nil => simp [has, hempty] at hne
    | cons p' as =>
      simp only [List.cons_append, List.cons.injEq] at htail
      obtain ⟨rfl, rfl⟩ := htail
      refine ⟨as, q, qs₂, rfl, ?_, hfit⟩
      rw [has, List.nil_append, List.map_append, List.flatten_append, hempty, List.nil_append,
        List.map_cons, List.flatten_cons, ← hp, List.append_assoc, List.flatMap_cons,
        List.append_cancel_left_eq] at hstart
      exact hstart
  · rw [hcs, List.map_append, List.flatten_append, List.append_eq_nil_iff] at hempty
    exact absurd hempty.1 hne

end LeadsFrom

/-- The frames up to the end of a short message have no effect. -/
theorem foldl_observe_past_short {b : Body} (hshort : b.pb.length < 2) (bs : List Body)
    (now : DateTime) (pieces : List Piece) {before : Bytes}
    (hjoin : before ++ (pieces.map Piece.pt).flatten = b.frame ++ bs.flatMap Body.frame)
    (hlead : LeadsFrom before (b :: bs) pieces) :
    ∃ before' ps, before' ++ (ps.map Piece.pt).flatten = bs.flatMap Body.frame ∧
      LeadsFrom before' bs ps ∧
      ∀ d, pieces.foldl (fun d p => observe now p.pt d) d =
        ps.foldl (fun d p => observe now p.pt d) d := by
  induction pieces generalizing before with
  | nil =>
    have hgone : before = b.frame ++ bs.flatMap Body.frame := by simpa using hjoin
    subst hgone
    exact ⟨_, [], by simp, hlead.drop_message, fun _ => rfl⟩
  | cons p ps ih =>
    rcases Nat.lt_or_ge before.length b.frame.length with hin | hout
    · have hcut : before ++ p.pt ++ (ps.map Piece.pt).flatten =
          b.frame ++ bs.flatMap Body.frame := by
        simpa using hjoin
      obtain ⟨before', ps', hjoin', hlead', hfold⟩ := ih hcut (hlead.take_piece hshort hin)
      refine ⟨before', ps', hjoin', hlead', fun d => ?_⟩
      rw [List.foldl_cons, observe_inside_short (by omega) hin (by simpa using hjoin) now d, hfold]
    · obtain ⟨before', rfl⟩ : b.frame <+: before :=
        List.prefix_of_prefix_length_le ⟨_, hjoin.symm⟩ ⟨_, rfl⟩ hout
      rw [List.append_assoc, List.append_cancel_left_eq] at hjoin
      exact ⟨before', p :: ps, hjoin, hlead.drop_message, fun _ => rfl⟩

/-- Where the messages which can say anything lead, frame by frame is message by message. -/
theorem foldl_observe_of_lead (now : DateTime) (bodies : List Body) {before : Bytes}
    {pieces : List Piece} (d : ProtobufDevice)
    (hjoin : before ++ (pieces.map Piece.pt).flatten = bodies.flatMap Body.frame)
    (hlead : LeadsFrom before bodies pieces) :
    pieces.foldl (fun d p => observe now p.pt d) d =
      bodies.foldl (fun d b => observe now b.frame d) d := by
  induction bodies generalizing before pieces d with
  | nil =>
    rw [List.flatMap_nil, List.append_eq_nil_iff] at hjoin
    exact foldl_observe_of_flatten_nil hjoin.2 now d
  | cons b bs ih =>
    rw [List.flatMap_cons] at hjoin
    rcases Nat.lt_or_ge b.pb.length 2 with hshort | hlong
    · obtain ⟨before', ps, hjoin', hlead', hfold⟩ :=
        foldl_observe_past_short hshort bs now pieces hjoin hlead
      have hb : observe now b.frame d = d :=
        observe_of_empty (decodeInner_frame b) (extractStatus_of_short (by omega)) now d
      rw [hfold, List.foldl_cons, hb]
      exact ih d hjoin' hlead'
    · obtain ⟨ps₁, p, ps₂, rfl, hstart, hfit⟩ := hlead [] b bs rfl hlong
      rw [List.flatMap_nil, List.append_eq_nil_iff] at hstart
      obtain ⟨rfl, hempty⟩ := hstart
      have hp : p.pt ++ (ps₂.map Piece.pt).flatten = b.frame ++ bs.flatMap Body.frame := by
        simpa [hempty] using hjoin
      obtain ⟨more, hmore⟩ : b.frame <+: p.pt :=
        List.prefix_of_prefix_length_le ⟨_, hp.symm⟩ ⟨_, rfl⟩ hfit
      have hrest : more ++ (ps₂.map Piece.pt).flatten = bs.flatMap Body.frame := by
        rwa [← hmore, List.append_assoc, List.append_cancel_left_eq] at hp
      have hobs : observe now p.pt d = observe now b.frame d :=
        observe_congr (by rw [← hmore, decodeInner_frame_append, decodeInner_frame]) now d
      rw [List.foldl_append, foldl_observe_of_flatten_nil hempty, List.foldl_cons, List.foldl_cons,
        hobs]
      exact ih _ hrest (hlead.after_piece hempty hmore)

/-! ## A cut which does not -/

/-- A body of `n` bytes: the field of the tag, a zero written with padding. -/
def paddedZero (tag : UInt8) : ℕ → Bytes
  | 0 => []
  | 1 => [tag]
  | n + 2 => tag :: (List.replicate n 0x80 ++ [0x00])

theorem length_paddedZero (tag : UInt8) (n : ℕ) : (paddedZero tag n).length = n := by
  match n with
  | 0 | 1 => rfl
  | n + 2 => simp [paddedZero]

theorem readVarintLoop_padded (shift n : ℕ) :
    readVarintLoop shift 0 (List.replicate n 0x80 ++ [0x00]) = some (0, []) := by
  induction n generalizing shift with
  | zero => simp [readVarintLoop]
  | succ n ih =>
    rw [List.replicate_succ, List.cons_append, readVarintLoop]
    simpa using ih (shift + 7)

theorem pbParse_paddedZero {field : ℕ} (hfield : field < 16) (n : ℕ) :
    pbParse (paddedZero (UInt8.ofNat (field <<< 3)) (n + 2)) = some [⟨field, 0, .int 0⟩] := by
  have hread : readField (paddedZero (UInt8.ofNat (field <<< 3)) (n + 2)) =
      some (⟨field, 0, .int 0⟩, []) := by
    have hpad : readVarint (List.replicate n 0x80 ++ [0x00]) = some (0, []) :=
      readVarintLoop_padded 0 n
    have htag : ∀ rest, readVarint (UInt8.ofNat (field <<< 3) :: rest) = some (field <<< 3, rest) := by
      intro rest
      have hlt : field <<< 3 < 128 := by
        rw [Nat.shiftLeft_eq]
        omega
      have := readVarint_pbVarint (field <<< 3) rest
      rwa [pbVarint_of_lt hlt] at this
    have hnum := tag_field field (show 0 < 8 by decide)
    have hwire := tag_wire field (show 0 < 8 by decide)
    rw [Nat.or_zero] at hnum hwire
    unfold readField
    rw [paddedZero, htag]
    simp only [hwire, hnum, hpad, if_true]
  rw [pbParse, parseMany_of_some readField_consumes hread (by simp [paddedZero])]
  rfl

theorem not_mem_paddedZero {tag : UInt8} (htag : tag ≠ 0xAA) (n : ℕ) :
    0xAA ∉ paddedZero tag n := by
  match n with
  | 0 => simp [paddedZero]
  | 1 => simp [paddedZero, htag.symm]
  | n + 2 => simp [paddedZero, htag.symm]

/-- A message as long as `b` which says nothing. -/
def silentBody (b : Body) : Body :=
  ⟨paddedZero 0x08 b.pb.length, by rw [length_paddedZero]; exact b.fits⟩

/-- A message as long as `b` which reports the device clock. -/
def clockBody (b : Body) : Body :=
  ⟨paddedZero 0x38 b.pb.length, by rw [length_paddedZero]; exact b.fits⟩

@[simp] theorem length_frame_silentBody (b : Body) :
    (silentBody b).frame.length = b.frame.length := by
  simp [silentBody, length_paddedZero]

@[simp] theorem length_frame_clockBody (b : Body) :
    (clockBody b).frame.length = b.frame.length := by
  simp [clockBody, length_paddedZero]

theorem extractStatus_silentBody (b : Body) : extractStatus (silentBody b).pb = .ok {} := by
  change extractStatus (paddedZero 0x08 b.pb.length) = .ok {}
  match b.pb.length with
  | 0 => exact extractStatus_of_short (by simp [paddedZero])
  | 1 => exact extractStatus_of_short (by simp [paddedZero])
  | n + 2 =>
    have hparse := pbParse_paddedZero (show 1 < 16 by decide) n
    rw [extractStatus, show (0x08 : UInt8) = UInt8.ofNat (1 <<< 3) from rfl, hparse]
    rfl

theorem extractStatus_clockBody {b : Body} (h : 2 ≤ b.pb.length) :
    extractStatus (clockBody b).pb = .ok { deviceClock := some (.int 0) } := by
  change extractStatus (paddedZero 0x38 b.pb.length) = _
  obtain ⟨n, hn⟩ : ∃ n, b.pb.length = n + 2 := ⟨b.pb.length - 2, by omega⟩
  have hparse := pbParse_paddedZero (show 7 < 16 by decide) n
  rw [hn, extractStatus, show (0x38 : UInt8) = UInt8.ofNat (7 <<< 3) from rfl, hparse]
  exact extractTop_clock (.int 0) (by simp)

theorem length_flatMap_frame (bodies : List Body) : (bodies.flatMap Body.frame).length =
    ((bodies.map fun b => b.pb.length).map (· + 8)).sum := by
  simp [List.length_flatMap, Function.comp_def]

theorem exists_cut (pieces : List Piece) (stream : Bytes)
    (h : stream.length = (pieces.map fun p => p.pt.length).sum) :
    ∃ qs : List Piece, (qs.map fun q => q.pt.length) = pieces.map (fun p => p.pt.length) ∧
      (qs.map Piece.pt).flatten = stream := by
  induction pieces generalizing stream with
  | nil => exact ⟨[], rfl, by simpa [eq_comm] using h⟩
  | cons p ps ih =>
    rw [List.map_cons, List.sum_cons] at h
    obtain ⟨qs, hlen, hflat⟩ := ih (stream.drop p.pt.length) (by rw [List.length_drop]; omega)
    have hfits := p.fits
    have htake : (stream.take p.pt.length).length = p.pt.length := by
      rw [List.length_take]
      omega
    refine ⟨⟨stream.take p.pt.length, by omega⟩ :: qs, ?_, ?_⟩
    · rw [List.map_cons, List.map_cons, hlen, htake]
    · rw [List.map_cons, List.flatten_cons, hflat, List.take_append_drop]

namespace Packing

theorem exists_marked (P : Packing) {bs₁ bs₂ : List Body} {b : Body}
    (hbodies : P.bodies = bs₁ ++ b :: bs₂) :
    ∃ Q, P.SameCut Q ∧ Q.bodies = bs₁.map silentBody ++ clockBody b :: bs₂.map silentBody := by
  set marked := bs₁.map silentBody ++ clockBody b :: bs₂.map silentBody with hmarked
  have hlens : (marked.map fun b => b.pb.length) = P.bodies.map fun b => b.pb.length := by
    rw [hbodies, hmarked]
    simp [silentBody, clockBody, length_paddedZero, Function.comp_def]
  obtain ⟨qs, hcut, hflat⟩ := exists_cut P.pieces (marked.flatMap Body.frame) (by
    have hjoin := congrArg List.length P.join
    rw [List.length_flatten, List.map_map] at hjoin
    rw [length_flatMap_frame, hlens, ← length_flatMap_frame, ← hjoin]
    rfl)
  exact ⟨⟨marked, qs, hflat⟩, ⟨hlens, hcut⟩, rfl⟩

theorem lead_of_sameCut {P Q : Packing} (hcut : P.SameCut Q) {bs₁ cs₁ bs₂ : List Body} {b : Body}
    (hbodies : P.bodies = bs₁ ++ b :: bs₂)
    (hlen : (cs₁.flatMap Body.frame).length = (bs₁.flatMap Body.frame).length)
    {ps₁ ps₂ : List Piece} {p : Piece} (hpieces : Q.pieces = ps₁ ++ p :: ps₂)
    (hstart : (ps₁.map Piece.pt).flatten = cs₁.flatMap Body.frame)
    (hfit : b.frame.length ≤ p.pt.length) :
    ∃ ps₁ p ps₂, P.pieces = ps₁ ++ p :: ps₂ ∧
      (ps₁.map Piece.pt).flatten = bs₁.flatMap Body.frame ∧ b.frame.length ≤ p.pt.length := by
  have hpiecesLen := hcut.2
  rw [hpieces, List.map_append, List.map_cons] at hpiecesLen
  obtain ⟨ps₁', tail, htail, hps₁, htailLen⟩ := List.map_eq_append_iff.mp hpiecesLen.symm
  obtain ⟨p', ps₂', rfl, hp, -⟩ := List.map_eq_cons_iff.mp htailLen
  refine ⟨ps₁', p', ps₂', htail, ?_, by omega⟩
  have hjoin := P.join
  rw [htail, hbodies, List.map_append, List.flatten_append, List.flatMap_append] at hjoin
  have hsame : (ps₁'.map Piece.pt).flatten.length = (bs₁.flatMap Body.frame).length := by
    rw [← hlen, ← hstart, List.length_flatten, List.length_flatten, List.map_map, List.map_map]
    exact congrArg List.sum hps₁
  exact (List.append_inj hjoin hsame).1

theorem MessagesLead.of_sameCut {P Q : Packing} (hlead : P.MessagesLead) (hcut : P.SameCut Q) :
    Q.MessagesLead := by
  intro bs₁ b bs₂ hbodies hlong
  have hlens := hcut.1
  rw [hbodies, List.map_append, List.map_cons] at hlens
  obtain ⟨bs₁', tail, htail, hbs₁, htailLen⟩ := List.map_eq_append_iff.mp hlens.symm
  obtain ⟨b', bs₂', rfl, hb, -⟩ := List.map_eq_cons_iff.mp htailLen
  obtain ⟨ps₁, p, ps₂, hpieces, hstart, hfit⟩ := hlead bs₁' b' bs₂' htail (by omega)
  refine lead_of_sameCut ⟨hcut.1.symm, hcut.2.symm⟩ hbodies ?_ hpieces hstart ?_
  · rw [length_flatMap_frame, length_flatMap_frame, hbs₁]
  · rw [Body.length_frame] at hfit ⊢
    omega

theorem MessagesLead.leadsFrom {P : Packing} (h : P.MessagesLead) :
    LeadsFrom [] P.bodies P.pieces := by
  simpa [LeadsFrom, MessagesLead] using h

theorem foldl_observe_silent (bodies : List Body) (now : DateTime) (d : ProtobufDevice) :
    (bodies.map silentBody).foldl (fun d b => observe now b.frame d) d = d := by
  induction bodies with
  | nil => rfl
  | cons b bs ih =>
    rw [List.map_cons, List.foldl_cons,
      observe_of_empty (decodeInner_frame _) (extractStatus_silentBody b), ih]

theorem clock_observedByMessage {Q : Packing} {bs₁ bs₂ : List Body} {b : Body}
    (hbodies : Q.bodies = bs₁.map silentBody ++ clockBody b :: bs₂.map silentBody)
    (hlong : 2 ≤ b.pb.length) (now : DateTime) (d : ProtobufDevice) :
    (Q.observedByMessage now d).state.deviceClock = some (.int 0) := by
  rw [observedByMessage, hbodies, List.foldl_append, foldl_observe_silent, List.foldl_cons,
    foldl_observe_silent,
    observe_of_decode (decodeInner_frame _) now d (extractStatus_clockBody hlong)]
  rfl

/-- Two places of one list are the same, or one lies before the other. -/
theorem eq_or_mem_of_append_cons_eq {α : Type*} {as bs cs ds : List α} {x y : α}
    (h : as ++ x :: bs = cs ++ y :: ds) : (as = cs ∧ x = y) ∨ y ∈ as ∨ y ∈ bs := by
  rcases List.append_eq_append_iff.mp h with ⟨es, rfl, htail⟩ | ⟨es, rfl, htail⟩
  · cases es with
    | nil =>
      simp only [List.nil_append, List.cons.injEq] at htail
      exact .inl ⟨by simp, htail.1⟩
    | cons e es =>
      simp only [List.cons_append, List.cons.injEq] at htail
      exact .inr (.inr (by rw [htail.2]; simp))
  · cases es with
    | nil =>
      simp only [List.nil_append, List.cons.injEq] at htail
      exact .inl ⟨by simp, htail.1.symm⟩
    | cons e es =>
      simp only [List.cons_append, List.cons.injEq] at htail
      exact .inr (.inl (by rw [htail.1]; simp))

theorem plain_of_marked {Q : Packing} {bs₁ bs₂ : List Body} {b : Body}
    (hbodies : Q.bodies = bs₁.map silentBody ++ clockBody b :: bs₂.map silentBody) :
    ∀ c ∈ Q.bodies, c.Plain := by
  intro c hc
  rw [hbodies] at hc
  simp only [List.mem_append, List.mem_map, List.mem_cons] at hc
  rcases hc with ⟨c, -, rfl⟩ | rfl | ⟨c, -, rfl⟩
  · exact .inr (not_mem_paddedZero (by decide) _)
  · exact .inr (not_mem_paddedZero (by decide) _)
  · exact .inr (not_mem_paddedZero (by decide) _)

theorem leads_of_decodeInner {Q : Packing} (hplain : ∀ c ∈ Q.bodies, c.Plain)
    {ps₁ ps₂ : List Piece} {p : Piece} (hpieces : Q.pieces = ps₁ ++ p :: ps₂) {pb : Bytes}
    (hdec : decodeInner p.pt = some pb) :
    ∃ cs₁ c cs₂, Q.bodies = cs₁ ++ c :: cs₂ ∧ pb = c.pb ∧
      (ps₁.map Piece.pt).flatten = cs₁.flatMap Body.frame ∧ c.frame.length ≤ p.pt.length := by
  obtain ⟨hhead, hfour⟩ := take_header_of_decodeInner hdec
  have hjoin : (ps₁.map Piece.pt).flatten ++ (p.pt ++ (ps₂.map Piece.pt).flatten) =
      Q.bodies.flatMap Body.frame := by
    rw [← Q.join, hpieces]
    simp
  obtain ⟨cs₁, cs₂, hcs, hstart, hrest⟩ := header_starts_message hplain hjoin
    (by rw [List.take_append_of_le_length hfour, hhead])
  cases cs₂ with
  | nil =>
    have hnil := congrArg List.length hrest
    simp only [List.length_append, List.flatMap_nil, List.length_nil] at hnil
    omega
  | cons c cs₂ =>
    rw [List.flatMap_cons] at hrest
    obtain ⟨rfl, hfit⟩ := decodeInner_of_cut hrest hdec
    exact ⟨cs₁, c, cs₂, hcs, rfl, hstart, hfit⟩

/-- Frame by frame the marked packing does nothing when its marked message does not lead. -/
theorem observedByFrame_of_not_lead {Q : Packing} {bs₁ bs₂ : List Body} {b : Body}
    (hbodies : Q.bodies = bs₁.map silentBody ++ clockBody b :: bs₂.map silentBody)
    (hno : ∀ ps₁ p ps₂, Q.pieces = ps₁ ++ p :: ps₂ →
      (ps₁.map Piece.pt).flatten = (bs₁.map silentBody).flatMap Body.frame →
      ¬ b.frame.length ≤ p.pt.length) (now : DateTime) (d : ProtobufDevice) :
    Q.observedByFrame now d = d := by
  have hpiece : ∀ p ∈ Q.pieces, observe now p.pt d = d := by
    intro p hp
    obtain ⟨ps₁, ps₂, hpieces⟩ := List.append_of_mem hp
    cases hdec : decodeInner p.pt with
    | none => exact observe_of_none hdec now d
    | some pb =>
      obtain ⟨cs₁, c, cs₂, hcs, rfl, hstart, hfit⟩ :=
        leads_of_decodeInner (plain_of_marked hbodies) hpieces hdec
      have hsilent : ∀ bs : List Body, c ∈ bs.map silentBody → observe now p.pt d = d := by
        intro bs hc
        obtain ⟨b', -, rfl⟩ := List.mem_map.mp hc
        exact observe_of_empty hdec (extractStatus_silentBody b') now d
      obtain ⟨rfl, rfl⟩ | hbefore | hafter :=
        eq_or_mem_of_append_cons_eq (hbodies.symm.trans hcs)
      · -- the decoded message is the marked one, which does not lead
        rw [length_frame_clockBody] at hfit
        exact absurd hfit (hno ps₁ p ps₂ hpieces hstart)
      · exact hsilent bs₁ hbefore
      · exact hsilent bs₂ hafter
  exact List.foldlRecOn (motive := (· = d)) Q.pieces _ rfl fun d' hd' p hp => by
    rw [hd', hpiece p hp]

/-- The callback leaves the device where the observer leaves it frame by frame, for every
in-sync session, and that is where the messages in order leave it, whatever they contain,
exactly when every message of two bytes or more starts a frame and lies wholly in it. -/
theorem observer_agrees_iff (P : Packing) :
    (∀ (aes : AesBlock) (iv : Iv) (tc : UInt8) (c : BleConnection) (burst : List (Piece × ℕ))
        (now : DateTime) (d : ProtobufDevice),
      burst.map Prod.fst = P.pieces → c.handshaken = true → c.iv = some iv →
      c.replyHeader = some MSG_HEADER →
      (∀ f ∈ (sealPieces (c.sealFor aes iv tc) c.rxCtr P.pieces).head?, c.lastRxFrame ≠ some f) →
      (sealPieces (c.sealFor aes iv tc) c.rxCtr P.pieces).IsChain (· ≠ ·) →
      (BleConnection.onNotifyAll aes (observe now)
        (deliveries (c.sealFor aes iv tc) c.rxCtr burst) (c, d)).2 = P.observedByFrame now d) ∧
    ((∀ Q, P.SameCut Q → ∀ now d, Q.observedByFrame now d = Q.observedByMessage now d) ↔
      P.MessagesLead) := by
  refine ⟨?_, ?_, ?_⟩
  · intro aes iv tc c burst now d hburst hhs hiv hheader hlast hchain
    rw [← hburst] at hlast hchain
    obtain ⟨-, -, -, hdev⟩ :=
      BleConnection.onNotifyAll_deliveries (observe now) tc burst d hhs hiv hlast hchain
    have hpass : ∀ pt d, (if c.badHeader pt then d else observe now pt d) = observe now pt d := by
      intro pt d
      split_ifs with hbad
      · refine (observe_of_none ?_ now d).symm
        have hhead : 4 ≤ pt.length ∧ pt.take 4 ≠ MSG_HEADER := by
          simpa [BleConnection.badHeader, hheader] using hbad
        unfold decodeInner
        rw [if_pos (.inr hhead.2)]
      · rfl
    simp only [hpass] at hdev
    rw [hdev, observedByFrame, ← hburst, List.foldl_map]
  · intro hagree bs₁ b bs₂ hbodies hlong
    by_contra hno
    obtain ⟨Q, hcut, hQ⟩ := P.exists_marked hbodies
    have hlen : ((bs₁.map silentBody).flatMap Body.frame).length =
        (bs₁.flatMap Body.frame).length := by
      rw [length_flatMap_frame, length_flatMap_frame]
      simp [silentBody, length_paddedZero, Function.comp_def]
    have hframe := observedByFrame_of_not_lead hQ
      (fun ps₁ p ps₂ hpieces hstart hfit =>
        hno (lead_of_sameCut hcut hbodies hlen hpieces hstart hfit)) DateTime.epoch {}
    have hmessage := clock_observedByMessage hQ hlong DateTime.epoch {}
    rw [← hagree Q hcut, hframe] at hmessage
    cases hmessage
  · intro hlead Q hcut now d
    have hjoin : [] ++ (Q.pieces.map Piece.pt).flatten = Q.bodies.flatMap Body.frame := Q.join
    exact foldl_observe_of_lead now Q.bodies d hjoin (hlead.of_sameCut hcut).leadsFrom

def clockReading : Body := ⟨[0x38, 0x00], by decide⟩

def openValve : Body := ⟨pbFieldBytes 16 (pbFieldVarint 1 4), by decide⟩

/-- A clock and an open valve, each in a frame of its own. -/
def ownFrames : Packing where
  bodies := [clockReading, openValve]
  pieces := [⟨clockReading.frame, by decide⟩, ⟨openValve.frame, by decide⟩]
  join := by simp

theorem messagesLead_ownFrames : ownFrames.MessagesLead := by
  intro bs₁ b bs₂ hbodies _
  match bs₁ with
  | [] =>
    obtain ⟨rfl, -⟩ := List.cons.inj hbodies
    exact ⟨[], _, _, rfl, rfl, Nat.le_refl _⟩
  | [b₁] =>
    obtain ⟨rfl, htail⟩ := List.cons.inj hbodies
    obtain ⟨rfl, -⟩ := List.cons.inj htail
    exact ⟨[_], _, _, rfl, by simp, Nat.le_refl _⟩
  | b₁ :: b₂ :: bs =>
    have hlen := congrArg List.length hbodies
    simp [ownFrames] at hlen

/-- Re-delivered, they leave the valve open. -/
theorem observer_agrees_iff_ownFrames :
    let c := BleConnection.afterHandshake (Vector.replicate 12 0x5C) 0 0 (some MSG_HEADER)
    (BleConnection.onNotifyAll id (observe DateTime.epoch)
        (deliveries (c.sealFor id (Vector.replicate 12 0x5C) 0x10) c.rxCtr
          (ownFrames.pieces.zip [1, 0])) (c, {})).2.state.isWatering = true ∧
      ∀ now d, ownFrames.observedByFrame now d = ownFrames.observedByMessage now d := by
  obtain ⟨hcallback, hagree⟩ := observer_agrees_iff ownFrames
  refine ⟨?_, hagree.mpr messagesLead_ownFrames ownFrames ⟨rfl, rfl⟩⟩
  rw [hcallback id (Vector.replicate 12 0x5C) 0x10
    (BleConnection.afterHandshake (Vector.replicate 12 0x5C) 0 0 (some MSG_HEADER))
    (ownFrames.pieces.zip [1, 0]) DateTime.epoch {} rfl rfl rfl rfl (by decide +kernel)
    (by decide +kernel)]
  decide +kernel

/-- Two messages in one frame: the second, which reports an open valve, is not seen. Nor
is a single one cut over two frames. -/
theorem observer_misses_messages :
    let clock : Body := ⟨[0x38, 0x00], by decide⟩
    let running : Body := ⟨[0x82, 0x01, 0x02, 0x08, 0x04], by decide⟩
    let together : List (Piece × ℕ) := [(⟨clock.frame ++ running.frame, by decide⟩, 0)]
    let apart : List (Piece × ℕ) :=
      [(⟨running.frame.take 9, by decide⟩, 0), (⟨running.frame.drop 9, by decide⟩, 0)]
    let c := BleConnection.afterHandshake (Vector.replicate 12 0x5C) 0 0 (some MSG_HEADER)
    let received (burst : List (Piece × ℕ)) := (BleConnection.onNotifyAll id
      (observe DateTime.epoch)
      (deliveries (c.sealFor id (Vector.replicate 12 0x5C) 0x10) c.rxCtr burst) (c, {})).2
    (received together).state.isWatering = false ∧ (received apart).state.isWatering = false ∧
      ([clock, running].foldl (fun d b => observe DateTime.epoch b.frame d)
        {}).state.isWatering = true ∧
      ([running].foldl (fun d b => observe DateTime.epoch b.frame d)
        {}).state.isWatering = true := by
  decide +kernel

end Packing
end OrbitBhyve.Devices
