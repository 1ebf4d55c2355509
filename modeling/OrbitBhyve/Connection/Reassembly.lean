import OrbitBhyve.Connection.Notify
import Mathlib.Data.List.Chain

/-!
# Multi-frame receive

The device cuts its reply stream into outer frames and seals each at the next
fresh counter; the link may re-deliver a frame any number of times. The
callback then buffers exactly the plaintext of every frame once, and
`split_inner_messages` of the join finds the messages the device framed.
-/

namespace OrbitBhyve.Connection

open Foundation Python Wire

/-- The plaintext of one outer frame, within its one-byte length. -/
structure Piece where
  pt : Bytes
  fits : pt.length ≤ 255

/-- The device's frames, each sealed at the next fresh counter. -/
def sealPieces (enc : UInt32 → Bytes → Bytes) : UInt32 → List Piece → List Bytes
  | _, [] => []
  | c, p :: ps => enc c p.pt :: sealPieces enc (c + frameBlocks p.pt) ps

/-- The deliveries of a burst: each sealed frame, then its re-deliveries. -/
def deliveries (enc : UInt32 → Bytes → Bytes) : UInt32 → List (Piece × ℕ) → List Bytes
  | _, [] => []
  | c, (p, extra) :: burst =>
    enc c p.pt :: List.replicate extra (enc c p.pt) ++
      deliveries enc (c + frameBlocks p.pt) burst

def counterAfter (c : UInt32) (pieces : List Piece) : UInt32 :=
  pieces.foldl (fun c p => c + frameBlocks p.pt) c

theorem counterAfter_eq (c : UInt32) (pieces : List Piece) :
    counterAfter c pieces = c + UInt32.ofNat (pieces.map fun p => (p.pt.length + 15) / 16).sum := by
  induction pieces generalizing c with
  | nil => simp [counterAfter]
  | cons p ps ih =>
    have hstep : counterAfter c (p :: ps) = counterAfter (c + frameBlocks p.pt) ps := rfl
    rw [hstep, ih, List.map_cons, List.sum_cons, UInt32.ofNat_add, frameBlocks]
    ac_rfl

namespace BleConnection

variable {δ : Type*} {aes : AesBlock} {iv : Iv}

def sealFor (aes : AesBlock) (iv : Iv) (tc : UInt8) (c : BleConnection) :
    UInt32 → Bytes → Bytes :=
  sealFrame aes iv c.frameMagic tc

/-- A frame may open the buffer: it is too short to be checked or its header is good. -/
def Leads (c : BleConnection) (pt : Bytes) : Prop := c.badHeader pt = false

/-- The session after a fresh in-sync frame, the header check included. -/
def absorbed (c : BleConnection) (frame pt : Bytes) : BleConnection :=
  if c.badHeader pt ∧ c.notifBuf = [] then (c.received frame pt).scheduleDisconnect
  else c.received frame pt

theorem absorbed_of_leads {c : BleConnection} {pt : Bytes} (h : c.notifBuf = [] → c.Leads pt)
    (frame : Bytes) : c.absorbed frame pt = c.received frame pt := by
  refine if_neg fun ⟨hbad, hempty⟩ => ?_
  have hlead := h hempty
  rw [Leads, hbad] at hlead
  exact Bool.noConfusion hlead

/-- Up to the scheduled teardown, which waits for the event loop, a frame is just received. -/
theorem absorbed_eq (c : BleConnection) (frame pt : Bytes) :
    ∃ n, c.absorbed frame pt = { c.received frame pt with scheduledDisconnects := n } := by
  unfold absorbed
  split_ifs
  · exact ⟨_, rfl⟩
  · exact ⟨_, rfl⟩

theorem onNotify_absorbs (observer : Bytes → δ → δ) {c : BleConnection} (d : δ) (tc : UInt8)
    (p : Piece) (hhs : c.handshaken = true) (hiv : c.iv = some iv)
    (hnew : c.lastRxFrame ≠ some (c.sealFor aes iv tc c.rxCtr p.pt)) :
    onNotify aes observer (c.sealFor aes iv tc c.rxCtr p.pt) (c, d) =
      (c.absorbed (c.sealFor aes iv tc c.rxCtr p.pt) p.pt,
        if c.badHeader p.pt then d else observer p.pt d) := by
  rw [sealFor, onNotify_sealFrame observer d tc hhs hiv p.fits hnew, absorbed]
  by_cases hbad : c.badHeader p.pt = true
  · by_cases hbuf : c.notifBuf = []
    · simp only [hbad, hbuf, if_true, and_self]
    · simp only [hbad, hbuf, if_true, if_false, and_false]
  · simp only [hbad, Bool.false_eq_true, if_false, false_and]

/-- A burst in sync with the receive counter, induction over the deliveries:
the counter and the last-frame marker are what the next frame needs. -/
theorem onNotifyAll_deliveries (observer : Bytes → δ → δ) (tc : UInt8) (burst : List (Piece × ℕ))
    {c : BleConnection} (d : δ) (hhs : c.handshaken = true) (hiv : c.iv = some iv)
    (hlast : ∀ f ∈ (sealPieces (c.sealFor aes iv tc) c.rxCtr (burst.map Prod.fst)).head?,
      c.lastRxFrame ≠ some f)
    (hchain : (sealPieces (c.sealFor aes iv tc) c.rxCtr (burst.map Prod.fst)).IsChain (· ≠ ·)) :
    let r := onNotifyAll aes observer (deliveries (c.sealFor aes iv tc) c.rxCtr burst) (c, d)
    r.1.notifPt = c.notifPt ++ burst.map (fun b => b.1.pt) ∧
      r.1.rxCtr = counterAfter c.rxCtr (burst.map Prod.fst) ∧
      ((c.notifBuf = [] → ∀ p ∈ (burst.map Prod.fst).head?, c.Leads p.pt) →
        r.1.scheduledDisconnects = c.scheduledDisconnects) ∧
      r.2 = burst.foldl (fun d b => if c.badHeader b.1.pt then d else observer b.1.pt d) d := by
  induction burst generalizing c d with
  | nil => simp [deliveries, onNotifyAll, counterAfter]
  | cons b burst ih =>
    obtain ⟨p, extra⟩ := b
    set f := c.sealFor aes iv tc c.rxCtr p.pt with hf
    have hfirst := onNotify_absorbs observer d tc p hhs hiv (hlast f (by simp [sealPieces, hf]))
    rw [← hf] at hfirst
    obtain ⟨n, hn⟩ := c.absorbed_eq f p.pt
    -- the session which has absorbed the frame is in step with the rest of the burst
    have hrest : sealPieces (c.sealFor aes iv tc) (c.rxCtr + frameBlocks p.pt)
        (burst.map Prod.fst) = sealPieces ((c.absorbed f p.pt).sealFor aes iv tc)
          (c.absorbed f p.pt).rxCtr (burst.map Prod.fst) := by
      rw [hn]
      rfl
    rw [List.map_cons, sealPieces, hrest, ← hf] at hchain
    have htail := ih (c := c.absorbed f p.pt)
      (if c.badHeader p.pt then d else observer p.pt d) (by rw [hn]; exact hhs)
      (by rw [hn]; exact hiv)
      (fun g hg => by
        have := (List.isChain_cons.mp hchain).1 g hg
        rw [hn]
        simpa [received] using this)
      (List.isChain_cons.mp hchain).2
    have hfeed : onNotifyAll aes observer
        (deliveries (c.sealFor aes iv tc) c.rxCtr ((p, extra) :: burst)) (c, d) =
        onNotifyAll aes observer (deliveries ((c.absorbed f p.pt).sealFor aes iv tc)
          (c.absorbed f p.pt).rxCtr burst)
          (c.absorbed f p.pt, if c.badHeader p.pt then d else observer p.pt d) := by
      rw [deliveries, onNotifyAll_append, ← hf, onNotifyAll_cons, hfirst,
        onNotifyAll_replicate observer _ (by rw [hn]; rfl), hn]
      rfl
    have hbad : ∀ pt, (c.absorbed f p.pt).badHeader pt = c.badHeader pt := by
      rw [hn]
      exact fun _ => rfl
    have hbuf : (c.absorbed f p.pt).notifBuf ≠ [] := by
      rw [hn]
      simp [received]
    simp only [hfeed, List.map_cons, List.foldl_cons]
    simp only [hbad] at htail
    obtain ⟨hpts, hctr, hsched, hdev⟩ := htail
    refine ⟨?_, ?_, fun hlead => ?_, hdev⟩
    · rw [hpts, hn]
      simp [received]
    · rw [hctr, hn]
      rfl
    · rw [hsched fun h => absurd h hbuf, absorbed_of_leads fun h => hlead h p (by simp)]
      rfl

theorem take_four_of_frames {bodies : List Body} {pt rest : Bytes}
    (h : pt ++ rest = bodies.flatMap Body.frame) (hlen : 4 ≤ pt.length) :
    pt.take 4 = MSG_HEADER := by
  cases bodies with
  | nil =>
    have := congrArg List.length h
    simp only [List.length_append, List.flatMap_nil, List.length_nil] at this
    omega
  | cons b bs =>
    have htake : (pt ++ rest).take 4 = pt.take 4 := List.take_append_of_le_length hlen
    rw [← htake, h, List.flatMap_cons, b.take_header]

/-- Receive is exact for every cut of the stream and every re-delivery pattern. -/
theorem onNotifyAll_reassembles (aes : AesBlock) (iv : Iv) (observer : Bytes → δ → δ) (d : δ)
    (tc : UInt8) (c : BleConnection) (bodies : List Body) (burst : List (Piece × ℕ))
    (hhs : c.handshaken = true) (hiv : c.iv = some iv)
    (hheader : ∀ h ∈ c.replyHeader, h = MSG_HEADER)
    (hpt : c.notifPt = []) (hlast : c.lastRxFrame = none)
    (hsplit : (burst.map fun b => b.1.pt).flatten = bodies.flatMap Body.frame)
    (hchain : (sealPieces (c.sealFor aes iv tc) c.rxCtr (burst.map Prod.fst)).IsChain (· ≠ ·)) :
    let r := (onNotifyAll aes observer (deliveries (c.sealFor aes iv tc) c.rxCtr burst) (c, d)).1
    r.notifPt.flatten = bodies.flatMap Body.frame ∧
      splitInnerMessages r.notifPt.flatten = bodies.map Body.pb ∧
      r.rxCtr = c.rxCtr + UInt32.ofNat (burst.map fun b => (b.1.pt.length + 15) / 16).sum ∧
      r.scheduledDisconnects = c.scheduledDisconnects := by
  have hlead : ∀ p ∈ (burst.map Prod.fst).head?, c.Leads p.pt := by
    intro p hp
    cases burst with
    | nil => simp at hp
    | cons b bs =>
      simp only [List.map_cons, List.head?_cons, Option.mem_def, Option.some.injEq] at hp
      subst hp
      simp only [List.map_cons, List.flatten_cons] at hsplit
      cases hr : c.replyHeader with
      | none => simp [Leads, badHeader, hr]
      | some header =>
        have hh : header = MSG_HEADER := hheader header (by simp [hr])
        by_cases hlen : 4 ≤ b.1.pt.length
        · simp [Leads, badHeader, hr, hh, take_four_of_frames hsplit hlen]
        · simp [Leads, badHeader, hr, hlen]
  have hfeed := onNotifyAll_deliveries observer tc burst d hhs hiv (by simp [hlast]) hchain
  obtain ⟨hpts, hctr, hsched, -⟩ := hfeed
  have hjoin := hpts
  rw [hpt, List.nil_append] at hjoin
  refine ⟨?_, ?_, ?_, hsched fun _ => hlead⟩
  · rw [hjoin, hsplit]
  · rw [hjoin, hsplit, splitInnerMessages_frames]
  · rw [hctr, counterAfter_eq, List.map_map]
    rfl

/-- A message cut in three around the counter's wrap, its pieces re-delivered. -/
theorem onNotifyAll_reassembles_wrap :
    let body : Body := ⟨[0x0A, 0x02, 0x08, 0x07], by decide⟩
    let burst : List (Piece × ℕ) :=
      [(⟨body.frame.take 5, by decide⟩, 2), (⟨(body.frame.drop 5).take 1, by decide⟩, 0),
        (⟨body.frame.drop 6, by decide⟩, 1)]
    let c := afterHandshake (Vector.replicate 12 0x5C) 0 0xFFFFFFFE (some MSG_HEADER)
    let r := (onNotifyAll id (fun pt seen => seen ++ pt)
      (deliveries (c.sealFor id (Vector.replicate 12 0x5C) 0x10) c.rxCtr burst) (c, [])).1
    r.notifPt.flatten = [body].flatMap Body.frame ∧
      splitInnerMessages r.notifPt.flatten = [body].map Body.pb ∧
      r.rxCtr = 0xFFFFFFFE + UInt32.ofNat (burst.map fun b => (b.1.pt.length + 15) / 16).sum ∧
      r.scheduledDisconnects = 0 :=
  onNotifyAll_reassembles id (Vector.replicate 12 0x5C) (fun pt seen => seen ++ pt) [] 0x10
    (afterHandshake (Vector.replicate 12 0x5C) 0 0xFFFFFFFE (some MSG_HEADER))
    [⟨[0x0A, 0x02, 0x08, 0x07], by decide⟩] _ rfl rfl (by decide) rfl rfl
    (by decide +kernel) (by decide +kernel)

end BleConnection
end OrbitBhyve.Connection
