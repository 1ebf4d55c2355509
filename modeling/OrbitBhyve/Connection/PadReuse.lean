import OrbitBhyve.Connection.Atomic
import OrbitBhyve.Connection.Opening
import OrbitBhyve.Foundation.Arcs
import OrbitBhyve.Foundation.Runs

/-!
# One pad for both directions

Both directions of a session are covered with blocks of one pad: the key and the
IV are the same, and only the counter tells the blocks apart. The two counters
begin at bytes which the host has drawn, and each goes on by the blocks of its
traffic. So a block covers two pieces of traffic exactly when one direction has
come as far as the other's start, or all the way round.
-/

namespace OrbitBhyve.Connection

open Foundation Python Wire

/-- What happens in a session, and its end. -/
inductive Traffic where
  | sends (plaintext : Bytes)
  | hears (frame : Bytes)
  | clears
  | tearsDown

def padCounters (c : UInt32) (text : Bytes) : List UInt32 :=
  List.iterate (· + 1) c ((text.length + 15) / 16)

theorem aesXor_eq_pad (aes : AesBlock) (iv : Iv) (c : UInt32) (text : Bytes) :
    (aesXor aes iv c text).1 = List.zipWith (· ^^^ ·) text
      (((padCounters c text).flatMap (aesBlock aes iv)).take text.length) := by
  rw [aesXor_eq, ctrApply, keystream_fst]
  rfl

@[simp] theorem length_padCounters (c : UInt32) (text : Bytes) :
    (padCounters c text).length = (text.length + 15) / 16 := by
  simp [padCounters]

theorem toNat_padCounters (c : UInt32) (text : Bytes) :
    (padCounters c text).map UInt32.toNat = arc (2 ^ 32) c.toNat ((text.length + 15) / 16) := by
  rw [padCounters, ← List.range_map_iterate, List.map_map]
  apply List.map_congr_left
  intro i _
  simp only [Function.comp, iterate_succ_uint32, UInt32.toNat_add, UInt32.toNat_ofNat']
  omega

namespace BleConnection

/-- The ciphertext of a frame, as far as the callback decrypts it. -/
def heardCiphertext (c : BleConnection) (frame : Bytes) : Option Bytes :=
  if c.lastRxFrame = some frame ∨ c.handshaken = false ∨ c.iv = none then none
  else if frame.length < 4 ∨ frame.head? ≠ some c.frameMagic then none
  else some ((frame.drop 2).take (frame.getD 1 0).toNat)

end BleConnection

/-- A connection, and the counters of the blocks which each direction was covered with. -/
structure PadUse where
  conn : BleConnection
  sent : List UInt32 := []
  heard : List UInt32 := []

namespace PadUse

def step (aes : AesBlock) (s : PadUse) : Traffic → PadUse
  | .sends plaintext =>
    { s with
      conn := (s.conn.encrypt aes plaintext).2
      sent := s.sent ++
        match s.conn.iv with
        | some _ => padCounters s.conn.txCtr plaintext
        | none => [] }
  | .hears frame =>
    { s with
      conn := (BleConnection.onNotify aes (fun _ d => d) frame (s.conn, ())).1
      heard := s.heard ++
        match s.conn.heardCiphertext frame with
        | some ct => padCounters s.conn.rxCtr ct
        | none => [] }
  | .clears => { s with conn := s.conn.clearBuffers }
  | .tearsDown => { s with conn := s.conn.clearSession }

end PadUse

/-! ## What one piece of traffic does to the counters -/

section Counters

variable {aes : AesBlock} {c : BleConnection}

theorem encrypt_counters (aes : AesBlock) (c : BleConnection) (plaintext : Bytes) :
    (c.encrypt aes plaintext).2.iv = c.iv ∧ (c.encrypt aes plaintext).2.rxCtr = c.rxCtr ∧
      (c.iv.isSome → (c.encrypt aes plaintext).2.txCtr = c.txCtr + frameBlocks plaintext) := by
  cases hiv : c.iv with
  | none => simp [BleConnection.encrypt_without_iv hiv, hiv]
  | some iv =>
    by_cases hfits : plaintext.length ≤ 255
    · simp [BleConnection.encrypt_eq_sealFrame hiv hfits, hiv]
    · simp [BleConnection.encrypt_too_long hiv (Nat.lt_of_not_le hfits), hiv]

theorem onNotify_counters (aes : AesBlock) (c : BleConnection) (frame : Bytes) :
    (BleConnection.onNotify aes (fun _ d => d) frame (c, ())).1.iv = c.iv ∧
      (BleConnection.onNotify aes (fun _ d => d) frame (c, ())).1.txCtr = c.txCtr ∧
      (BleConnection.onNotify aes (fun _ d => d) frame (c, ())).1.rxCtr =
        match c.heardCiphertext frame with
        | some ct => c.rxCtr + frameBlocks ct
        | none => c.rxCtr := by
  by_cases hdup : c.lastRxFrame = some frame
  · rw [BleConnection.onNotify_duplicate _ _ hdup]
    simp [BleConnection.heardCiphertext, hdup]
  · cases hiv : c.iv with
    | none => simp [BleConnection.onNotify, BleConnection.heardCiphertext, hdup, hiv]
    | some iv =>
      by_cases hshaken : c.handshaken = true
      · by_cases hmagic : frame.length < 4 ∨ frame.head? ≠ some c.frameMagic
        · simp [BleConnection.onNotify, BleConnection.heardCiphertext, BleConnection.decrypt,
            BleConnection.scheduleDisconnect, hdup, hiv, hshaken, hmagic]
        · have hcount := aesXor_counter aes iv c.rxCtr
            ((frame.drop 2).take (frame.getD 1 0).toNat)
          have hheard : c.heardCiphertext frame =
              some ((frame.drop 2).take (frame.getD 1 0).toNat) := by
            simp [BleConnection.heardCiphertext, hdup, hiv, hshaken, hmagic]
          simp only [hheard, BleConnection.onNotify, BleConnection.decrypt, if_neg hdup,
            if_neg hmagic, hiv, hshaken, Option.isNone_some, Bool.not_true, Bool.or_self,
            Bool.false_eq_true, if_false, hcount]
          -- the header test comes after the counter has moved
          split_ifs
          · exact ⟨rfl, rfl, rfl⟩
          · exact ⟨rfl, rfl, rfl⟩
          · exact ⟨rfl, rfl, rfl⟩
      · simp [BleConnection.onNotify, BleConnection.heardCiphertext, hdup, hiv, hshaken]

end Counters

/-- The host has drawn the bytes which the counters begin at. -/
theorem acceptReply_counters {c c' : BleConnection} {initTx : Vector UInt8 20} {rx : Bytes}
    (h : c.acceptReply initTx rx = (.ok (), c')) :
    unpackU32 ((initTx.toList.drop 12).take 4) = some c'.txCtr ∧
      unpackU32 ((initTx.toList.drop 16).take 4) = some c'.rxCtr := by
  have hlen : 4 ≤ rx.length := by
    by_contra hshort
    obtain ⟨c'', herror, -⟩ :=
      BleConnection.acceptReply_short c initTx (Nat.lt_of_not_le hshort)
    rw [herror] at h
    cases h
  have hbuf : ∀ n, 12 ≤ n → (handshakeBuf initTx rx).drop n = initTx.toList.drop n := by
    intro n hn
    have hhead : (rx.take 4).length = 4 := by simp [hlen]
    have hzeroed : (initTx.set 11 0).toList.drop n = initTx.toList.drop n := by
      rw [Vector.toList_set, List.drop_set_of_lt (by omega)]
    rw [handshakeBuf, List.drop_append, hhead, List.drop_eq_nil_of_le (by omega), List.nil_append,
      List.drop_drop, Nat.add_sub_cancel' (by omega), hzeroed]
  unfold BleConnection.acceptReply at h
  simp only [hbuf 12 (by omega), hbuf 16 (by omega)] at h
  split at h
  · cases h
  · cases htx : unpackU32 ((initTx.toList.drop 12).take 4) with
    | none => simp [htx] at h
    | some tx =>
      cases hrx : unpackU32 ((initTx.toList.drop 16).take 4) with
      | none => simp [htx, hrx] at h
      | some ctr =>
        simp only [htx, hrx] at h
        obtain ⟨-, rfl⟩ := Prod.mk.inj h
        exact ⟨rfl, rfl⟩

/-! ## The counters of a session -/

/-- The blocks of one direction are those of its counter from `start` on. -/
structure Along (start : UInt32) (used : List UInt32) (next : UInt32) : Prop where
  covered : used.map UInt32.toNat = arc (2 ^ 32) start.toNat used.length
  upTo : next.toNat = (start.toNat + used.length) % 2 ^ 32

namespace Along

variable {start next : UInt32} {used : List UInt32}

theorem nil (start : UInt32) : Along start [] start where
  covered := rfl
  upTo := (Nat.mod_eq_of_lt start.toNat_lt).symm

theorem append (h : Along start used next) (text : Bytes) :
    Along start (used ++ padCounters next text) (next + frameBlocks text) where
  covered := by
    rw [List.map_append, h.covered, toNat_padCounters, h.upTo, arc_append]
    simp
  upTo := by
    rw [UInt32.toNat_add, frameBlocks, UInt32.toNat_ofNat', h.upTo]
    simp only [List.length_append, length_padCounters]
    omega

theorem nodup_iff (h : Along start used next) : used.Nodup ↔ used.length ≤ 2 ^ 32 := by
  rw [← nodup_arc (a := start.toNat) (by decide), ← h.covered]
  exact (List.nodup_map_iff fun _ _ => UInt32.toNat_inj.mp).symm

/-- Two directions have no block in common exactly when neither has come to the other's start. -/
theorem disjoint_iff {start' next' : UInt32} {used' : List UInt32} (h : Along start used next)
    (h' : Along start' used' next') : List.Disjoint used used' ↔ used = [] ∨ used' = [] ∨
      used.length ≤ stepsTo (2 ^ 32) start.toNat start'.toNat ∧
        used'.length ≤ stepsTo (2 ^ 32) start'.toNat start.toNat := by
  by_cases hempty : used = []
  · simp [hempty]
  by_cases hempty' : used' = []
  · simp [hempty']
  have hnat : List.Disjoint used used' ↔
      List.Disjoint (used.map UInt32.toNat) (used'.map UInt32.toNat) :=
    (List.Disjoint.map_iff fun _ _ => UInt32.toNat_inj.mp).symm
  rw [hnat, h.covered, h'.covered, disjoint_arc start.toNat_lt start'.toNat_lt
    (List.length_pos_of_ne_nil hempty) (List.length_pos_of_ne_nil hempty')]
  simp [hempty, hempty']

end Along

namespace PadUse

/-- Both directions go along, under the IV of the session until it is torn down. -/
structure OnArcs (c : BleConnection) (s : PadUse) : Prop where
  sent : Along c.txCtr s.sent s.conn.txCtr
  heard : Along c.rxCtr s.heard s.conn.rxCtr
  iv : s.conn.iv = c.iv ∨ s.conn.iv = none

variable {aes : AesBlock} {c : BleConnection} {s : PadUse}

theorem onArcs_opened (c : BleConnection) : OnArcs c { conn := c } where
  sent := .nil _
  heard := .nil _
  iv := .inl rfl

theorem OnArcs.step (h : OnArcs c s) (aes : AesBlock) (e : Traffic) : OnArcs c (step aes s e) := by
  cases e with
  | sends plaintext =>
    obtain ⟨hiv, hrx, htx⟩ := encrypt_counters aes s.conn plaintext
    refine ⟨?_, ?_, ?_⟩
    · cases hopen : s.conn.iv with
      | none =>
        simpa [PadUse.step, hopen, BleConnection.encrypt_without_iv hopen] using h.sent
      | some iv =>
        simp only [PadUse.step, hopen, htx (by rw [hopen]; rfl)]
        exact h.sent.append plaintext
    · simp only [PadUse.step, hrx]
      exact h.heard
    · simp only [PadUse.step, hiv]
      exact h.iv
  | hears frame =>
    obtain ⟨hiv, htx, hrx⟩ := onNotify_counters aes s.conn frame
    refine ⟨?_, ?_, ?_⟩
    · simp only [PadUse.step, htx]
      exact h.sent
    · simp only [PadUse.step, hrx]
      cases s.conn.heardCiphertext frame with
      | none => simpa using h.heard
      | some ct => exact h.heard.append ct
    · simp only [PadUse.step, hiv]
      exact h.iv
  | clears => exact ⟨h.sent, h.heard, h.iv⟩
  | tearsDown => exact ⟨h.sent, h.heard, .inr rfl⟩

theorem OnArcs.run (h : OnArcs c s) (aes : AesBlock) (es : List Traffic) :
    OnArcs c (Foundation.run (PadUse.step aes) s es) := by
  induction es generalizing s with
  | nil => exact h
  | cons e es ih => exact ih (h.step aes e)

/-- Whatever a session carries: no block of the pad covers two pieces of traffic exactly when
neither direction has gone all the way round, nor, where both have begun, come to the bytes
at which the host began the other. -/
theorem pad_used_once_iff (aes : AesBlock) {c₀ c : BleConnection} {initTx : Vector UInt8 20}
    {rx : Bytes} (hopen : c₀.acceptReply initTx rx = (.ok (), c)) (es : List Traffic) :
    ∃ tx₀ rx₀, unpackU32 ((initTx.toList.drop 12).take 4) = some tx₀ ∧
      unpackU32 ((initTx.toList.drop 16).take 4) = some rx₀ ∧
      let s := Foundation.run (PadUse.step aes) { conn := c } es
      (s.conn.iv = c.iv ∨ s.conn.iv = none) ∧
        ((s.sent ++ s.heard).Nodup ↔ s.sent.length ≤ 2 ^ 32 ∧ s.heard.length ≤ 2 ^ 32 ∧
          (s.sent = [] ∨ s.heard = [] ∨
            s.sent.length ≤ stepsTo (2 ^ 32) tx₀.toNat rx₀.toNat ∧
              s.heard.length ≤ stepsTo (2 ^ 32) rx₀.toNat tx₀.toNat)) := by
  obtain ⟨htx, hrx⟩ := acceptReply_counters hopen
  have harcs := (onArcs_opened c).run aes es
  refine ⟨c.txCtr, c.rxCtr, htx, hrx, harcs.iv, ?_⟩
  rw [List.nodup_append', harcs.sent.nodup_iff, harcs.heard.nodup_iff,
    harcs.sent.disjoint_iff harcs.heard]

/-- Bytes of the host's which begin the counters next to each other. -/
def adjacentTx : Vector UInt8 20 := (Vector.replicate 20 0).set 16 1

/-- Two blocks are sent and one is heard. -/
def adjacentTraffic : List Traffic :=
  [.sends (List.replicate 20 7), .hears [0x11, 2, 8, 9, 0, 0]]

theorem pad_used_once_iff_adjacent :
    let s := Foundation.run (PadUse.step fun block => block)
      { conn := .afterHandshake #v[1, 2, 3, 4, 0, 0, 0, 0, 0, 0, 0, 0] 0 1 none } adjacentTraffic
    s.sent = [0, 1] ∧ s.heard = [1] ∧ ¬ (s.sent ++ s.heard).Nodup := by
  intro s
  have hsent : s.sent = [0, 1] := by decide +kernel
  have hheard : s.heard = [1] := by decide +kernel
  have hopen : BleConnection.acceptReply adjacentTx [1, 2, 3, 4]
      (.clearSession (.afterHandshake (Vector.replicate 12 0) 0 0 none)) =
        (.ok (), .afterHandshake #v[1, 2, 3, 4, 0, 0, 0, 0, 0, 0, 0, 0] 0 1 none) := rfl
  obtain ⟨tx₀, rx₀, htx, hrx, -, hiff⟩ :=
    pad_used_once_iff (fun block => block) hopen adjacentTraffic
  obtain rfl : 0 = tx₀ := Option.some.inj htx
  obtain rfl : 1 = rx₀ := Option.some.inj hrx
  refine ⟨hsent, hheard, fun hnodup => ?_⟩
  obtain ⟨-, -, hapart⟩ := hiff.mp hnodup
  change s.sent = [] ∨ s.heard = [] ∨ _ at hapart
  rw [hsent, hheard] at hapart
  revert hapart
  decide +kernel

end PadUse
end OrbitBhyve.Connection
