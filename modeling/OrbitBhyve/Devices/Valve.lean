import OrbitBhyve.Devices.Echoes

/-!
# The valve of a mesh timer

What the comments of the mesh classes record of a timer: a start opens the valve
for the seconds in the frame, its own timer or a stop closes it, an ack is the
frame of the command with the reply bit set, and a status tells the countdown in
ticks of a 64th of a second. Read back by the observer, each frame says of the
run what was true of the valve when the frame was sent.
-/

namespace OrbitBhyve.Devices

open Foundation Python Wire

/-- A run under the timer of the valve: when it began, in microseconds since the epoch, and
the seconds it was started for. -/
structure ValveRun where
  openedAt : ℤ
  durationSec : ℕ
  pos : 0 < durationSec
  le : durationSec ≤ 0xFFFF

def ValveRun.closesAt (r : ValveRun) : ℤ := r.openedAt + r.durationSec * 1000000

/-- The last run of a valve, unless a stop ended it. -/
abbrev Valve := Option ValveRun

def Valve.isOpen (now : ℤ) : Valve → Prop
  | none => False
  | some r => now < r.closesAt

instance (now : ℤ) (v : Valve) : Decidable (v.isOpen now) :=
  match v with
  | none => inferInstanceAs (Decidable False)
  | some r => inferInstanceAs (Decidable (now < r.closesAt))

def valveCommand (now : ℤ) (pt : Bytes) : Option Valve :=
  if byteAt pt 3 = SEQ_WATER_CTRL then
    if byteAt pt 2 = 0xB6 then
      if h : 0 < wordAt pt 6 ∧ wordAt pt 6 ≤ 0xFFFF then
        some (some ⟨now, wordAt pt 6, h.1, h.2⟩)
      else none
    else if byteAt pt 2 = 0xB7 then some none
    else none
  else none

/-- The ack of a command: its frame with the reply bit set. -/
def ackOf (pt : Bytes) : Bytes := pt.set 2 (pt.getD 2 0 ||| 0x40)

def ValveRun.ticks (r : ValveRun) (now : ℤ) : ℕ := ((r.closesAt - now) * 64 / 1000000).toNat

/-- The reply to the status step of an init. -/
def statusFrame (address : Bytes) (now : ℤ) (v : Valve) : Bytes :=
  address ++ [0x42, UInt8.ofNat SEQ_STATUS, UInt8.ofNat D747_ROUTING] ++
    match v with
    | none => [0x01]
    | some r =>
      if now < r.closesAt then
        [0x04] ++ packU16 (BitVec.ofNat 16 (r.ticks now)) ++
          [UInt8.ofNat (0x40 ||| r.ticks now / 65536)] ++
          packU16 (BitVec.ofNat 16 r.durationSec) ++ [0]
      else [0x01]

/-! ## Commands and their acks -/

section Commands

variable {d d' : Ht25Device} {pt : Bytes}

theorem meshAddress_of_build {typeByte seq : ℕ} {payload : Bytes}
    (h : d.build typeByte seq payload = .ok pt) : ∃ a b, d.meshAddress = .ok [a, b] ∧
      pt = a :: b :: UInt8.ofNat typeByte :: UInt8.ofNat seq :: UInt8.ofNat D747_ROUTING ::
        payload := by
  unfold Ht25Device.build at h
  cases haddr : d.meshAddress with
  | error e =>
    rw [haddr] at h
    cases h
  | ok address =>
    rw [haddr] at h
    obtain ⟨a, b, rfl⟩ := List.length_eq_two.mp (length_meshAddress haddr)
    cases h
    exact ⟨a, b, rfl, rfl⟩

theorem isOwnFrame_of_meshAddress {address : Bytes} (h : d.meshAddress = .ok address)
    (len seq : ℕ) (pt : Bytes) : ∃ own, isOwnFrame len seq pt d = .ok own := by
  unfold isOwnFrame
  split_ifs
  · exact ⟨false, rfl⟩
  · rw [h]
    exact ⟨_, rfl⟩

theorem meshAddress_congr (h : d'.meshDeviceId = d.meshDeviceId) :
    d'.meshAddress = d.meshAddress := by
  unfold Ht25Device.meshAddress
  rw [h]

theorem ackOf_cons (a b t : UInt8) (rest : Bytes) :
    ackOf (a :: b :: t :: rest) = a :: b :: (t ||| 0x40) :: rest := rfl

theorem isMeshReply_cons (a b s p : UInt8) {t : UInt8} (ht : (t.toNat &&& 0x40 != 0) = true)
    (rest : Bytes) :
    isMeshReply (a :: b :: t :: s :: UInt8.ofNat D747_ROUTING :: p :: rest) = true := by
  have hframe : 6 ≤ (a :: b :: t :: s :: UInt8.ofNat D747_ROUTING :: p :: rest).length ∧
      byteAt (a :: b :: t :: s :: UInt8.ofNat D747_ROUTING :: p :: rest) 4 = D747_ROUTING :=
    ⟨by simp, rfl⟩
  rw [isMeshReply, decide_eq_true hframe]
  exact ht

theorem ackedCommand_cons (a b t : UInt8) (rest : Bytes) :
    ackedCommand (a :: b :: t :: rest) = Nat.ldiff t.toNat 0x40 := rfl

/-- An ack is read by what it says alone, once the address of the device is known. -/
theorem meshReport_of_ack (now : DateTime) (hreply : isMeshReply pt = true)
    (hseq : byteAt pt 3 = SEQ_WATER_CTRL) {address : Bytes} (h : d.meshAddress = .ok address) :
    meshReport now pt d = ackReport pt d := by
  obtain ⟨own, hown⟩ := isOwnFrame_of_meshAddress h 11 SEQ_FLOW pt
  have hstatus : ¬ (isMeshReply pt = true ∧ byteAt pt 3 = SEQ_STATUS) := by
    rw [hseq]
    exact fun h => absurd h.2 (by decide)
  rw [meshReport, if_neg hstatus, if_pos ⟨hreply, hseq⟩, hown]

theorem startFrame_of_buildStart {durationSec : ℤ} (h : d.buildStart 0xB6 durationSec = .ok pt) :
    0 < durationSec ∧ durationSec ≤ 0xFFFF ∧ ∃ a b, d.meshAddress = .ok [a, b] ∧
      pt = a :: b :: 0xB6 :: UInt8.ofNat SEQ_WATER_CTRL :: UInt8.ofNat D747_ROUTING :: 0x04 ::
        (packU16 (BitVec.ofInt 16 durationSec) ++ [0, 0, 0, 0]) := by
  unfold Ht25Device.buildStart at h
  split_ifs at h with hrange
  have hbytes : toBytes2 durationSec = .ok (packU16 (BitVec.ofInt 16 durationSec)) :=
    if_pos ⟨hrange.1.le, hrange.2⟩
  rw [hbytes] at h
  exact ⟨hrange.1, hrange.2, meshAddress_of_build h⟩

theorem wordAt_startFrame {durationSec : ℤ} (hlow : 0 < durationSec) (hhigh : durationSec ≤ 0xFFFF)
    (a b t s r m : UInt8) (rest : Bytes) :
    (wordAt (a :: b :: t :: s :: r :: m :: (packU16 (BitVec.ofInt 16 durationSec) ++ rest)) 6 : ℤ) =
      durationSec := by
  have hvalue : (BitVec.ofInt 16 durationSec).toNat = durationSec.toNat := by
    rw [BitVec.toNat_ofInt]
    omega
  have hword : wordAt (a :: b :: t :: s :: r :: m ::
      (packU16 (BitVec.ofInt 16 durationSec) ++ rest)) 6 = durationSec.toNat := by
    rw [← hvalue, ← unpackU16_packU16 (BitVec.ofInt 16 durationSec)]
    rfl
  rw [hword]
  omega

theorem valveCommand_of_buildStart {durationSec : ℤ}
    (h : d.buildStart 0xB6 durationSec = .ok pt) (now : ℤ) : ∃ r : ValveRun,
      valveCommand now pt = some (some r) ∧ r.openedAt = now ∧ (r.durationSec : ℤ) = durationSec := by
  obtain ⟨hlow, hhigh, a, b, -, rfl⟩ := startFrame_of_buildStart h
  have hword := wordAt_startFrame hlow hhigh a b 0xB6 (UInt8.ofNat SEQ_WATER_CTRL)
    (UInt8.ofNat D747_ROUTING) 0x04 [0, 0, 0, 0]
  set pt := a :: b :: 0xB6 :: UInt8.ofNat SEQ_WATER_CTRL :: UInt8.ofNat D747_ROUTING :: 0x04 ::
    (packU16 (BitVec.ofInt 16 durationSec) ++ [0, 0, 0, 0])
  have hrange : 0 < wordAt pt 6 ∧ wordAt pt 6 ≤ 0xFFFF := by omega
  refine ⟨⟨now, wordAt pt 6, hrange.1, hrange.2⟩, ?_, rfl, hword⟩
  have hseq : byteAt pt 3 = SEQ_WATER_CTRL := rfl
  have htype : byteAt pt 2 = 0xB6 := rfl
  rw [valveCommand, if_pos hseq, if_pos htype, dif_pos hrange]

/-- The ack of a start says that the run was started for its seconds. -/
theorem meshReport_ackOf_start {durationSec : ℤ} (h : d.buildStart 0xB6 durationSec = .ok pt)
    (hid : d'.meshDeviceId = d.meshDeviceId) (now : DateTime) :
    meshReport now (ackOf pt) d' = some (.started durationSec) := by
  obtain ⟨hlow, hhigh, a, b, haddr, rfl⟩ := startFrame_of_buildStart h
  rw [← meshAddress_congr hid] at haddr
  have hword := wordAt_startFrame hlow hhigh a b 0xF6 (UInt8.ofNat SEQ_WATER_CTRL)
    (UInt8.ofNat D747_ROUTING) 0x04 [0, 0, 0, 0]
  have hbit : (0xB6 : UInt8) ||| 0x40 = 0xF6 := by decide
  rw [ackOf_cons, hbit]
  set ack := a :: b :: 0xF6 :: UInt8.ofNat SEQ_WATER_CTRL :: UInt8.ofNat D747_ROUTING :: 0x04 ::
    (packU16 (BitVec.ofInt 16 durationSec) ++ [0, 0, 0, 0])
  have hcommand : ackedCommand ack = 0xB6 :=
    (ackedCommand_cons a b 0xF6 _).trans (by decide +kernel)
  have hduration : ackedDuration ack d'.pendingStartDuration = some (wordAt ack 6 : ℤ) := by
    apply if_pos
    refine ⟨by simp [ack], rfl, ?_⟩
    omega
  rw [meshReport_of_ack now (isMeshReply_cons a b _ _ (by decide) _) rfl haddr, ackReport,
    if_pos hcommand, hduration, hword]
  rfl

theorem valveCommand_of_buildStop (h : d.buildStop 0xB7 = .ok pt) (now : ℤ) :
    valveCommand now pt = some none := by
  obtain ⟨a, b, -, rfl⟩ := meshAddress_of_build h
  rfl

theorem meshReport_ackOf_stop (h : d.buildStop 0xB7 = .ok pt)
    (hid : d'.meshDeviceId = d.meshDeviceId) (now : DateTime) :
    meshReport now (ackOf pt) d' = some .idle := by
  obtain ⟨a, b, haddr, rfl⟩ := meshAddress_of_build h
  rw [← meshAddress_congr hid] at haddr
  have hbit : UInt8.ofNat 0xB7 ||| 0x40 = 0xF7 := by decide
  have hcommand : Nat.ldiff (0xF7 : UInt8).toNat 0x40 = 0xB7 := by decide +kernel
  rw [ackOf_cons, hbit,
    meshReport_of_ack now (isMeshReply_cons a b _ _ (by decide) _) rfl haddr, ackReport,
    ackedCommand_cons, hcommand]
  rfl

end Commands

/-! ## Statuses -/

/-- A day away from the ends of the calendar. -/
def WithinCalendar (now : DateTime) : Prop :=
  minMicros + 86400 * 1000000 ≤ now.micros ∧ now.micros + 86400 * 1000000 ≤ maxMicros

instance (now : DateTime) : Decidable (WithinCalendar now) := inferInstanceAs (Decidable (_ ∧ _))

theorem WithinCalendar.addSeconds {now : DateTime} (h : WithinCalendar now) {n : ℤ}
    (hlow : -86400 ≤ n) (hhigh : n ≤ 86400) : ∃ t, now.addSeconds n = .ok t ∧
      t.micros = now.micros + n * 1000000 := by
  obtain ⟨hlo, hhi⟩ := h
  exact ⟨⟨now.micros + n * 1000000, by omega, by omega⟩, DateTime.addSeconds_eq_ok.mpr rfl, rfl⟩

theorem ticks_split {n : ℕ} (h : n < 2 ^ 22) :
    n % 65536 ||| (((0x40 ||| n / 65536) &&& 0x3F) <<< 16) = n := by
  have hhigh : ∀ k < 64, (0x40 ||| k) &&& 0x3F = k := by decide
  rw [hhigh (n / 65536) (by omega), Nat.or_comm,
    ← Nat.shiftLeft_add_eq_or_of_lt (Nat.mod_lt n (by norm_num)), Nat.shiftLeft_eq]
  omega

namespace ValveRun

variable {r : ValveRun} {sentAt : ℤ}

/-- The whole seconds which are left of a run. -/
def remaining (r : ValveRun) (now : ℤ) : ℕ := r.ticks now / MESH_COUNTDOWN_HZ

theorem ticks_lt (h : r.openedAt ≤ sentAt) : r.ticks sentAt < 2 ^ 22 := by
  have hduration := r.le
  unfold ticks closesAt
  omega

theorem remaining_le (h : r.openedAt ≤ sentAt) : r.remaining sentAt ≤ r.durationSec := by
  unfold remaining ticks closesAt MESH_COUNTDOWN_HZ
  omega

/-- A countdown is short of the time which is left by less than a second. -/
theorem remaining_bounds (h : sentAt < r.closesAt) :
    r.closesAt - 1000000 < sentAt + r.remaining sentAt * 1000000 ∧
      sentAt + r.remaining sentAt * 1000000 ≤ r.closesAt := by
  unfold remaining ticks MESH_COUNTDOWN_HZ
  omega

end ValveRun

section Statuses

variable {address : Bytes} {sentAt : ℤ} {v : Valve} {now : DateTime} {d : Ht25Device}

theorem meshReport_status_closed (haddr : address.length = 2) (h : ¬ v.isOpen sentAt) :
    meshReport now (statusFrame address sentAt v) d = some .idle := by
  obtain ⟨a, b, rfl⟩ := List.length_eq_two.mp haddr
  have hframe : statusFrame [a, b] sentAt v =
      [a, b, 0x42, UInt8.ofNat SEQ_STATUS, UInt8.ofNat D747_ROUTING, 0x01] := by
    cases v with
    | none => rfl
    | some r =>
      have hpast : ¬ sentAt < r.closesAt := h
      simp [statusFrame, hpast]
  have hreply : isMeshReply (statusFrame [a, b] sentAt v) = true ∧
      byteAt (statusFrame [a, b] sentAt v) 3 = SEQ_STATUS := by
    rw [hframe]
    exact ⟨isMeshReply_cons a b _ _ (by decide) _, rfl⟩
  rw [meshReport, if_pos hreply, hframe]
  rfl

/-- A status of an open valve says that the run is on, and its countdown is believed. -/
theorem meshReport_status_open (haddr : address.length = 2) {r : ValveRun}
    (hopened : r.openedAt ≤ sentAt) (hopen : sentAt < r.closesAt) (hnow : WithinCalendar now) :
    meshReport now (statusFrame address sentAt (some r)) d =
      some (.running (some (r.remaining sentAt))) := by
  obtain ⟨a, b, rfl⟩ := List.length_eq_two.mp haddr
  set n := r.ticks sentAt with hn
  have hlt : n < 2 ^ 22 := ValveRun.ticks_lt hopened
  set pt := statusFrame [a, b] sentAt (some r) with hpt
  have hframe : pt = a :: b :: 0x42 :: UInt8.ofNat SEQ_STATUS :: UInt8.ofNat D747_ROUTING ::
      0x04 :: (packU16 (BitVec.ofNat 16 n) ++ [UInt8.ofNat (0x40 ||| n / 65536)] ++
        packU16 (BitVec.ofNat 16 r.durationSec) ++ [0]) := by
    simp [hpt, statusFrame, hopen, hn]
  have hticks : wordAt pt 6 = n % 65536 := by
    have hvalue : (BitVec.ofNat 16 n).toNat = n % 65536 := BitVec.toNat_ofNat n 16
    rw [← hvalue, ← unpackU16_packU16, hframe]
    rfl
  have hhigh : byteAt pt 8 = 0x40 ||| n / 65536 := by
    have hsmall : ∀ k < 64, (UInt8.ofNat (0x40 ||| k)).toNat = 0x40 ||| k := by decide
    rw [← hsmall (n / 65536) (by omega), hframe]
    rfl
  have hduration : wordAt pt 9 = r.durationSec := by
    have hle := r.le
    have hvalue : (BitVec.ofNat 16 r.durationSec).toNat = r.durationSec := by
      rw [BitVec.toNat_ofNat]
      omega
    rw [← hvalue, ← unpackU16_packU16, hframe]
    rfl
  have hremaining : meshRemaining pt = r.remaining sentAt := by
    rw [meshRemaining, hticks, hhigh, ticks_split hlt]
    rfl
  have hplausible : meshPlausible pt = true := by
    rw [meshPlausible, hduration, hremaining]
    exact decide_eq_true ⟨r.pos, r.le, ValveRun.remaining_le hopened⟩
  have hlength : pt.length = 12 := by
    rw [hframe]
    rfl
  have hstart : ∃ t, synthesizedStart now (wordAt pt 9 - meshRemaining pt) d.state.startedAt =
      .ok t := by
    unfold synthesizedStart
    cases d.state.startedAt with
    | some start => exact ⟨start, rfl⟩
    | none =>
      have hle := r.le
      rw [hduration]
      obtain ⟨t, ht, -⟩ := hnow.addSeconds
        (n := -((r.durationSec - meshRemaining pt : ℕ) : ℤ)) (by omega) (by omega)
      exact ⟨t, ht⟩
  obtain ⟨t, ht⟩ := hstart
  have hcountdown : meshCountdown now pt d = some (r.remaining sentAt) := by
    rw [meshCountdown, if_pos ⟨by omega, hplausible⟩, ht, hremaining]
  have hreply : isMeshReply pt = true ∧ byteAt pt 3 = SEQ_STATUS := by
    rw [hframe]
    exact ⟨isMeshReply_cons a b _ _ (by decide) _, rfl⟩
  have hmode : byteAt pt 5 = 0x04 := by
    rw [hframe]
    rfl
  rw [meshReport, if_pos hreply, modeReport, if_pos hmode, hcountdown]

end Statuses
end OrbitBhyve.Devices
