import OrbitBhyve.Connection.Reassembly
import OrbitBhyve.Connection.Tasks
import OrbitBhyve.Foundation.QuietWindow
import Mathlib.Data.List.TakeWhile

/-!
# How long a write waits for its reply

`_drain` returns once the device has gone quiet and at the deadline at the
latest. Instants are microseconds of `loop.time()`. While a write waits, the
callback runs on every notification and a `disconnect` of another task, which
takes no lock, may come to its end. A frame at the very instant of a time-out
finds the wait over.
-/

namespace OrbitBhyve.Connection

open Foundation Python Wire

/-- `NOTIF_QUIET_SEC`, in microseconds. -/
def NOTIF_QUIET_SEC : ℤ := 350000

/-- What runs between two suspensions of a write. -/
inductive Arrival where
  /-- A notification reaches `_on_notify`. -/
  | notification (frame : Bytes)
  /-- The last segment of a `disconnect`. -/
  | closed
  deriving DecidableEq

/-- The notifications which are not re-deliveries of the frame before, after one of `last`. -/
def fresh : Option Bytes → List (ℤ × Arrival) → List (ℤ × Bytes)
  | _, [] => []
  | last, (t, .notification frame) :: rest =>
    if last = some frame then fresh last rest else (t, frame) :: fresh (some frame) rest
  | _, (_, .closed) :: rest => fresh none rest

namespace BleConnection

variable {δ : Type*}

/-- Whether an arrival sets `_notif_event`. -/
def wakes (c : BleConnection) : Arrival → Bool
  | .notification frame => c.lastRxFrame ≠ some frame
  | .closed => false

/-- The instant at which a wait of `_drain` which starts `now` times out. -/
def waitLimit (deadline now : ℤ) (c : BleConnection) : ℤ :=
  now + if c.notifBuf = [] then deadline - now else min NOTIF_QUIET_SEC (deadline - now)

variable (aes : AesBlock) (observer : Bytes → δ → δ)

def arrive : Arrival → BleConnection × δ → BleConnection × δ
  | .notification frame, s => onNotify aes observer frame s
  | .closed, (c, d) => (c.clearSession, d)

def arriveAll (arrivals : List (ℤ × Arrival)) (s : BleConnection × δ) : BleConnection × δ :=
  arrivals.foldl (fun s a => arrive aes observer a.2 s) s

/-- The rounds of `_drain`, from a wait which times out at `limit`. -/
def drainRounds (deadline : ℤ) :
    ℤ → List (ℤ × Arrival) → BleConnection × δ → ℤ × BleConnection × δ
  | limit, [], s => (limit, s)
  | limit, (t, a) :: rest, s =>
    if limit ≤ t then (limit, s)
    else if s.1.wakes a then
      let s := arrive aes observer a s
      if deadline - t ≤ 0 then (t, s)
      else drainRounds deadline (waitLimit deadline t s.1) rest s
    -- the callback drops a re-delivery without setting the event
    else drainRounds deadline limit rest (arrive aes observer a s)

/-- `_drain`, started `now`, with the instant it returns at. -/
def drain (drainMs now : ℤ) (arrivals : List (ℤ × Arrival)) (s : BleConnection × δ) :
    ℤ × BleConnection × δ :=
  let deadline := now + 1000 * drainMs
  if deadline - now ≤ 0 then (now, s)
  else drainRounds aes observer deadline (waitLimit deadline now s.1) arrivals s

/-- The body which `_write_and_drain`, `send_stream` and `send_actuation` share, up to the
reply, where the write returns at the instant `wrote`. -/
def writeThenDrain (plaintext : Bytes) (drainMs wrote : ℤ) (arrivals : List (ℤ × Arrival))
    (s : BleConnection × δ) : Except PyErr (ℤ × BleConnection × δ) :=
  match s.1.clearBuffers.encrypt aes plaintext with
  | (.error e, _) => .error e
  | (.ok _, c) =>
    let s := arriveAll aes observer (arrivals.takeWhile (·.1 < wrote)) (c, s.2)
    .ok (drain aes observer drainMs wrote (arrivals.dropWhile (·.1 < wrote)) s)

/-- `_write_and_drain`, with the instant it returns at. -/
def writeAndDrain (plaintext : Bytes) (drainMs wrote : ℤ) (arrivals : List (ℤ × Arrival))
    (s : BleConnection × δ) : Except PyErr (ℤ × List Bytes × BleConnection × δ) := do
  let (t, c, d) ← writeThenDrain aes observer plaintext drainMs wrote arrivals s
  .ok (t, c.notifBuf, c.clearNotifBuf, d)

/-- `send_stream` in an established session, with the instant it returns at. -/
def sendStream (plaintext : Bytes) (drainMs wrote : ℤ) (arrivals : List (ℤ × Arrival))
    (s : BleConnection × δ) : Except PyErr (ℤ × Bytes × BleConnection × δ) := do
  let (t, c, d) ← writeThenDrain aes observer plaintext drainMs wrote arrivals s
  .ok (t, c.notifPt.flatten, c.clearBuffers, d)

variable {aes observer}

/-! ## What an arrival leaves in the buffer -/

theorem decrypt_frame {c c' : BleConnection} {frame pt : Bytes}
    (h : decrypt aes frame c = .ok (pt, c')) :
    c'.notifBuf = c.notifBuf ∧ c'.lastRxFrame = c.lastRxFrame := by
  unfold decrypt at h
  simp only at h
  split at h
  · cases h
  · split at h
    · split at h
      · cases h
        exact ⟨rfl, rfl⟩
      · cases h
    · cases h
      exact ⟨rfl, rfl⟩

variable (aes observer) in
theorem onNotify_new (d : δ) {c : BleConnection} {frame : Bytes}
    (hnew : c.lastRxFrame ≠ some frame) :
    (onNotify aes observer frame (c, d)).1.notifBuf = c.notifBuf ++ [frame] ∧
      (onNotify aes observer frame (c, d)).1.lastRxFrame = some frame := by
  unfold onNotify
  simp only [if_neg hnew]
  split
  · exact ⟨rfl, rfl⟩
  · split
    · exact ⟨rfl, rfl⟩
    · rename_i pt c' hdec
      obtain ⟨hbuf, hlast⟩ := decrypt_frame hdec
      split
      · split
        · exact ⟨hbuf, hlast⟩
        · exact ⟨hbuf, hlast⟩
      · exact ⟨hbuf, hlast⟩

@[simp] theorem arriveAll_cons (a : ℤ × Arrival) (rest : List (ℤ × Arrival))
    (s : BleConnection × δ) :
    arriveAll aes observer (a :: rest) s =
      arriveAll aes observer rest (arrive aes observer a.2 s) := rfl

theorem arriveAll_append (as bs : List (ℤ × Arrival)) (s : BleConnection × δ) :
    arriveAll aes observer (as ++ bs) s =
      arriveAll aes observer bs (arriveAll aes observer as s) :=
  List.foldl_append

theorem notifBuf_arriveAll (arrivals : List (ℤ × Arrival)) (s : BleConnection × δ) :
    (arriveAll aes observer arrivals s).1.notifBuf =
      s.1.notifBuf ++ (fresh s.1.lastRxFrame arrivals).map Prod.snd := by
  induction arrivals generalizing s with
  | nil => simp [arriveAll, fresh]
  | cons a rest ih =>
    obtain ⟨c, d⟩ := s
    obtain ⟨t, frame | _⟩ := a
    · rw [arriveAll_cons, ih, fresh]
      by_cases hdup : c.lastRxFrame = some frame
      · simp only [arrive, onNotify_duplicate observer d hdup, hdup, if_true]
      · obtain ⟨hbuf, hlast⟩ := onNotify_new aes observer d hdup
        simp only [arrive, hbuf, hlast, if_neg hdup, List.map_cons, List.append_assoc,
          List.singleton_append]
    · rw [arriveAll_cons, ih, fresh]
      rfl

/-- A re-delivery is told from the last frame alone, so the fresh frames can be
counted part by part. -/
theorem fresh_append (as bs : List (ℤ × Arrival)) (s : BleConnection × δ) :
    fresh s.1.lastRxFrame (as ++ bs) =
      fresh s.1.lastRxFrame as ++ fresh (arriveAll aes observer as s).1.lastRxFrame bs := by
  induction as generalizing s with
  | nil => rfl
  | cons a rest ih =>
    obtain ⟨c, d⟩ := s
    obtain ⟨t, frame | _⟩ := a
    · rw [List.cons_append, fresh, fresh, arriveAll_cons]
      by_cases hdup : c.lastRxFrame = some frame
      · have hrest := ih (c, d)
        simp only [arrive, onNotify_duplicate observer d hdup, hdup, if_true] at hrest ⊢
        exact hrest
      · have hlast := (onNotify_new aes observer d hdup).2
        have hrest := ih (onNotify aes observer frame (c, d))
        rw [hlast] at hrest
        simp only [arrive, if_neg hdup, hrest, List.cons_append]
    · exact ih (c.clearSession, d)

/-- The instants of the fresh frames are among those of the arrivals, in their order. -/
theorem fresh_sublist (last : Option Bytes) (arrivals : List (ℤ × Arrival)) :
    ((fresh last arrivals).map Prod.fst).Sublist (arrivals.map Prod.fst) := by
  induction arrivals generalizing last with
  | nil => exact List.Sublist.slnil
  | cons a rest ih =>
    obtain ⟨t, frame | _⟩ := a
    · rw [fresh]
      split_ifs
      · exact (ih _).cons _
      · exact (ih _).cons_cons _
    · exact (ih _).cons _

theorem takeWhile_before_eq_nil {α : Type*} {l : List (ℤ × α)} {T : ℤ}
    (h : ∀ x ∈ l, T ≤ x.1) : l.takeWhile (·.1 < T) = [] := by
  cases l with
  | nil => rfl
  | cons x xs => exact List.takeWhile_cons_of_neg (by simpa using h x (by simp))

theorem le_of_mem_dropWhile {α : Type*} {l : List (ℤ × α)}
    (hsorted : (l.map Prod.fst).Pairwise (· ≤ ·)) {T : ℤ} {x : ℤ × α}
    (hx : x ∈ l.dropWhile (·.1 < T)) : T ≤ x.1 := by
  induction l with
  | nil => simp at hx
  | cons y ys ih =>
    obtain ⟨hafter, hsorted'⟩ := List.pairwise_cons.mp hsorted
    rcases lt_or_ge y.1 T with hsoon | hlate
    · rw [List.dropWhile_cons_of_pos (by simpa using hsoon)] at hx
      exact ih hsorted' hx
    · rw [List.dropWhile_cons_of_neg (by simpa using hlate)] at hx
      rcases List.mem_cons.mp hx with rfl | hx
      · exact hlate
      · exact hlate.trans (hafter _ (List.mem_map_of_mem hx))

theorem fresh_takeWhile {last : Option Bytes} {arrivals : List (ℤ × Arrival)}
    (hsorted : (arrivals.map Prod.fst).Pairwise (· ≤ ·)) (T : ℤ) :
    fresh last (arrivals.takeWhile (·.1 < T)) = (fresh last arrivals).takeWhile (·.1 < T) := by
  induction arrivals generalizing last with
  | nil => rfl
  | cons a rest ih =>
    obtain ⟨t, ev⟩ := a
    rw [List.map_cons] at hsorted
    obtain ⟨hafter, hsorted'⟩ := List.pairwise_cons.mp hsorted
    rcases lt_or_ge t T with hsoon | hlate
    · rw [List.takeWhile_cons_of_pos (by simpa using hsoon)]
      cases ev with
      | closed => exact ih hsorted'
      | notification frame =>
        rw [fresh, fresh]
        split_ifs
        · exact ih hsorted'
        · rw [List.takeWhile_cons_of_pos (by simpa using hsoon), ih hsorted']
    · rw [List.takeWhile_cons_of_neg (by simpa using hlate), fresh]
      refine (takeWhile_before_eq_nil fun x hx => ?_).symm
      rcases List.mem_cons.mp ((fresh_sublist _ _).subset (List.mem_map_of_mem hx)) with hm | hm
      · rwa [hm]
      · exact hlate.trans (hafter _ hm)

/-! ## The rounds and the window -/

/-- The end of the window which the fresh frames hold open. -/
def drainEnd (deadline limit : ℤ) (last : Option Bytes) (arrivals : List (ℤ × Arrival)) : ℤ :=
  windowEnd NOTIF_QUIET_SEC deadline limit ((fresh last arrivals).map Prod.fst)

theorem quiet_pos : 0 < NOTIF_QUIET_SEC := by decide

theorem arriveAll_takeWhile_cons {t T : ℤ} (ht : t < T) (a : Arrival)
    (rest : List (ℤ × Arrival)) (s : BleConnection × δ) :
    arriveAll aes observer (((t, a) :: rest).takeWhile (·.1 < T)) s =
      arriveAll aes observer (rest.takeWhile (·.1 < T)) (arrive aes observer a s) := by
  rw [List.takeWhile_cons_of_pos (by simpa using ht), arriveAll_cons]

theorem lt_drainEnd {deadline limit t : ℤ} {last : Option Bytes} {rest : List (ℤ × Arrival)}
    (hlimit : t < limit) (hin : t < deadline) (hafter : ∀ m ∈ rest.map Prod.fst, t ≤ m) :
    t < drainEnd deadline limit last rest :=
  lt_windowEnd quiet_pos hlimit hin fun m hm => hafter m ((fresh_sublist last rest).subset hm)

/-- A wait with a frame in the buffer lasts for the quiet gap, the deadline permitting. -/
theorem waitLimit_of_notifBuf {deadline now : ℤ} {c : BleConnection} (h : c.notifBuf ≠ []) :
    waitLimit deadline now c = min (now + NOTIF_QUIET_SEC) deadline := by
  rw [waitLimit, if_neg h, ← min_add_add_left, add_sub_cancel]

theorem waitLimit_of_silent {deadline now : ℤ} {c : BleConnection} (h : c.notifBuf = []) :
    waitLimit deadline now c = deadline := by
  rw [waitLimit, if_pos h, add_sub_cancel]

/-- The rounds of the loop are the window which the fresh frames hold open, and what
arrives before its end is what runs. Induction on the arrivals: the limit of the wait
is all that the loop carries over. -/
theorem drainRounds_eq {deadline limit : ℤ} {arrivals : List (ℤ × Arrival)}
    (s : BleConnection × δ) (hlimit : limit ≤ deadline)
    (hsorted : (arrivals.map Prod.fst).Pairwise (· ≤ ·)) :
    drainRounds aes observer deadline limit arrivals s =
      (drainEnd deadline limit s.1.lastRxFrame arrivals,
        arriveAll aes observer
          (arrivals.takeWhile (·.1 < drainEnd deadline limit s.1.lastRxFrame arrivals)) s) := by
  induction arrivals generalizing limit s with
  | nil => rfl
  | cons a rest ih =>
    obtain ⟨t, ev⟩ := a
    obtain ⟨c, d⟩ := s
    rw [List.map_cons] at hsorted
    obtain ⟨hafter, hsorted'⟩ := List.pairwise_cons.mp hsorted
    rcases le_or_gt limit t with hlate | hsoon
    · -- the wait is over before the arrival, and every fresh frame comes later still
      have hend : drainEnd deadline limit c.lastRxFrame ((t, ev) :: rest) = limit :=
        windowEnd_of_le fun m hm => by
          rcases List.mem_cons.mp ((fresh_sublist _ _).subset hm) with rfl | hm
          · exact hlate
          · exact hlate.trans (hafter m hm)
      simp [drainRounds, if_pos hlate, hend, not_lt.mpr hlate, arriveAll]
    have hin : t < deadline := hsoon.trans_le hlimit
    rw [drainRounds, if_neg (not_le.mpr hsoon)]
    -- what does not wake the wait leaves its limit
    have hasleep : ∀ s' : BleConnection × δ, arrive aes observer ev (c, d) = s' →
        fresh c.lastRxFrame ((t, ev) :: rest) = fresh s'.1.lastRxFrame rest →
        drainRounds aes observer deadline limit rest (arrive aes observer ev (c, d)) =
          (drainEnd deadline limit c.lastRxFrame ((t, ev) :: rest),
            arriveAll aes observer (((t, ev) :: rest).takeWhile
              (·.1 < drainEnd deadline limit c.lastRxFrame ((t, ev) :: rest))) (c, d)) := by
      intro s' harrive hfresh
      have hend : drainEnd deadline limit c.lastRxFrame ((t, ev) :: rest) =
          drainEnd deadline limit s'.1.lastRxFrame rest := by rw [drainEnd, drainEnd, hfresh]
      rw [hend, arriveAll_takeWhile_cons (lt_drainEnd hsoon hin hafter), harrive]
      exact ih s' hlimit hsorted'
    cases ev with
    | closed => exact hasleep (c.clearSession, d) rfl rfl
    | notification frame =>
      by_cases hdup : c.lastRxFrame = some frame
      · rw [if_neg (by simp [wakes, hdup])]
        exact hasleep (c, d) (onNotify_duplicate observer d hdup)
          (by simp only [fresh, hdup, if_true])
      · obtain ⟨hbuf, hlast⟩ := onNotify_new aes observer d hdup
        have hend : drainEnd deadline limit c.lastRxFrame ((t, .notification frame) :: rest) =
            drainEnd deadline (min (t + NOTIF_QUIET_SEC) deadline) (some frame) rest := by
          simp only [drainEnd, fresh, if_neg hdup, List.map_cons, windowEnd_cons_of_lt hsoon]
        have hgap : t < min (t + NOTIF_QUIET_SEC) deadline :=
          lt_min (lt_add_of_pos_right t quiet_pos) hin
        have hround := @ih (min (t + NOTIF_QUIET_SEC) deadline)
          (onNotify aes observer frame (c, d)) (min_le_right _ _) hsorted'
        rw [hlast] at hround
        rw [if_pos (by simpa [wakes] using hdup), if_neg (by omega), hend,
          arriveAll_takeWhile_cons (lt_drainEnd hgap hin hafter)]
        simp only [arrive]
        rw [waitLimit_of_notifBuf (by simp [hbuf]), hround]

/-- The marks of a drain: a frame already in the buffer counts from the drain's start. -/
def drainMarks (now : ℤ) (c : BleConnection) (arrivals : List (ℤ × Arrival)) : List ℤ :=
  if c.notifBuf = [] then (fresh c.lastRxFrame arrivals).map Prod.fst
  else now :: (fresh c.lastRxFrame arrivals).map Prod.fst

variable (aes observer) in
/-- `_drain` returns at the first instant at which its window may close. -/
theorem drain_spec (drainMs now : ℤ) {arrivals : List (ℤ × Arrival)} (s : BleConnection × δ)
    (hsorted : (now :: arrivals.map Prod.fst).Pairwise (· ≤ ·)) :
    ∃ T, drain aes observer drainMs now arrivals s =
        (T, arriveAll aes observer (arrivals.takeWhile (·.1 < T)) s) ∧
      IsLeast {t | now ≤ t ∧ Closes NOTIF_QUIET_SEC (now + 1000 * drainMs)
        (drainMarks now s.1 arrivals) t} T := by
  obtain ⟨hafter, hsorted'⟩ := List.pairwise_cons.mp hsorted
  have hmarks : (now :: (fresh s.1.lastRxFrame arrivals).map Prod.fst).Pairwise (· ≤ ·) :=
    hsorted.sublist ((fresh_sublist _ _).cons_cons now)
  unfold drain
  simp only
  split_ifs with hover
  · refine ⟨now, ?_, ⟨le_rfl, .inl (by omega)⟩, fun t ht => ht.1⟩
    rw [takeWhile_before_eq_nil fun x hx => hafter _ (List.mem_map_of_mem hx)]
    rfl
  · have hin : now < now + 1000 * drainMs := by omega
    by_cases hbuf : s.1.notifBuf = []
    · rw [waitLimit_of_silent hbuf, drainRounds_eq s le_rfl hsorted', drainMarks, if_pos hbuf]
      exact ⟨_, rfl, isLeast_windowEnd quiet_pos hin.le hmarks⟩
    · rw [waitLimit_of_notifBuf hbuf, drainRounds_eq s (min_le_right _ _) hsorted', drainMarks,
        if_neg hbuf]
      exact ⟨_, rfl, isLeast_windowEnd_of_mark quiet_pos hmarks hin⟩

/-! ## The reply of a write -/

/-- The marks of a write which returns at `wrote`: a frame which overtakes the write
counts from there. -/
def replyMarks (wrote : ℤ) (last : Option Bytes) (arrivals : List (ℤ × Arrival)) : List ℤ :=
  (fresh last arrivals).map fun x => max wrote x.1

/-- The session which a write has sealed its frame in. -/
def sealed (aes : AesBlock) (plaintext : Bytes) (c : BleConnection) : BleConnection :=
  (c.clearBuffers.encrypt aes plaintext).2

variable {iv : Iv} {c : BleConnection} {plaintext : Bytes}

theorem sealed_eq (hiv : c.iv = some iv) (hpt : plaintext.length ≤ 255) :
    sealed aes plaintext c =
      { c.clearBuffers with txCtr := c.clearBuffers.txCtr + frameBlocks plaintext } := by
  rw [sealed, encrypt_eq_sealFrame (c := c.clearBuffers) hiv hpt]

theorem mem_drainMarks (wrote : ℤ) {arrivals : List (ℤ × Arrival)} (s : BleConnection × δ)
    (hempty : s.1.notifBuf = []) (hsorted : (arrivals.map Prod.fst).Pairwise (· ≤ ·)) (t : ℤ) :
    t ∈ drainMarks wrote (arriveAll aes observer (arrivals.takeWhile (·.1 < wrote)) s).1
        (arrivals.dropWhile (·.1 < wrote)) ↔
      t ∈ replyMarks wrote s.1.lastRxFrame arrivals := by
  set before := arrivals.takeWhile (·.1 < wrote) with hbefore
  set after := arrivals.dropWhile (·.1 < wrote) with hafter
  set s' := arriveAll aes observer before s with hs'
  have hsplit : fresh s.1.lastRxFrame arrivals =
      fresh s.1.lastRxFrame before ++ fresh s'.1.lastRxFrame after := by
    rw [← fresh_append, hbefore, hafter, List.takeWhile_append_dropWhile]
  have hearly : ∀ x ∈ fresh s.1.lastRxFrame before, max wrote x.1 = wrote := by
    intro x hx
    obtain ⟨y, hy, hyx⟩ := List.mem_map.mp
      ((fresh_sublist s.1.lastRxFrame before).subset (List.mem_map_of_mem hx))
    have hlt := List.mem_takeWhile_imp hy
    rw [decide_eq_true_eq, hyx] at hlt
    exact max_eq_left hlt.le
  have hlate : ∀ x ∈ fresh s'.1.lastRxFrame after, max wrote x.1 = x.1 := by
    intro x hx
    obtain ⟨y, hy, hyx⟩ := List.mem_map.mp
      ((fresh_sublist s'.1.lastRxFrame after).subset (List.mem_map_of_mem hx))
    have hge := le_of_mem_dropWhile hsorted hy
    rw [hyx] at hge
    exact max_eq_right hge
  have hmarks : replyMarks wrote s.1.lastRxFrame arrivals =
      (fresh s.1.lastRxFrame before).map (fun _ => wrote) ++
        (fresh s'.1.lastRxFrame after).map Prod.fst := by
    rw [replyMarks, hsplit, List.map_append, List.map_congr_left hearly,
      List.map_congr_left hlate]
  have hbuf : s'.1.notifBuf = (fresh s.1.lastRxFrame before).map Prod.snd := by
    rw [hs', notifBuf_arriveAll, hempty, List.nil_append]
  rw [drainMarks, hmarks, hbuf]
  cases fresh s.1.lastRxFrame before with
  | nil => simp
  | cons x xs =>
    have hwrote : t ∈ xs.map (fun _ => wrote) → t = wrote := by simp +contextual
    rw [if_neg (by simp), List.map_cons, List.cons_append, List.mem_cons, List.mem_cons,
      List.mem_append]
    tauto

variable (aes observer) in
/-- A write of a frame that fits returns at the first instant at which the window of its
reply may close, after all that arrives before. -/
theorem writeThenDrain_spec (hiv : c.iv = some iv) (hpt : plaintext.length ≤ 255) (d : δ)
    (drainMs wrote : ℤ) {arrivals : List (ℤ × Arrival)}
    (hsorted : (arrivals.map Prod.fst).Pairwise (· ≤ ·)) :
    ∃ T, writeThenDrain aes observer plaintext drainMs wrote arrivals (c, d) =
        .ok (T, arriveAll aes observer (arrivals.takeWhile (·.1 < T))
          (sealed aes plaintext c, d)) ∧
      IsLeast {t | wrote ≤ t ∧ Closes NOTIF_QUIET_SEC (wrote + 1000 * drainMs)
        (replyMarks wrote c.lastRxFrame arrivals) t} T := by
  have hencrypt : c.clearBuffers.encrypt aes plaintext =
      (.ok (sealFrame aes iv c.frameMagic c.trailerConst c.txCtr plaintext),
        sealed aes plaintext c) := by
    rw [sealed, encrypt_eq_sealFrame (c := c.clearBuffers) hiv hpt]
    rfl
  have hlast : (sealed aes plaintext c).lastRxFrame = c.lastRxFrame := by
    rw [sealed_eq hiv hpt]
    rfl
  have hempty : (sealed aes plaintext c).notifBuf = [] := by
    rw [sealed_eq hiv hpt]
    rfl
  set s := arriveAll aes observer (arrivals.takeWhile (·.1 < wrote))
    (sealed aes plaintext c, d) with hs
  have hafter : (wrote :: (arrivals.dropWhile (·.1 < wrote)).map Prod.fst).Pairwise (· ≤ ·) := by
    refine List.pairwise_cons.mpr ⟨fun t ht => ?_, hsorted.sublist
      ((List.dropWhile_sublist _).map Prod.fst)⟩
    obtain ⟨x, hx, rfl⟩ := List.mem_map.mp ht
    exact le_of_mem_dropWhile hsorted hx
  obtain ⟨T, hrun, hleast⟩ := drain_spec aes observer drainMs wrote s hafter
  have hwrote : wrote ≤ T := hleast.1.1
  refine ⟨T, ?_, ?_⟩
  · have hsplit : arrivals.takeWhile (·.1 < T) = arrivals.takeWhile (·.1 < wrote) ++
        (arrivals.dropWhile (·.1 < wrote)).takeWhile (·.1 < T) := by
      conv_lhs => rw [← List.takeWhile_append_dropWhile (p := (·.1 < wrote)) (l := arrivals)]
      refine List.takeWhile_append_of_pos fun x hx => ?_
      have hlt := List.mem_takeWhile_imp hx
      rw [decide_eq_true_eq] at hlt ⊢
      exact hlt.trans_le hwrote
    unfold writeThenDrain
    simp only [hencrypt, ← hs, hrun]
    rw [hsplit, arriveAll_append, hs]
  · have hsame : ∀ t, t ∈ drainMarks wrote s.1 (arrivals.dropWhile (·.1 < wrote)) ↔
        t ∈ replyMarks wrote c.lastRxFrame arrivals := fun t => by
      rw [hs, mem_drainMarks wrote _ hempty hsorted, hlast]
    simpa only [Closes.of_mem_iff hsame] using hleast

theorem exists_take_deliveries (enc : UInt32 → Bytes → Bytes) (ctr : UInt32)
    (burst : List (Piece × ℕ)) (n : ℕ) :
    ∃ burst', (deliveries enc ctr burst).take n = deliveries enc ctr burst' ∧
      burst'.map Prod.fst <+: burst.map Prod.fst := by
  induction burst generalizing ctr n with
  | nil => exact ⟨[], by simp [deliveries], List.prefix_rfl⟩
  | cons b burst ih =>
    obtain ⟨p, extra⟩ := b
    cases n with
    | zero => exact ⟨[], rfl, List.nil_prefix⟩
    | succ n =>
      rcases le_or_gt n extra with hfew | hmany
      · refine ⟨[(p, n)], ?_, by simp⟩
        rw [deliveries, deliveries, deliveries, List.append_nil, List.cons_append,
          List.take_succ_cons, List.take_append_of_le_length (by simpa using hfew),
          List.take_replicate, min_eq_left hfew]
      · obtain ⟨burst', htake, hprefix⟩ := ih (ctr + frameBlocks p.pt) (n - extra)
        refine ⟨(p, extra) :: burst', ?_, by simpa using hprefix⟩
        rw [deliveries, deliveries, List.cons_append, List.cons_append, List.take_succ_cons,
          List.take_append, List.length_replicate, htake, List.take_of_length_le
            (by simpa using hmany.le)]

theorem fresh_redelivered {frame : Bytes} {extras : List (ℤ × Arrival)}
    (h : ∀ x ∈ extras, x.2 = .notification frame) (rest : List (ℤ × Arrival)) :
    fresh (some frame) (extras ++ rest) = fresh (some frame) rest := by
  induction extras with
  | nil => rfl
  | cons x xs ih =>
    obtain ⟨t, ev⟩ := x
    obtain rfl : ev = .notification frame := h (t, ev) (by simp)
    rw [List.cons_append, fresh, if_pos rfl, ih fun y hy => h y (List.mem_cons_of_mem _ hy)]

theorem fresh_deliveries {enc : UInt32 → Bytes → Bytes} {ctr : UInt32}
    {burst : List (Piece × ℕ)} {last : Option Bytes} {arrivals : List (ℤ × Arrival)}
    (harr : arrivals.map Prod.snd = (deliveries enc ctr burst).map Arrival.notification)
    (hlast : ∀ f ∈ (sealPieces enc ctr (burst.map Prod.fst)).head?, last ≠ some f)
    (hchain : (sealPieces enc ctr (burst.map Prod.fst)).IsChain (· ≠ ·)) :
    (fresh last arrivals).map Prod.snd = sealPieces enc ctr (burst.map Prod.fst) := by
  induction burst generalizing ctr last arrivals with
  | nil =>
    rw [List.map_eq_nil_iff.mp harr]
    rfl
  | cons b burst ih =>
    obtain ⟨p, extra⟩ := b
    rw [deliveries, List.cons_append, List.map_cons, List.map_append] at harr
    obtain ⟨⟨t, ev⟩, tail, rfl, hev, htail⟩ := List.map_eq_cons_iff.mp harr
    obtain ⟨extras, rest, rfl, hextras, hrest⟩ := List.map_eq_append_iff.mp htail
    obtain rfl : ev = .notification (enc ctr p.pt) := hev
    rw [List.map_cons, sealPieces] at hlast hchain ⊢
    have hsame : ∀ x ∈ extras, x.2 = .notification (enc ctr p.pt) := by
      intro x hx
      have hmem : x.2 ∈ extras.map Prod.snd := List.mem_map_of_mem hx
      rw [hextras, List.map_replicate] at hmem
      exact List.eq_of_mem_replicate hmem
    obtain ⟨hnext, hchain'⟩ := List.isChain_cons.mp hchain
    rw [fresh, if_neg (hlast _ (by simp)), fresh_redelivered hsame, List.map_cons,
      ih hrest (fun f hf h => hnext f hf (Option.some.inj h)) hchain']

theorem sealPieces_append (enc : UInt32 → Bytes → Bytes) (ctr : UInt32) (ps qs : List Piece) :
    sealPieces enc ctr (ps ++ qs) =
      sealPieces enc ctr ps ++ sealPieces enc (counterAfter ctr ps) qs := by
  induction ps generalizing ctr with
  | nil => rfl
  | cons p ps ih =>
    rw [List.cons_append, sealPieces, sealPieces, ih, List.cons_append]
    rfl

theorem arriveAll_notifications {arrivals : List (ℤ × Arrival)} {frames : List Bytes}
    (h : arrivals.map Prod.snd = frames.map Arrival.notification) (s : BleConnection × δ) :
    arriveAll aes observer arrivals s = onNotifyAll aes observer frames s := by
  induction arrivals generalizing frames s with
  | nil =>
    rw [List.map_eq_nil_iff.mp h.symm]
    rfl
  | cons a rest ih =>
    obtain ⟨frame, frames', rfl, hev, hrest⟩ := List.map_eq_cons_iff.mp h.symm
    rw [arriveAll_cons, ← hev, onNotifyAll_cons]
    exact ih hrest.symm _

theorem length_sealPieces (enc : UInt32 → Bytes → Bytes) (ctr : UInt32) (ps : List Piece) :
    (sealPieces enc ctr ps).length = ps.length := by
  induction ps generalizing ctr with
  | nil => rfl
  | cons p ps ih => rw [sealPieces, List.length_cons, List.length_cons, ih]

variable (aes observer) in
/-- What the plaintext buffer holds when a burst is cut off at `T`: its first pieces, and
all of them exactly when every new frame comes before `T`. -/
theorem notifPt_before (hhs : c.handshaken = true) (hiv : c.iv = some iv) (d : δ) (tc : UInt8)
    (hpt : c.notifPt = []) {burst : List (Piece × ℕ)} (hfull : ∀ b ∈ burst, b.1.pt ≠ [])
    (hlast : ∀ f ∈ (sealPieces (c.sealFor aes iv tc) c.rxCtr (burst.map Prod.fst)).head?,
      c.lastRxFrame ≠ some f)
    (hchain : (sealPieces (c.sealFor aes iv tc) c.rxCtr (burst.map Prod.fst)).IsChain (· ≠ ·))
    {arrivals : List (ℤ × Arrival)} (hsorted : (arrivals.map Prod.fst).Pairwise (· ≤ ·))
    (harr : arrivals.map Prod.snd =
      (deliveries (c.sealFor aes iv tc) c.rxCtr burst).map Arrival.notification) (T : ℤ) :
    let r := arriveAll aes observer (arrivals.takeWhile (·.1 < T)) (c, d)
    r.1.notifPt.flatten <+: (burst.map fun b => b.1.pt).flatten ∧
      (r.1.notifPt.flatten = (burst.map fun b => b.1.pt).flatten ↔
        ∀ x ∈ fresh c.lastRxFrame arrivals, x.1 < T) := by
  intro r
  -- what runs is the burst of its first pieces
  obtain ⟨burst', htake, ps, hps⟩ := exists_take_deliveries (c.sealFor aes iv tc) c.rxCtr burst
    (arrivals.takeWhile (·.1 < T)).length
  have harr' : (arrivals.takeWhile (·.1 < T)).map Prod.snd =
      (deliveries (c.sealFor aes iv tc) c.rxCtr burst').map Arrival.notification := by
    rw [← htake, List.map_take, ← harr, ← List.map_take,
      ← List.prefix_iff_eq_take.mp (List.takeWhile_prefix _)]
  have hsplit : sealPieces (c.sealFor aes iv tc) c.rxCtr (burst.map Prod.fst) =
      sealPieces (c.sealFor aes iv tc) c.rxCtr (burst'.map Prod.fst) ++
        sealPieces (c.sealFor aes iv tc)
          (counterAfter c.rxCtr (burst'.map Prod.fst)) ps := by
    rw [← hps, sealPieces_append]
  have hlast' : ∀ f ∈ (sealPieces (c.sealFor aes iv tc) c.rxCtr (burst'.map Prod.fst)).head?,
      c.lastRxFrame ≠ some f := by
    intro f hf
    refine hlast f ?_
    rw [hsplit, List.head?_append, Option.mem_def.mp hf]
    rfl
  have hchain' : (sealPieces (c.sealFor aes iv tc) c.rxCtr
      (burst'.map Prod.fst)).IsChain (· ≠ ·) := by
    rw [hsplit] at hchain
    exact hchain.left_of_append
  have hpts : r.1.notifPt = burst'.map fun b => b.1.pt := by
    have hfeed := (onNotifyAll_deliveries observer tc burst' d hhs hiv hlast' hchain').1
    rw [hpt, List.nil_append] at hfeed
    rw [← hfeed, ← arriveAll_notifications harr']
  have hwhole : (burst.map fun b => b.1.pt).flatten =
      r.1.notifPt.flatten ++ (ps.map Piece.pt).flatten := by
    rw [hpts]
    have := congrArg (fun l => (l.map Piece.pt).flatten) hps
    simpa [List.map_map, Function.comp_def] using this.symm
  -- nothing is missing exactly when no piece is, and the fresh frames count the pieces
  have hnone : (ps.map Piece.pt).flatten = [] ↔ ps = [] := by
    refine ⟨fun h => List.eq_nil_iff_forall_not_mem.mpr fun p hp => ?_, fun h => by rw [h]; rfl⟩
    have hmem : p ∈ burst.map Prod.fst := by
      rw [← hps]
      exact List.mem_append_right _ hp
    obtain ⟨b, hb, rfl⟩ := List.mem_map.mp hmem
    exact hfull b hb (List.flatten_eq_nil_iff.mp h _ (List.mem_map_of_mem hp))
  have hcount : ps = [] ↔ ∀ x ∈ fresh c.lastRxFrame arrivals, x.1 < T := by
    have hall := congrArg List.length (fresh_deliveries harr hlast hchain)
    have hran := congrArg List.length (fresh_deliveries harr' hlast' hchain')
    rw [fresh_takeWhile hsorted] at hran
    rw [List.length_map, length_sealPieces] at hall hran
    rw [← hps, List.length_append] at hall
    constructor
    · intro h
      rw [h, List.length_nil, Nat.add_zero, ← hran] at hall
      have heq := (List.takeWhile_prefix _).eq_of_length hall.symm
      simpa using List.takeWhile_eq_self_iff.mp heq
    · intro h
      rw [List.takeWhile_eq_self_iff.mpr (by simpa using h), hall] at hran
      exact List.length_eq_zero_iff.mp (by omega)
  rw [hwhole]
  exact ⟨List.prefix_append _ _, by rw [List.self_eq_append_right, hnone, hcount]⟩

/-- `send_stream` gives back a reply in several frames whole exactly when its frames come
close enough together: each new one before the deadline and less than 0.35 s after the one
before it, where a frame which overtakes the write counts from the write's return and a
re-delivery does not count. A reply which is cut off is cut at a frame. -/
theorem sendStream_whole_iff (aes : AesBlock) (observer : Bytes → δ → δ) (c : BleConnection)
    (d : δ) (iv : Iv) (tc : UInt8) (hhs : c.handshaken = true) (hiv : c.iv = some iv)
    (plaintext : Bytes) (hpt : plaintext.length ≤ 255) (drainMs wrote : ℤ) (hdrain : 0 < drainMs)
    (bodies : List Body) (burst : List (Piece × ℕ)) (hfull : ∀ b ∈ burst, b.1.pt ≠ [])
    (hsplit : (burst.map fun b => b.1.pt).flatten = bodies.flatMap Body.frame)
    (hlast : ∀ f ∈ (sealPieces (c.sealFor aes iv tc) c.rxCtr (burst.map Prod.fst)).head?,
      c.lastRxFrame ≠ some f)
    (hchain : (sealPieces (c.sealFor aes iv tc) c.rxCtr (burst.map Prod.fst)).IsChain (· ≠ ·))
    (arrivals : List (ℤ × Arrival)) (hsorted : (arrivals.map Prod.fst).Pairwise (· ≤ ·))
    (harr : arrivals.map Prod.snd =
      (deliveries (c.sealFor aes iv tc) c.rxCtr burst).map Arrival.notification) :
    let marks := replyMarks wrote c.lastRxFrame arrivals
    ∃ T stream r, sendStream aes observer plaintext drainMs wrote arrivals (c, d) =
        .ok (T, stream, r) ∧
      stream <+: bodies.flatMap Body.frame ∧
      (stream = bodies.flatMap Body.frame ↔
        (∀ t ∈ marks, t < wrote + 1000 * drainMs) ∧
          marks.IsChain (fun s t => t < s + NOTIF_QUIET_SEC)) := by
  intro marks
  obtain ⟨T, hrun, hleast⟩ := writeThenDrain_spec aes observer hiv hpt d
    drainMs wrote hsorted
  have hmarks : (wrote :: marks).Pairwise (· ≤ ·) := by
    have hfresh := List.pairwise_map.mp (hsorted.sublist (fresh_sublist c.lastRxFrame arrivals))
    refine List.pairwise_cons.mpr ⟨fun t ht => ?_, List.pairwise_map.mpr
      (hfresh.imp fun h => max_le_max_left wrote h)⟩
    obtain ⟨x, _, rfl⟩ := List.mem_map.mp ht
    exact le_max_left _ _
  -- the first instant at which the window may close is its end
  have hend : T = windowEnd NOTIF_QUIET_SEC (wrote + 1000 * drainMs) (wrote + 1000 * drainMs)
      marks := hleast.unique (isLeast_windowEnd quiet_pos (by omega) hmarks)
  have hwrote : wrote < T := by
    rw [hend]
    exact lt_windowEnd quiet_pos (by omega) (by omega) (List.pairwise_cons.mp hmarks).1
  have hcover : (∀ x ∈ fresh c.lastRxFrame arrivals, x.1 < T) ↔ ∀ t ∈ marks, t < T := by
    simp only [marks, replyMarks, List.forall_mem_map, max_lt_iff, hwrote, true_and]
  have hbefore := notifPt_before aes observer
    (c := sealed aes plaintext c) (by rw [sealed_eq hiv hpt]; exact hhs)
    (by rw [sealed_eq hiv hpt]; exact hiv) d tc (by rw [sealed_eq hiv hpt]; rfl) hfull
    (by rw [sealed_eq hiv hpt]; exact hlast) (by rw [sealed_eq hiv hpt]; exact hchain)
    hsorted (by rw [sealed_eq hiv hpt]; exact harr) T
  have hsame : (sealed aes plaintext c).lastRxFrame = c.lastRxFrame := by
    rw [sealed_eq hiv hpt]
    rfl
  rw [hsame, hcover, hsplit, hend, forall_lt_windowEnd quiet_pos
    (List.pairwise_cons.mp hmarks).2, ← hend] at hbefore
  set r := arriveAll aes observer (arrivals.takeWhile (·.1 < T)) (sealed aes plaintext c, d)
  refine ⟨T, r.1.notifPt.flatten, (r.1.clearBuffers, r.2), ?_, hbefore⟩
  rw [sendStream, hrun]
  rfl

/-- The three frames of a message, one of them twice, at a third of a second's distance. -/
theorem sendStream_whole_iff_threeFrames :
    let body : Body := ⟨[0x0A, 0x02, 0x08, 0x07], by decide⟩
    let burst : List (Piece × ℕ) :=
      [(⟨body.frame.take 5, by decide⟩, 1), (⟨(body.frame.drop 5).take 1, by decide⟩, 0),
        (⟨body.frame.drop 6, by decide⟩, 0)]
    let c := afterHandshake (Vector.replicate 12 0x5C) 0 0xFFFFFFFE (some MSG_HEADER)
    let frames := deliveries (c.sealFor id (Vector.replicate 12 0x5C) 0x10) c.rxCtr burst
    let arrivals := [100000, 200000, 433000, 766000].zip (frames.map Arrival.notification)
    let marks := replyMarks 120000 none arrivals
    ∃ T stream r, sendStream id (fun pt seen => seen ++ pt) [0xAA] 4000 120000 arrivals
        (c, ([] : Bytes)) = .ok (T, stream, r) ∧
      stream <+: [body].flatMap Body.frame ∧
      (stream = [body].flatMap Body.frame ↔
        (∀ t ∈ marks, t < 120000 + 1000 * 4000) ∧
          marks.IsChain (fun s t => t < s + NOTIF_QUIET_SEC)) :=
  sendStream_whole_iff id (fun pt seen => seen ++ pt)
    (afterHandshake (Vector.replicate 12 0x5C) 0 0xFFFFFFFE (some MSG_HEADER)) []
    (Vector.replicate 12 0x5C) 0x10 rfl rfl [0xAA] (by decide) 4000 120000 (by decide)
    [⟨[0x0A, 0x02, 0x08, 0x07], by decide⟩]
    [(⟨(Body.frame ⟨[0x0A, 0x02, 0x08, 0x07], by decide⟩).take 5, by decide⟩, 1),
      (⟨((Body.frame ⟨[0x0A, 0x02, 0x08, 0x07], by decide⟩).drop 5).take 1, by decide⟩, 0),
      (⟨(Body.frame ⟨[0x0A, 0x02, 0x08, 0x07], by decide⟩).drop 6, by decide⟩, 0)]
    (by decide) (by decide +kernel) (by decide +kernel) (by decide +kernel) _
    (by decide +kernel) (by decide +kernel)

end BleConnection
end OrbitBhyve.Connection
