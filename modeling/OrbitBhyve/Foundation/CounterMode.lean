import Mathlib.Data.List.Basic
import Mathlib.Logic.Function.Iterate
import Mathlib.Tactic

/-!
# Counter-mode keystreams

A keystream is the concatenation of one block per counter value, consumed a
symbol at a time. Nothing is assumed of the block function beyond its width,
so the results hold for every cipher. Combining twice with the same keystream
is the identity whenever the combining operation cancels.
-/

namespace OrbitBhyve.Foundation

variable {κ β : Type*}

/-- The first `n` blocks from counter `c`, and the counter after them. -/
def keystream (block : κ → List β) (next : κ → κ) : κ → ℕ → List β × κ
  | c, 0 => ([], c)
  | c, n + 1 =>
    let r := keystream block next (next c) n
    (block c ++ r.1, r.2)

/-- Number of blocks of width `w` which cover `len` symbols. -/
def blocksFor (w len : ℕ) : ℕ := (len + (w - 1)) / w

/-- Combine a text with the keystream which covers it. -/
def ctrApply (op : β → β → β) (block : κ → List β) (next : κ → κ) (w : ℕ) (c : κ)
    (text : List β) : List β × κ :=
  let r := keystream block next c (blocksFor w text.length)
  (List.zipWith op text (r.1.take text.length), r.2)

theorem keystream_snd (block : κ → List β) (next : κ → κ) (c : κ) (n : ℕ) :
    (keystream block next c n).2 = next^[n] c := by
  induction n generalizing c with
  | zero => rfl
  | succ n ih => simp [keystream, ih]

theorem keystream_fst (block : κ → List β) (next : κ → κ) (c : κ) (n : ℕ) :
    (keystream block next c n).1 = (List.iterate next c n).flatMap block := by
  induction n generalizing c with
  | zero => rfl
  | succ n ih => simp [keystream, ih]

theorem keystream_length {block : κ → List β} {next : κ → κ} {w : ℕ}
    (hw : ∀ c, (block c).length = w) (c : κ) (n : ℕ) :
    (keystream block next c n).1.length = n * w := by
  induction n generalizing c with
  | zero => simp [keystream]
  | succ n ih => simp [keystream, ih, hw, Nat.succ_mul, Nat.add_comm]

theorem le_blocksFor_mul {w : ℕ} (hw : 0 < w) (len : ℕ) : len ≤ blocksFor w len * w := by
  have hdiv := Nat.div_add_mod (len + (w - 1)) w
  have hmod := Nat.mod_lt (len + (w - 1)) hw
  rw [blocksFor, Nat.mul_comm]
  omega

variable {op : β → β → β} {block : κ → List β} {next : κ → κ} {w : ℕ}

theorem ctrApply_snd (c : κ) (text : List β) :
    (ctrApply op block next w c text).2 = next^[blocksFor w text.length] c := by
  simp [ctrApply, keystream_snd]

theorem ctrApply_length (hw : ∀ c, (block c).length = w) (hpos : 0 < w) (c : κ) (text : List β) :
    (ctrApply op block next w c text).1.length = text.length := by
  have := le_blocksFor_mul hpos text.length
  simp only [ctrApply, List.length_zipWith, List.length_take, keystream_length hw]
  omega

theorem head?_ctrApply (hw : ∀ c, (block c).length = w) (hpos : 0 < w) (c : κ) (x : β)
    (text : List β) :
    (ctrApply op block next w c (x :: text)).1.head? = (block c).head?.map (op x) := by
  have hblocks : 0 < blocksFor w (x :: text).length := by
    rw [blocksFor, List.length_cons]
    exact Nat.div_pos (by omega) hpos
  obtain ⟨n, hn⟩ := Nat.exists_eq_succ_of_ne_zero hblocks.ne'
  cases hblock : block c with
  | nil =>
    have hlen := hw c
    rw [hblock] at hlen
    exact absurd hlen hpos.ne
  | cons k ks =>
    unfold ctrApply
    rw [hn]
    simp [keystream, hblock]

theorem zipWith_cancel (hop : ∀ a k, op (op a k) k = a) (xs ks : List β)
    (h : xs.length ≤ ks.length) : List.zipWith op (List.zipWith op xs ks) ks = xs := by
  induction xs generalizing ks with
  | nil => rfl
  | cons x xs ih =>
    cases ks with
    | nil => simp at h
    | cons k ks => simp [hop, ih ks (by simpa using h)]

/-- Applying the keystream again at the same counter restores the text. -/
theorem ctrApply_ctrApply (hop : ∀ a k, op (op a k) k = a) (hw : ∀ c, (block c).length = w)
    (hpos : 0 < w) (c : κ) (text : List β) :
    (ctrApply op block next w c (ctrApply op block next w c text).1).1 = text := by
  have hlen : (ctrApply op block next w c text).1.length = text.length :=
    ctrApply_length hw hpos c text
  have hcover := le_blocksFor_mul hpos text.length
  have hks : (keystream block next c (blocksFor w text.length)).1.length =
      blocksFor w text.length * w :=
    keystream_length hw c (blocksFor w text.length)
  unfold ctrApply at hlen ⊢
  simp only [hlen]
  exact zipWith_cancel hop _ _ (by simp only [List.length_take, hks]; omega)

end OrbitBhyve.Foundation
