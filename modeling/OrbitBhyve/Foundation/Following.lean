import Mathlib.Data.Int.Notation
import Mathlib.Data.List.Basic

/-!
# Following a source over a channel which loses

A source sends reports in order. A decisive report is taken at its word; any
other says the same of the source as the report before it, and is read by a
follower who has taken that one in. As long as nothing is lost the follower is
abreast of the last report it heard, a lost report puts it behind, and the next
decisive one puts it right. With nothing in flight the last report is the source.
-/

namespace OrbitBhyve.Foundation

/-- What a report says of the source, when it was sent, and as which frame. -/
structure Report (V F : Type*) where
  about : V
  sentAt : ℤ
  frame : F
  decisive : Bool

/-- Every report is decisive or says what the one before it did; `heard` is what the last
report before them said, and `source` what the last of them says. -/
def Linked {V F : Type*} : V → List (Report V F) → V → Prop
  | heard, [], source => heard = source
  | heard, r :: queue, source =>
    (r.decisive = true ∨ r.about = heard) ∧ Linked r.about queue source

structure Feed (V F : Type*) where
  source : V
  queue : List (Report V F) := []
  /-- What the last report which left the channel said. -/
  heard : V
  /-- A report was lost, and no decisive one has been heard since. -/
  missed : Bool := false

namespace Feed

variable {V F : Type*} {f : Feed V F} {r : Report V F} {queue : List (Report V F)}

def quiet (v : V) : Feed V F := { source := v, heard := v }

/-- The source sends a report, and is what it says. -/
def send (f : Feed V F) (r : Report V F) : Feed V F :=
  { f with source := r.about, queue := f.queue ++ [r] }

/-- The first report arrives. -/
def hear (f : Feed V F) : Feed V F :=
  match f.queue with
  | [] => f
  | r :: queue => { f with queue := queue, heard := r.about, missed := f.missed && !r.decisive }

/-- The first report is lost. -/
def lose (f : Feed V F) : Feed V F :=
  match f.queue with
  | [] => f
  | r :: queue => { f with queue := queue, heard := r.about, missed := true }

theorem hear_of_cons (h : f.queue = r :: queue) :
    f.hear = { f with queue := queue, heard := r.about, missed := f.missed && !r.decisive } := by
  simp [hear, h]

theorem lose_of_cons (h : f.queue = r :: queue) :
    f.lose = { f with queue := queue, heard := r.about, missed := true } := by
  simp [lose, h]

theorem lose_of_nil (h : f.queue = []) : f.lose = f := by simp [lose, h]

@[simp] theorem source_hear (f : Feed V F) : f.hear.source = f.source := by
  unfold hear
  split <;> rfl

@[simp] theorem source_lose (f : Feed V F) : f.lose.source = f.source := by
  unfold lose
  split <;> rfl

end Feed

theorem Linked.snoc {V F : Type*} {heard source : V} {queue : List (Report V F)}
    {r : Report V F} (h : Linked heard queue source)
    (hr : r.decisive = true ∨ r.about = source) : Linked heard (queue ++ [r]) r.about := by
  induction queue generalizing heard with
  | nil =>
    obtain rfl : heard = source := h
    exact ⟨hr, rfl⟩
  | cons r' queue ih => exact ⟨h.1, ih h.2⟩

/-- The feed is in order, its reports are genuine, and unless one was missed the follower,
of which `Abreast` tells what it makes of a report, is abreast of the last one heard. -/
structure Feed.Tracked {V F : Type*} (Genuine : Report V F → Prop) (Abreast : V → Prop)
    (f : Feed V F) : Prop where
  linked : Linked f.heard f.queue f.source
  genuine : ∀ r ∈ f.queue, Genuine r
  abreast : f.missed = false → Abreast f.heard

namespace Feed.Tracked

variable {V F : Type*} {Genuine Genuine' : Report V F → Prop} {Abreast Abreast' : V → Prop}
  {f : Feed V F} {r : Report V F} {queue : List (Report V F)}

theorem quiet {v : V} (h : Abreast v) : (Feed.quiet v : Feed V F).Tracked Genuine Abreast where
  linked := rfl
  genuine := by simp [Feed.quiet]
  abreast := fun _ => h

theorem mono (h : f.Tracked Genuine Abreast) (hgenuine : ∀ r, Genuine r → Genuine' r)
    (habreast : ∀ v, Abreast v → Abreast' v) : f.Tracked Genuine' Abreast' where
  linked := h.linked
  genuine := fun r hr => hgenuine r (h.genuine r hr)
  abreast := fun hmissed => habreast _ (h.abreast hmissed)

theorem send (h : f.Tracked Genuine Abreast) (hr : r.decisive = true ∨ r.about = f.source)
    (hgenuine : Genuine r) : (f.send r).Tracked Genuine Abreast where
  linked := h.linked.snoc hr
  genuine := by
    intro r' hr'
    rcases List.mem_append.mp hr' with hr' | hr'
    · exact h.genuine r' hr'
    · obtain rfl := List.mem_singleton.mp hr'
      exact hgenuine
  abreast := h.abreast

/-- A report which is heard: a decisive one whatever the follower made of those before it,
any other from a follower who is abreast. -/
theorem hear (h : f.Tracked Genuine Abreast) (hqueue : f.queue = r :: queue)
    (hdecisive : r.decisive = true → Abreast' r.about)
    (hrepeat : r.decisive = false → Abreast r.about → Abreast' r.about) : f.hear.Tracked Genuine Abreast' := by
  have hlinked := h.linked
  rw [hqueue] at hlinked
  rw [hear_of_cons hqueue]
  refine ⟨hlinked.2, fun r' hr' => h.genuine r' (by rw [hqueue]; simp [hr']), fun hmissed => ?_⟩
  cases hr : r.decisive with
  | true => exact hdecisive hr
  | false =>
    have hbefore : f.missed = false := by simpa [hr] using hmissed
    have hsame : r.about = f.heard := by simpa [hr] using hlinked.1
    apply hrepeat hr
    rw [hsame]
    exact h.abreast hbefore

theorem lose (h : f.Tracked Genuine Abreast) : f.lose.Tracked Genuine Abreast := by
  cases hqueue : f.queue with
  | nil =>
    rw [lose_of_nil hqueue]
    exact h
  | cons r queue =>
    have hlinked := h.linked
    rw [hqueue] at hlinked
    rw [lose_of_cons hqueue]
    exact ⟨hlinked.2, fun r' hr' => h.genuine r' (by rw [hqueue]; simp [hr']), by simp⟩

/-- With nothing in flight and nothing missed the follower is abreast of the source. -/
theorem abreast_source (h : f.Tracked Genuine Abreast) (hqueue : f.queue = [])
    (hmissed : f.missed = false) : Abreast f.source := by
  have hlinked := h.linked
  rw [hqueue] at hlinked
  have hheard : f.heard = f.source := hlinked
  rw [← hheard]
  exact h.abreast hmissed

end Feed.Tracked
end OrbitBhyve.Foundation
