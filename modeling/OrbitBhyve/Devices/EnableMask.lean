import OrbitBhyve.Devices.SyncDump
import OrbitBhyve.Foundation.Bits

/-!
# The enable mask behind a lossy read

The program writes base their `#20` on the mask of the read before them, or,
where that read lost it, on the enable flags which the read left in the table.
A table keeps the flag of a slot when the slot's own message arrived, or when
nothing at all arrived and the table of an earlier, complete read stays.
-/

namespace OrbitBhyve.Devices

open Foundation Python Wire

/-! ## The mask of a table -/

def ProgramTable.Slots (table : ProgramTable) : Prop :=
  ∀ key sch, table.get key = some sch → ∃ n, key = .int (n + 1)

def ProgramTable.On (table : ProgramTable) (i : ℕ) : Prop :=
  ∃ sch, table.get (.int (i + 1)) = some sch ∧ sch.enabled = some true

theorem enabledSum_eq {table : ProgramTable} (hdistinct : table.Distinct) (hslots : table.Slots) :
    ∃ sum, enabledSum table = .ok sum ∧ ∀ i, sum.testBit i = true ↔ table.On i := by
  induction table with
  | nil => exact ⟨0, rfl, by simp [ProgramTable.On]⟩
  | cons entry rest ih =>
    obtain ⟨key, sch⟩ := entry
    obtain ⟨hfresh, hrest⟩ := hdistinct
    obtain ⟨n, rfl⟩ := hslots key sch (by rw [ProgramTable.get_cons, if_pos rfl])
    have hother : ∀ key' sch', ProgramTable.get rest key' = some sch' → key' ≠ .int (n + 1) := by
      rintro key' sch' hget rfl
      rw [hfresh] at hget
      cases hget
    obtain ⟨sum, hsum, hbits⟩ := ih hrest fun key' sch' hget =>
      hslots key' sch' (by rw [ProgramTable.get_cons, if_neg (hother key' sch' hget), hget])
    have hfirst : ∀ i, ProgramTable.On ((.int (n + 1), sch) :: rest) i ↔
        i = n ∧ sch.enabled = some true ∨ i ≠ n ∧ ProgramTable.On rest i := by
      intro i
      unfold ProgramTable.On
      rw [ProgramTable.get_cons]
      by_cases hi : i = n
      · simp [hi]
      · simp [hi]
    have hclear : sum.testBit n = false := by
      rw [Bool.eq_false_iff, ne_eq, hbits, ProgramTable.On, hfresh]
      simp
    rw [enabledSum]
    by_cases hon : sch.enabled = some true
    · rw [if_pos hon, hsum]
      refine ⟨2 ^ n + sum, by simp [slotBit, bind, Except.bind, Nat.one_shiftLeft], fun i => ?_⟩
      rw [testBit_two_pow_add hclear, hfirst]
      by_cases hi : i = n
      · simp [hi, hon]
      · simp [hi, hbits]
    · rw [if_neg hon, hsum]
      refine ⟨sum, rfl, fun i => ?_⟩
      rw [hfirst]
      by_cases hi : i = n
      · simp [hi, hon, hclear]
      · simp [hi, hbits]

/-! ## A program store and its dumps -/

/-- The device's program table: the `#19` body of each stored slot, and the enable mask. -/
structure ProgramStore where
  body : ℕ → Option Bytes
  mask : ℕ
  slots : ∀ s b, body s = some b → 1 ≤ s ∧ s ≤ 6
  own : ∀ s b, body s = some b → ∃ sch, parseProgramBody b = some sch ∧ sch.slot = some (.int s)

/-- A message which lists a slot as the store has it. -/
def ListsSlot (store : ProgramStore) (s : ℕ) (pb : Bytes) : Prop :=
  ∃ b, store.body s = some b ∧ syncFields pb = (some (.bytes b), none, none)

/-- A message which carries the store's mask. -/
def ListsMask (store : ProgramStore) (pb : Bytes) : Prop :=
  ∃ block, syncFields pb = (none, some (.bytes block), none) ∧
    pbField (pbParse block) 1 = some (.int store.mask)

/-- A message which carries a status that decodes. -/
def ListsStatus (pb : Bytes) : Prop :=
  ∃ block st, syncFields pb = (none, none, some (.bytes block)) ∧ extractStatus pb = .ok st

/-- Every message of a dump is a program body, the mask or a status. -/
def Tells (store : ProgramStore) (pb : Bytes) : Prop :=
  (∃ s, ListsSlot store s pb) ∨ ListsMask store pb ∨ ListsStatus pb

def ProgramStore.schedule (store : ProgramStore) (s : ℕ) : Option ProgramSummary :=
  (store.body s).bind parseProgramBody

/-- What the messages `pbs` leave behind. -/
structure ReadFrom (store : ProgramStore) (pbs : List Bytes) (dump : SyncDump) : Prop where
  distinct : dump.programs.Distinct
  programs : ∀ key sch, dump.programs.get key = some sch ↔
    ∃ s, key = .int s ∧ store.schedule s = some sch ∧ ∃ pb ∈ pbs, ListsSlot store s pb
  mask : ∀ m, dump.mask = some m ↔ m = .int store.mask ∧ ∃ pb ∈ pbs, ListsMask store pb
  status : dump.status.isSome ↔ ∃ pb ∈ pbs, ListsStatus pb

theorem readFrom_nil (store : ProgramStore) : ReadFrom store [] {} where
  distinct := trivial
  programs := by simp
  mask := by simp
  status := by simp

section Reading

variable {store : ProgramStore} {pbs : List Bytes} {acc : SyncDump} {pb : Bytes}

theorem ListsSlot.unique {s s' : ℕ} (h : ListsSlot store s pb) (h' : ListsSlot store s' pb) :
    s' = s := by
  obtain ⟨b, hb, hfields⟩ := h
  obtain ⟨b', hb', hfields'⟩ := h'
  rw [hfields] at hfields'
  cases hfields'
  obtain ⟨sch, hparse, hown⟩ := store.own s b hb
  obtain ⟨sch', hparse', hown'⟩ := store.own s' b hb'
  rw [hparse] at hparse'
  cases hparse'
  rw [hown] at hown'
  cases hown'
  rfl

theorem ListsSlot.not_mask {s : ℕ} (h : ListsSlot store s pb) : ¬ ListsMask store pb := by
  rintro ⟨block, hfields, -⟩
  obtain ⟨b, -, hfields'⟩ := h
  rw [hfields] at hfields'
  cases hfields'

theorem ListsSlot.not_status {s : ℕ} (h : ListsSlot store s pb) : ¬ ListsStatus pb := by
  rintro ⟨block, st, hfields, -⟩
  obtain ⟨b, -, hfields'⟩ := h
  rw [hfields] at hfields'
  cases hfields'

theorem ListsMask.not_status (h : ListsMask store pb) : ¬ ListsStatus pb := by
  rintro ⟨block, st, hfields, -⟩
  obtain ⟨b, hfields', -⟩ := h
  rw [hfields] at hfields'
  cases hfields'

theorem exists_mem_concat (P : Bytes → Prop) :
    (∃ pb' ∈ pbs ++ [pb], P pb') ↔ (∃ pb' ∈ pbs, P pb') ∨ P pb := by
  simp only [List.mem_append, List.mem_singleton, or_and_right, exists_or, exists_eq_left]

theorem ReadFrom.message (h : ReadFrom store pbs acc) (hpb : Tells store pb) :
    ∃ acc', syncMessage acc pb = .ok acc' ∧ ReadFrom store (pbs ++ [pb]) acc' := by
  rcases hpb with ⟨s, hslot⟩ | hmask | hstatus
  · obtain ⟨b, hb, hfields⟩ := id hslot
    obtain ⟨sch, hparse, hown⟩ := store.own s b hb
    have hsch : store.schedule s = some sch := by
      rw [ProgramStore.schedule, hb]
      exact hparse
    refine ⟨_, syncMessage_of_program hfields hparse hown acc, ?_⟩
    exact {
      distinct := ProgramTable.distinct_set h.distinct _ _
      programs := fun key sch' => by
        dsimp only
        rw [ProgramTable.get_set]
        split_ifs with hkey
        · subst hkey
          constructor
          · rintro ⟨⟩
            exact ⟨s, rfl, hsch, pb, by simp, hslot⟩
          · rintro ⟨s', ⟨⟩, hsch', -⟩
            rw [← hsch, hsch']
        · rw [h.programs]
          refine exists_congr fun s' => and_congr_right fun hs' => and_congr_right fun _ => ?_
          rw [exists_mem_concat]
          refine ⟨.inl, fun hor => hor.resolve_right fun hlists => hkey ?_⟩
          rw [hs', hslot.unique hlists]
      mask := fun m => by
        rw [exists_mem_concat, or_iff_left hslot.not_mask]
        exact h.mask m
      status := by
        rw [exists_mem_concat, or_iff_left hslot.not_status]
        exact h.status }
  · obtain ⟨block, hfields, hvalue⟩ := id hmask
    refine ⟨_, syncMessage_of_mask hfields acc, ?_⟩
    exact {
      distinct := h.distinct
      programs := fun key sch => by
        rw [h.programs]
        refine exists_congr fun s => and_congr_right fun _ => and_congr_right fun _ => ?_
        rw [exists_mem_concat, or_iff_left fun hlists : ListsSlot store s pb => hlists.not_mask hmask]
      mask := fun m => by
        dsimp only
        rw [exists_mem_concat, hvalue]
        simp only [hmask, or_true, and_true, Option.some.injEq]
        exact eq_comm
      status := by
        rw [exists_mem_concat, or_iff_left hmask.not_status]
        exact h.status }
  · obtain ⟨block, st, hfields, hst⟩ := id hstatus
    refine ⟨_, syncMessage_of_status hfields hst acc, ?_⟩
    exact {
      distinct := h.distinct
      programs := fun key sch => by
        rw [h.programs]
        refine exists_congr fun s => and_congr_right fun _ => and_congr_right fun _ => ?_
        rw [exists_mem_concat,
          or_iff_left fun hlists : ListsSlot store s pb => hlists.not_status hstatus]
      mask := fun m => by
        rw [exists_mem_concat, or_iff_left fun hmask => hmask.not_status hstatus]
        exact h.mask m
      status := by
        rw [exists_mem_concat]
        simp [hstatus] }

theorem ReadFrom.messages {pbs' : List Bytes} (h : ReadFrom store pbs acc)
    (hpbs : ∀ pb ∈ pbs', Tells store pb) :
    ∃ dump, syncMessages acc pbs' = .ok dump ∧ ReadFrom store (pbs ++ pbs') dump := by
  induction pbs' generalizing pbs acc with
  | nil => exact ⟨acc, rfl, by rwa [List.append_nil]⟩
  | cons pb pbs' ih =>
    obtain ⟨acc', hmsg, h'⟩ := h.message (hpbs pb List.mem_cons_self)
    obtain ⟨dump, hrest, hdump⟩ := ih h' fun pb' hpb' => hpbs pb' (List.mem_cons_of_mem _ hpb')
    refine ⟨dump, ?_, by simpa using hdump⟩
    rw [syncMessages, hmsg]
    exact hrest

theorem ReadFrom.slots (h : ReadFrom store pbs acc) : acc.programs.Slots := by
  intro key sch hget
  obtain ⟨s, rfl, -, pb, -, b, hb, -⟩ := (h.programs key sch).mp hget
  obtain ⟨n, rfl⟩ : ∃ n, s = n + 1 := ⟨s - 1, by have := store.slots s b hb; omega⟩
  exact ⟨n, rfl⟩

theorem fillEnabled_of_slots {table : ProgramTable} (hdistinct : table.Distinct)
    (hslots : table.Slots) (m : ℕ) : ∃ table', fillEnabled (.int m) table = .ok table' ∧
      table'.Distinct := by
  have hbits : ∀ e ∈ table, ∃ on, enabledBit (.int m) e.1 = .ok on := by
    intro e he
    obtain ⟨n, hn⟩ := hslots e.1 e.2 ((ProgramTable.mem_iff_get hdistinct).mp he)
    exact ⟨m.testBit n, by rw [hn]; rfl⟩
  obtain ⟨table', hfill⟩ := fillEnabled_ok_iff.mpr hbits
  refine ⟨table', hfill, ?_⟩
  rw [fillEnabled_eq_map hfill]
  exact ProgramTable.distinct_map hdistinct fun _ => rfl

/-- The table of a dump whose mask was decoded. -/
structure Masked (store : ProgramStore) (pbs : List Bytes) (table : ProgramTable) : Prop where
  distinct : table.Distinct
  slots : table.Slots
  get : ∀ i sch, table.get (.int (i + 1)) = some sch ↔
    ∃ read, store.schedule (i + 1) = some read ∧ (∃ pb ∈ pbs, ListsSlot store (i + 1) pb) ∧
      sch = { read with enabled := some (store.mask.testBit i) }

theorem parseSyncMessages_tells (hpbs : ∀ pb ∈ pbs, Tells store pb) :
    ∃ dump, parseSyncMessages pbs = .ok dump ∧
      ((∃ pb ∈ pbs, ListsMask store pb) →
        dump.mask = some (.int store.mask) ∧ Masked store pbs dump.programs) ∧
      ((¬ ∃ pb ∈ pbs, ListsMask store pb) → dump.mask = none ∧ ReadFrom store pbs dump) := by
  obtain ⟨raw, hraw, hread⟩ := (readFrom_nil store).messages hpbs
  rw [List.nil_append] at hread
  rw [parseSyncMessages, hraw]
  dsimp only [bind, Except.bind]
  cases hmask : raw.mask with
  | none =>
    refine ⟨raw, rfl, fun harrived => ?_, fun _ => ⟨hmask, hread⟩⟩
    have hsome := (hread.mask (.int store.mask)).mpr ⟨rfl, harrived⟩
    rw [hmask] at hsome
    cases hsome
  | some m =>
    obtain ⟨rfl, harrived⟩ := (hread.mask m).mp hmask
    obtain ⟨table, hfill, hdistinct⟩ :=
      fillEnabled_of_slots hread.distinct hread.slots store.mask
    refine ⟨{ raw with programs := table }, ?_, fun _ => ⟨hmask, ?_⟩, fun hnone => ?_⟩
    · simp only [hfill, hmask]
    · have hget := fillEnabled_eq_ok hfill
      exact {
        distinct := hdistinct
        slots := fun key sch hsch => by
          rw [hget, Option.map_eq_some_iff] at hsch
          obtain ⟨read, hsch', -⟩ := hsch
          exact hread.slots key read hsch'
        get := fun i sch => by
          have hbit : (enabledBit (.int store.mask) (.int (i + 1))).toOption =
              some (store.mask.testBit i) := rfl
          rw [hget, Option.map_eq_some_iff, hbit]
          constructor
          · rintro ⟨read, hsch, rfl⟩
            obtain ⟨s, hs, hschedule, hlists⟩ := (hread.programs _ _).mp hsch
            cases hs
            exact ⟨read, hschedule, hlists, rfl⟩
          · rintro ⟨read, hschedule, hlists, rfl⟩
            exact ⟨read, (hread.programs _ _).mpr ⟨_, rfl, hschedule, hlists⟩, rfl⟩ }
    · exact absurd harrived hnone

end Reading

/-- A dump of the whole store, its messages in any order. -/
structure StoreDump (store : ProgramStore) where
  messages : List Body
  tells : ∀ b ∈ messages, Tells store b.pb
  slots : ∀ s, (store.body s).isSome → ∃ b ∈ messages, ListsSlot store s b.pb
  mask : ∃ b ∈ messages, ListsMask store b.pb

namespace StoreDump

variable {store : ProgramStore}

def stream (D : StoreDump store) : Bytes := D.messages.flatMap Body.frame

/-- The messages which lie wholly in the first `n` bytes. -/
def arrivedOf : ℕ → List Body → List Body
  | _, [] => []
  | n, b :: bs =>
    if b.frame.length ≤ n then b :: arrivedOf (n - b.frame.length) bs else []

def arrived (D : StoreDump store) (n : ℕ) : List Bytes := (arrivedOf n D.messages).map Body.pb

theorem mem_of_mem_arrivedOf {b : Body} {n : ℕ} {bs : List Body} (h : b ∈ arrivedOf n bs) :
    b ∈ bs := by
  induction bs generalizing n with
  | nil => exact h
  | cons c bs ih =>
    rw [arrivedOf] at h
    split_ifs at h
    · rcases List.mem_cons.mp h with rfl | h
      · exact List.mem_cons_self
      · exact List.mem_cons_of_mem _ (ih h)
    · cases h

/-- A cut is the messages which lie in it, and less than one more. -/
theorem take_frames (n : ℕ) (bs : List Body) :
    ∃ (b : Body) (tail : Bytes), (bs.flatMap Body.frame).take n =
      (arrivedOf n bs).flatMap Body.frame ++ tail ∧ tail <+: b.frame ∧ tail ≠ b.frame := by
  induction bs generalizing n with
  | nil => exact ⟨⟨[], by simp⟩, [], by simp [arrivedOf], List.nil_prefix, by simp [Body.frame_eq]⟩
  | cons c bs ih =>
    rw [arrivedOf]
    split_ifs with hfit
    · obtain ⟨b, tail, htake, hprefix, hne⟩ := ih (n - c.frame.length)
      refine ⟨b, tail, ?_, hprefix, hne⟩
      rw [List.flatMap_cons, List.take_append, List.take_of_length_le hfit, htake,
        List.flatMap_cons, List.append_assoc]
    · refine ⟨c, c.frame.take n, ?_, List.take_prefix _ _, fun h => ?_⟩
      · rw [List.flatMap_cons, List.take_append_of_le_length (by omega)]
        rfl
      · have hlen := congrArg List.length h
        rw [List.length_take] at hlen
        omega

theorem splitInnerMessages_take (D : StoreDump store) (n : ℕ) :
    splitInnerMessages (D.stream.take n) = D.arrived n := by
  obtain ⟨b, tail, htake, hprefix, hne⟩ := take_frames n D.messages
  rw [stream, htake, splitInnerMessages_frames_append _ b hprefix hne, arrived]

theorem tells_arrived (D : StoreDump store) (n : ℕ) : ∀ pb ∈ D.arrived n, Tells store pb := by
  intro pb hpb
  obtain ⟨b, hb, rfl⟩ := List.mem_map.mp hpb
  exact D.tells b (mem_of_mem_arrivedOf hb)

theorem tells_messages (D : StoreDump store) : ∀ pb ∈ D.messages.map Body.pb, Tells store pb := by
  intro pb hpb
  obtain ⟨b, hb, rfl⟩ := List.mem_map.mp hpb
  exact D.tells b hb

theorem splitInnerMessages_stream (D : StoreDump store) :
    splitInnerMessages D.stream = D.messages.map Body.pb :=
  splitInnerMessages_frames D.messages

end StoreDump

/-! ## What a write goes by -/

/-- HA's table was last set from a complete dump of the store. -/
def Knows (store : ProgramStore) (programs : ProgramTable) : Prop :=
  ∃ (D : StoreDump store) (dump : SyncDump) (old : ProgramTable),
    parseSyncDump D.stream = .ok dump ∧ programs = (mergeDump dump old).1

/-- What the fallback counts after a cut: the slots whose messages arrived, or the stored
ones where nothing arrived. -/
def StoreDump.Counts {store : ProgramStore} (D : StoreDump store) (n i : ℕ) : Prop :=
  (∃ pb ∈ D.arrived n, ListsSlot store (i + 1) pb) ∨
    D.arrived n = [] ∧ (store.body (i + 1)).isSome = true

def StoreDump.MaskArrived {store : ProgramStore} (D : StoreDump store) (n : ℕ) : Prop :=
  ∃ pb ∈ D.arrived n, ListsMask store pb

section Fallback

variable {store : ProgramStore} {known : ProgramTable}

theorem schedule_isSome {s : ℕ} :
    (∃ sch, store.schedule s = some sch) ↔ (store.body s).isSome = true := by
  rw [ProgramStore.schedule]
  cases hb : store.body s with
  | none => simp
  | some b =>
    obtain ⟨sch, hparse, -⟩ := store.own s b hb
    simp [hparse]

theorem enabled_schedule {s : ℕ} {sch : ProgramSummary} (h : store.schedule s = some sch) :
    sch.enabled = none := by
  rw [ProgramStore.schedule, Option.bind_eq_some_iff] at h
  obtain ⟨b, -, hparse⟩ := h
  rw [parseProgramBody, Option.map_eq_some_iff] at hparse
  obtain ⟨f, -, rfl⟩ := hparse
  rfl

/-- A complete dump leaves every stored slot with its bit of the mask. -/
theorem Knows.masked (h : Knows store known) : ∃ pbs, Masked store pbs known ∧
    ∀ s, (store.body s).isSome → ∃ pb ∈ pbs, ListsSlot store s pb := by
  obtain ⟨D, dump, old, hdump, rfl⟩ := h
  obtain ⟨dump', hdump', hmasked, -⟩ := parseSyncMessages_tells D.tells_messages
  rw [parseSyncDump, D.splitInnerMessages_stream, hdump'] at hdump
  cases hdump
  obtain ⟨b, hb, hlists⟩ := D.mask
  obtain ⟨hmask, htable⟩ := hmasked ⟨b.pb, List.mem_map_of_mem hb, hlists⟩
  refine ⟨D.messages.map Body.pb, ?_, fun s hs => ?_⟩
  · rw [mergeDump, hmask]
    cases hprograms : dump.programs with
    | nil => simpa [hprograms] using htable
    | cons e rest => simpa [hprograms] using htable
  · obtain ⟨c, hc, hslot⟩ := D.slots s hs
    exact ⟨c.pb, List.mem_map_of_mem hc, hslot⟩

theorem Knows.get_of_schedule (h : Knows store known) {i : ℕ} {read : ProgramSummary}
    (hschedule : store.schedule (i + 1) = some read) :
    known.get (.int (i + 1)) = some { read with enabled := some (store.mask.testBit i) } := by
  obtain ⟨pbs, hmasked, hall⟩ := h.masked
  have hstored := schedule_isSome.mp ⟨read, hschedule⟩
  exact (hmasked.get i _).mpr ⟨read, hschedule, hall _ hstored, rfl⟩

theorem Knows.on_iff (h : Knows store known) (i : ℕ) :
    known.On i ↔ store.mask.testBit i = true ∧ (store.body (i + 1)).isSome = true := by
  constructor
  · rintro ⟨sch, hget, hon⟩
    obtain ⟨pbs, hmasked, -⟩ := h.masked
    obtain ⟨read, hschedule, -, rfl⟩ := (hmasked.get i sch).mp hget
    exact ⟨Option.some.inj hon, schedule_isSome.mp ⟨read, hschedule⟩⟩
  · rintro ⟨hbit, hstored⟩
    obtain ⟨read, hschedule⟩ := schedule_isSome.mpr hstored
    exact ⟨_, h.get_of_schedule hschedule, congrArg some hbit⟩

theorem ReadFrom.exists_get {pbs : List Bytes} {dump : SyncDump} (h : ReadFrom store pbs dump)
    {s : ℕ} (hlisted : ∃ pb ∈ pbs, ListsSlot store s pb) :
    ∃ sch, store.schedule s = some sch ∧ dump.programs.get (.int s) = some sch := by
  obtain ⟨pb, hpb, b, hb, hfields⟩ := hlisted
  obtain ⟨sch, hschedule⟩ := schedule_isSome.mpr (by rw [hb]; rfl)
  exact ⟨sch, hschedule, (h.programs _ _).mpr ⟨s, rfl, hschedule, pb, hpb, b, hb, hfields⟩⟩

theorem distinct_carryEnabled (known : ProgramTable) {table : ProgramTable}
    (h : table.Distinct) : (carryEnabled known table).Distinct :=
  ProgramTable.distinct_map h fun _ => rfl

theorem slots_carryEnabled (known : ProgramTable) {table : ProgramTable} (h : table.Slots) :
    (carryEnabled known table).Slots := by
  intro key sch hget
  rw [get_carryEnabled, Option.map_eq_some_iff] at hget
  obtain ⟨read, hread, -⟩ := hget
  exact h key read hread

theorem on_carryEnabled (hknown : Knows store known) {pbs : List Bytes} {dump : SyncDump}
    (hread : ReadFrom store pbs dump) (i : ℕ) :
    (carryEnabled known dump.programs).On i ↔
      store.mask.testBit i = true ∧ ∃ pb ∈ pbs, ListsSlot store (i + 1) pb := by
  rw [ProgramTable.On, get_carryEnabled]
  constructor
  · rintro ⟨sch, hget, hon⟩
    obtain ⟨read, hsch, rfl⟩ := Option.map_eq_some_iff.mp hget
    obtain ⟨s, hs, hschedule, harrived⟩ := (hread.programs _ _).mp hsch
    cases hs
    rw [enabled_schedule hschedule, hknown.get_of_schedule hschedule] at hon
    exact ⟨Option.some.inj hon, harrived⟩
  · rintro ⟨hbit, hlisted⟩
    obtain ⟨read, hschedule, hsch⟩ := hread.exists_get hlisted
    refine ⟨{ read with enabled := some (store.mask.testBit i) }, ?_, congrArg some hbit⟩
    simp only [hsch, Option.map_some, enabled_schedule hschedule, hknown.get_of_schedule hschedule]

/-- A read without the mask: the table it leaves has just the counted bits. -/
theorem on_mergeDump (hknown : Knows store known) (D : StoreDump store) (n : ℕ) {dump : SyncDump}
    (hread : ReadFrom store (D.arrived n) dump) (hmask : dump.mask = none)
    (hlost : ¬ D.MaskArrived n) :
    (mergeDump dump known).1.Distinct ∧ (mergeDump dump known).1.Slots ∧
      ∀ i, (mergeDump dump known).1.On i ↔ store.mask.testBit i = true ∧ D.Counts n i := by
  by_cases hempty : dump.programs.isEmpty = true
  · have hnone : ∀ s, ¬ ∃ pb ∈ D.arrived n, ListsSlot store s pb := by
      intro s hs
      obtain ⟨sch, -, hget⟩ := hread.exists_get hs
      rw [List.isEmpty_iff.mp hempty] at hget
      cases hget
    by_cases hstatus : dump.status.isSome = true
    · -- the status arrived and no program: the table is cleared
      have hmerge : (mergeDump dump known).1 = [] := by simp [mergeDump, hempty, hstatus]
      obtain ⟨pb, hpb, -⟩ := hread.status.mp hstatus
      have hsome : D.arrived n ≠ [] := List.ne_nil_of_mem hpb
      rw [hmerge]
      refine ⟨trivial, fun key sch hget => (by cases hget), fun i => ?_⟩
      simp [ProgramTable.On, StoreDump.Counts, hnone, hsome]
    · -- nothing arrived: the table stays
      have hmerge : (mergeDump dump known).1 = known := by simp [mergeDump, hempty, hstatus, hmask]
      have hnothing : D.arrived n = [] := by
        refine List.eq_nil_iff_forall_not_mem.mpr fun pb hpb => ?_
        rcases D.tells_arrived n pb hpb with ⟨s, hslot⟩ | hm | hst
        · exact hnone s ⟨pb, hpb, hslot⟩
        · exact hlost ⟨pb, hpb, hm⟩
        · exact hstatus (hread.status.mpr ⟨pb, hpb, hst⟩)
      obtain ⟨pbs, hmasked, -⟩ := hknown.masked
      rw [hmerge]
      refine ⟨hmasked.distinct, hmasked.slots, fun i => ?_⟩
      rw [hknown.on_iff, StoreDump.Counts, or_iff_right (hnone _), and_iff_right hnothing]
  · -- some programs arrived: they replace the table, with the flags of the known slots
    have hmerge : (mergeDump dump known).1 = carryEnabled known dump.programs := by
      simp [mergeDump, hempty, hmask]
    have hsome : D.arrived n ≠ [] := by
      intro hnil
      obtain ⟨⟨key, sch⟩, rest, hcons⟩ := List.exists_cons_of_ne_nil (by simpa using hempty)
      obtain ⟨-, -, -, pb, hpb, -⟩ := (hread.programs key sch).mp (by
        rw [hcons, ProgramTable.get_cons, if_pos rfl])
      exact List.ne_nil_of_mem hpb hnil
    rw [hmerge]
    refine ⟨distinct_carryEnabled known hread.distinct, slots_carryEnabled known hread.slots,
      fun i => ?_⟩
    rw [StoreDump.Counts, or_iff_left fun h => hsome h.1]
    exact on_carryEnabled hknown hread i

/-- The mask a write starts from, whatever arrived of the dump before it. -/
theorem enableMask_of_cut (hknown : Knows store known) (D : StoreDump store) (n : ℕ) :
    ∃ dump v, parseSyncDump (D.stream.take n) = .ok dump ∧
      enableMask dump.mask (mergeDump dump known).1 = .ok (.int v) ∧
      ∀ i, v.testBit i = true ↔
        store.mask.testBit i = true ∧ (D.MaskArrived n ∨ D.Counts n i) := by
  obtain ⟨dump, hdump, harrived, hlost⟩ := parseSyncMessages_tells (D.tells_arrived n)
  rw [parseSyncDump, D.splitInnerMessages_take]
  by_cases hmask : D.MaskArrived n
  · obtain ⟨hdumped, -⟩ := harrived hmask
    refine ⟨dump, store.mask, hdump, by rw [hdumped]; rfl, fun i => ?_⟩
    rw [and_iff_left (.inl hmask)]
  · obtain ⟨hnone, hread⟩ := hlost hmask
    obtain ⟨hdistinct, hslots, hon⟩ := on_mergeDump hknown D n hread hnone hmask
    obtain ⟨sum, hsum, hbits⟩ := enabledSum_eq hdistinct hslots
    refine ⟨dump, sum, hdump, by rw [hnone, enableMask, hsum]; rfl, fun i => ?_⟩
    rw [hbits, hon, or_iff_right hmask]

end Fallback

/-! ## The writes -/

/-- The three methods which write an enable mask. -/
inductive ProgramWrite where
  | set (spec : ProgramSpec)
  | delete (slot : ℕ)
  | setEnabled (slot : ℕ) (on : Bool)

def ProgramWrite.slot : ProgramWrite → ℕ
  | .set spec => spec.slot
  | .delete slot => slot
  | .setEnabled slot _ => slot

def ProgramWrite.run (R : Radio ProtobufDevice) : ProgramWrite → ProtobufTask Bool
  | .set spec => setProgram R spec
  | .delete slot => deleteProgram R slot
  | .setEnabled slot on => setProgramEnabled R slot on

/-- The mask `v` has the store's bits, but for slot `s`. -/
def AgreesOff (store : ProgramStore) (s v : ℕ) : Prop :=
  ∀ i, i + 1 ≠ s → v.testBit i = store.mask.testBit i

def MaskAgrees (store : ProgramStore) (s : ℕ) (pt : Bytes) : Prop :=
  ∀ block, writtenField 20 pt = some block →
    ∃ v, pbField (pbParse block) 1 = some (.int v) ∧ AgreesOff store s v

/-- Every mask which the method writes agrees with the store's off the method's slot. -/
def KeepsOtherBits (replies : ℕ → Reply) (utcOffset : UtcOffset) (op : ProgramWrite)
    (store : ProgramStore) (w : World ProtobufDevice) : Prop :=
  ∀ pt, .wrote pt ∈ (after (op.run (protobufRadio replies utcOffset)) w).log.drop w.log.length →
    MaskAgrees store op.slot pt

section Writes

variable {store : ProgramStore} {s v : ℕ} {R : Radio ProtobufDevice}

theorem AgreesOff.without (h : AgreesOff store s v) (hs : 0 < s) :
    AgreesOff store s (Nat.ldiff v (2 ^ (s - 1))) := by
  intro i hi
  have hne : s - 1 ≠ i := by omega
  rw [Nat.testBit_ldiff, Nat.testBit_two_pow_of_ne hne, h i hi]
  simp

theorem AgreesOff.with (h : AgreesOff store s v) (hs : 0 < s) :
    AgreesOff store s (v ||| 2 ^ (s - 1)) := by
  intro i hi
  have hne : s - 1 ≠ i := by omega
  rw [Nat.testBit_or, Nat.testBit_two_pow_of_ne hne, h i hi]
  simp

theorem sends_other {f : ℕ} (hf : f ≠ 20) (block : Bytes) :
    Sends (MaskAgrees store s) (pbFieldBytes f block) := by
  intro msg hmsg written hwritten
  rw [writtenField_of_buildMessage hmsg, if_neg hf.symm] at hwritten
  cases hwritten

theorem AgreesOff.sends (h : AgreesOff store s v) :
    Sends (MaskAgrees store s) (buildSetActiveProgramsPb v) := by
  intro msg hmsg written hwritten
  rw [writtenField_of_buildMessage hmsg, if_pos rfl] at hwritten
  cases hwritten
  exact ⟨v, by simp [pbParse_pbFieldVarint], h⟩

theorem moves_writeMask (h : AgreesOff store s v) :
    Moves (WritesOnly (MaskAgrees store s)) (writeMask R v) :=
  moves_sendMessage_ (operates_writesOnly R _) h.sends

theorem moves_autoMode : Moves (WritesOnly (MaskAgrees store s)) (autoMode R) :=
  moves_sendMessage_ (operates_writesOnly R _) (sends_other (by decide) _)

theorem moves_stamp {label : String} {notifs : ℕ} :
    Moves (WritesOnly (MaskAgrees store s)) (stampCommand label notifs) :=
  moves_stampCommand fun _ _ _ _ => .of_same rfl

theorem moves_read : Moves (WritesOnly (MaskAgrees store s)) (readPrograms R) :=
  moves_readPrograms (operates_writesOnly R _) (sends_other (by decide) _) fun _ _ => .of_same rfl

theorem moves_status : Moves (WritesOnly (MaskAgrees store s)) (refreshStatus R false) := by
  have htraffic : StatusTraffic R (MaskAgrees store s) (WritesOnly (MaskAgrees store s)) :=
    .of_blocks (operates_writesOnly R _) fun f hf block => sends_other (by
      rintro rfl
      simp at hf) block
  exact htraffic.moves_refreshStatus (fun _ => .of_same rfl) false

theorem moves_storeOnly (h : AgreesOff store s v) (hs : 0 < s) (stored : Bool) :
    Moves (WritesOnly (MaskAgrees store s)) (storeOnly R (.int v) (2 ^ (s - 1)) stored) := by
  refine Moves.bind_raising fun flags hflags => ?_
  cases hflags
  exact Moves.bind (moves_writeMask (h.without hs)) fun _ =>
    Moves.bind moves_autoMode fun _ => .pure _

theorem moves_enableHandshake (h : AgreesOff store s v) (hs : 0 < s) (spec : ProgramSpec) :
    Moves (WritesOnly (MaskAgrees store s))
      (enableHandshake R (.int v) (2 ^ (s - 1)) (buildProgramPb spec)) := by
  refine Moves.bind_raising fun flags hflags => ?_
  cases hflags
  refine Moves.bind (moves_writeMask (h.with hs)) fun _ => Moves.bind moves_autoMode fun _ =>
    Moves.bind (moves_sendMessage_ (operates_writesOnly R _) (sends_other (by decide) _)) fun _ =>
      Moves.bind (moves_writeMask (h.with hs)) fun _ => Moves.bind moves_status fun _ =>
        Moves.bind moves_getDev fun d => ?_
  cases d.state.nextStartFlags with
  | none => exact .pure _
  | some flags =>
    cases flags with
    | int n => exact .pure _
    | bytes b => exact .ite (.pure _) (.throw _)

variable {w w₁ : World ProtobufDevice} {read : ProgramTable × Option PbVal}
  (hread : readPrograms R w = .ok read w₁) (hmask : currentMask read.2 w₁ = .ok (.int v) w₁)
  (h : AgreesOff store s v) (hs : 0 < s)
include hread hmask h hs

theorem writes_setProgramBody (spec : ProgramSpec) (hslot : spec.slot = s) :
    WritesOnly (MaskAgrees store s) w₁ (after (setProgramBody R spec) w) := by
  rw [setProgramBody, after_bind_ok hread, after_bind_ok hmask]
  have htail : Moves (WritesOnly (MaskAgrees store s)) (do
      sendMessage_ R (buildProgramPb spec)
      stampCommand ("program set " ++ slotLetter spec.slot) 0
      let readBack ← readPrograms R
      let bit ← raising (slotBit (.int spec.slot))
      if spec.enabled then enableHandshake R (.int v) bit (buildProgramPb spec)
      else storeOnly R (.int v) bit (storedOk readBack.1 spec.slot)) := by
    refine Moves.bind (moves_sendMessage_ (operates_writesOnly R _) (sends_other (by decide) _))
      fun _ => Moves.bind moves_stamp fun _ => Moves.bind moves_read fun _ =>
        Moves.bind_raising fun bit hbit => ?_
    rw [hslot, slotBit_of_pos hs] at hbit
    cases hbit
    exact .ite (moves_enableHandshake h hs spec) (moves_storeOnly h hs _)
  exact htail w₁

theorem writes_deleteProgramBody :
    WritesOnly (MaskAgrees store s) w₁ (after (deleteProgramBody R s) w) := by
  rw [deleteProgramBody, after_bind_ok hread,
    after_bind_ok (run_raising_ok (slotBit_of_pos hs) w₁), after_bind_ok hmask]
  refine Moves.bind_raising (fun flags hflags => ?_) w₁
  cases hflags
  refine Moves.bind (moves_writeMask (h.without hs)) fun _ =>
    Moves.bind (moves_sendMessage_ (operates_writesOnly R _) (sends_other (by decide) _)) fun _ =>
      Moves.bind moves_autoMode fun _ => Moves.bind moves_stamp fun _ =>
        Moves.bind moves_read fun readBack => ?_
  cases ProgramTable.get readBack.1 (.int s) with
  | none => exact .pure _
  | some sch => exact .pure _

theorem writes_setProgramEnabledBody (on : Bool) :
    WritesOnly (MaskAgrees store s) w₁ (after (setProgramEnabledBody R s on) w) := by
  rw [setProgramEnabledBody, after_bind_ok hread, after_bind_ok hmask,
    after_bind_ok (run_raising_ok (slotBit_of_pos hs) w₁)]
  refine Moves.bind_raising (fun flags hflags => ?_) w₁
  have hagrees : AgreesOff store s flags := by
    cases on with
    | true =>
      cases hflags
      exact h.with hs
    | false =>
      cases hflags
      exact h.without hs
  exact Moves.bind (moves_writeMask hagrees) fun _ => Moves.bind moves_autoMode fun _ =>
    Moves.bind (.onlyIf (moves_writeMask hagrees)) fun _ => Moves.bind moves_stamp fun _ =>
      Moves.bind moves_status fun _ => Moves.bind moves_read fun _ =>
        Moves.bind (Moves.bind moves_getDev fun _ => .raising _) fun _ => .raising _

end Writes

section Main

variable {store : ProgramStore} {s : ℕ} {replies : ℕ → Reply} {utcOffset : UtcOffset}
  {w : World ProtobufDevice}

def ProgramWrite.body (R : Radio ProtobufDevice) : ProgramWrite → ProtobufTask Bool
  | .set spec => setProgramBody R spec
  | .delete slot => deleteProgramBody R slot
  | .setEnabled slot on => setProgramEnabledBody R slot on

theorem ProgramWrite.run_eq (R : Radio ProtobufDevice) (op : ProgramWrite) :
    op.run R = guardedSession R (op.body R) := by
  cases op <;> rfl

theorem ProgramWrite.body_of_failed_read {R : Radio ProtobufDevice} {w w₁ : World ProtobufDevice}
    {e : PyErr} (h : readPrograms R w = .error e w₁) (op : ProgramWrite) :
    after (op.body R) w = w₁ := by
  cases op with
  | set spec => exact after_bind_error h
  | delete slot => exact after_bind_error h
  | setEnabled slot on => exact after_bind_error h

/-- A method whose read leaves an agreeing mask writes agreeing masks. -/
theorem keepsOtherBits_of_agrees (hs : 0 < s)
    (hagrees : ∀ read w₁, readPrograms (protobufRadio replies utcOffset) w = .ok read w₁ →
      ∃ v, currentMask read.2 w₁ = .ok (.int v) w₁ ∧ AgreesOff store s v)
    (op : ProgramWrite) (hslot : op.slot = s) : KeepsOtherBits replies utcOffset op store w := by
  set R := protobufRadio replies utcOffset
  have hbody : WritesOnly (MaskAgrees store s) w (after (op.body R) w) := by
    cases hread : readPrograms R w with
    | error e w₁ =>
      rw [ProgramWrite.body_of_failed_read hread, ← after_of_error hread]
      exact moves_read w
    | ok read w₁ =>
      obtain ⟨v, hmask, h⟩ := hagrees read w₁ hread
      refine trans_of _ (moves_read.of_ok hread) ?_
      cases op with
      | set spec => exact writes_setProgramBody hread hmask h hs spec hslot
      | delete slot =>
        cases hslot
        exact writes_deleteProgramBody hread hmask h hs
      | setEnabled slot on =>
        cases hslot
        exact writes_setProgramEnabledBody hread hmask h hs on
  rw [KeepsOtherBits, ProgramWrite.run_eq, hslot]
  cases hconn : w.dev.hasConnection with
  | false =>
    rw [after_guardedSession_of_not hconn]
    simp
  | true =>
    rw [after_guardedSession hconn]
    exact (trans_of (WritesOnly (MaskAgrees store s)) hbody (writesOnly_opened _ R _)).wrote

theorem currentMask_of_cut (hknown : Knows store w.dev.state.programs) (D : StoreDump store)
    {n : ℕ} (hcut : (replies w.tick).stream = D.stream.take n)
    {read : ProgramTable × Option PbVal} {w₁ : World ProtobufDevice}
    (hread : readPrograms (protobufRadio replies utcOffset) w = .ok read w₁) :
    ∃ v, currentMask read.2 w₁ = .ok (.int v) w₁ ∧ ∀ i, v.testBit i = true ↔
      store.mask.testBit i = true ∧ (D.MaskArrived n ∨ D.Counts n i) := by
  obtain ⟨dump, v, hdump, hmask, hbits⟩ := enableMask_of_cut hknown D n
  obtain ⟨dump', hdump', rfl, hprograms, -⟩ := run_readPrograms_eq_ok hread
  rw [hcut, hdump] at hdump'
  cases hdump'
  refine ⟨v, ?_, hbits⟩
  rw [currentMask, run_bind_ok (run_getDev w₁), hprograms]
  exact run_raising_ok hmask w₁

/-- The dump cut after `n` bytes answers operation `k`, byte by byte; nothing else is heard. -/
def cutReplies (D : StoreDump store) (n k j : ℕ) : Reply :=
  if j = k then
    { frames := (D.stream.take n).map fun b => ⟨[b], DateTime.epoch⟩, clock := DateTime.epoch }
  else { clock := DateTime.epoch }

theorem stream_cutReplies (D : StoreDump store) (n k : ℕ) :
    (cutReplies D n k k).stream = D.stream.take n := by
  rw [cutReplies, if_pos rfl, Reply.stream, if_neg (by simp), List.flatMap_map,
    List.flatMap_singleton']

theorem reliable_cutReplies (D : StoreDump store) (n k : ℕ) (utcOffset : UtcOffset) :
    (protobufRadio (cutReplies D n k) utcOffset).Reliable := by
  intro j
  unfold protobufRadio cutReplies
  dsimp only
  split_ifs <;> exact ⟨rfl, rfl⟩

theorem exists_maskMessage {v : ℕ} (h : v < 2 ^ 6) :
    ∃ msg, buildMessage (buildSetActiveProgramsPb v) = .ok msg ∧ msg.length ≤ 255 := by
  have hlen : (buildSetActiveProgramsPb v).length ≤ 247 := by
    have htag : (pbVarint ((1 <<< 3 ||| 0 : ℕ) : ℤ)).length ≤ 1 :=
      length_pbVarint_le (k := 0) (by decide)
    have hflags : (pbVarint v).length ≤ 1 := length_pbVarint_le (k := 0) (by omega)
    have htag' : (pbVarint ((20 <<< 3 ||| 2 : ℕ) : ℤ)).length ≤ 2 :=
      length_pbVarint_le (k := 1) (by decide)
    have hbody : (pbFieldVarint 1 v).length ≤ 2 := by
      rw [pbFieldVarint, List.length_append]
      omega
    have hlength : (pbVarint ((pbFieldVarint 1 v).length : ℕ)).length ≤ 1 :=
      length_pbVarint_le (k := 0) (by omega)
    rw [buildSetActiveProgramsPb, pbFieldBytes]
    simp only [List.length_append]
    omega
  refine ⟨_, Body.buildMessage_eq ⟨buildSetActiveProgramsPb v, by omega⟩, ?_⟩
  rw [Body.length_frame]
  exact Nat.add_le_add_right hlen 8

/-- A reliable `delete_program` writes the mask it works with, without the slot. -/
theorem delete_writes (hrel : (protobufRadio replies utcOffset).Reliable)
    (hconn : w.dev.hasConnection = true) (hs : 0 < s) {read : ProgramTable × Option PbVal}
    {w₁ : World ProtobufDevice} {v : ℕ}
    (hread : readPrograms (protobufRadio replies utcOffset) w = .ok read w₁)
    (hmask : currentMask read.2 w₁ = .ok (.int v) w₁) {msg : Bytes}
    (hmsg : buildMessage (buildSetActiveProgramsPb (Nat.ldiff v (2 ^ (s - 1)))) = .ok msg)
    (hfits : msg.length ≤ 255) :
    .wrote msg ∈ (after ((ProgramWrite.delete s).run (protobufRadio replies utcOffset)) w).log.drop
      w.log.length := by
  set R := protobufRadio replies utcOffset
  have hwrite : writeMask R (Nat.ldiff v (2 ^ (s - 1))) w₁ = .ok () (w₁.exchanged R msg) :=
    run_sendMessage_of_reliable hrel hmsg hfits w₁
  have hflags : maskWithout (.int v) (2 ^ (s - 1)) = .ok (Nat.ldiff v (2 ^ (s - 1))) := rfl
  set w₂ := w₁.exchanged R msg with hw₂
  obtain ⟨before, behind, hlog₂⟩ := Radio.log_exchanged (R := R) w₁ msg
  have htail : WritesOnly (fun _ => True) w₂ (after (deleteProgramBody R s) w) := by
    rw [deleteProgramBody, after_bind_ok hread,
      after_bind_ok (run_raising_ok (slotBit_of_pos hs) w₁), after_bind_ok hmask,
      after_bind_ok (run_raising_ok hflags w₁), after_bind_ok hwrite]
    refine Moves.bind (grows_sendMessage_ R _) (fun _ => Moves.bind (grows_sendMessage_ R _)
      fun _ => Moves.bind (grows_stampCommand _ _) fun _ =>
        Moves.bind (grows_readPrograms R) fun readBack => ?_) w₂
    cases ProgramTable.get readBack.1 (.int s) with
    | none => exact .pure _
    | some sch => exact .pure _
  have hclose : WritesOnly (fun _ => True) (after (deleteProgramBody R s) w)
      ((after (deleteProgramBody R s) w).opened R) :=
    writesOnly_opened _ R _
  obtain ⟨new₁, hlog₁, -⟩ := (grows_readPrograms R).of_ok hread
  obtain ⟨new₃, hlog₃, -⟩ := trans_of (WritesOnly fun _ => True) htail hclose
  have hrun : after ((ProgramWrite.delete s).run R) w = (after (deleteProgramBody R s) w).opened R :=
    after_guardedSession hconn
  rw [hrun, hlog₃, hw₂, hlog₂, hlog₁]
  simp

/-- A cut which loses another slot's bit has the slot disabled by a delete. -/
theorem not_keepsOtherBits_of_cut (utcOffset : UtcOffset) (D : StoreDump store) (n : ℕ)
    (hs : 0 < s) (hknown : Knows store w.dev.state.programs) (hconn : w.dev.hasConnection = true)
    (hlost : ¬ D.MaskArrived n) {i : ℕ} (hi : i + 1 ≠ s) (hbit : store.mask.testBit i = true)
    (hcount : ¬ D.Counts n i) :
    ¬ KeepsOtherBits (cutReplies D n w.tick) utcOffset (.delete s) store w := by
  intro hkeeps
  have hstream := stream_cutReplies D n w.tick
  have hrel := reliable_cutReplies D n w.tick utcOffset
  obtain ⟨dump, -, hdump, -⟩ := enableMask_of_cut hknown D n
  obtain ⟨w₁, hread, -, -⟩ := run_readPrograms (w := w) hrel (hstream ▸ hdump)
  obtain ⟨v, hmask, hbits⟩ := currentMask_of_cut hknown D hstream hread
  -- the bits which are left belong to slots, so the mask is short
  have hshort : Nat.ldiff v (2 ^ (s - 1)) < 2 ^ 6 := by
    refine lt_two_pow_of_bits fun j hj => ?_
    rw [Nat.testBit_ldiff, Bool.and_eq_true] at hj
    have hslot := ((hbits j).mp hj.1).2.resolve_left hlost
    have hstored : (store.body (j + 1)).isSome = true := by
      rcases hslot with ⟨pb, -, b, hb, -⟩ | ⟨-, hstored⟩
      · rw [hb]
        rfl
      · exact hstored
    obtain ⟨b, hb⟩ := Option.isSome_iff_exists.mp hstored
    have := store.slots _ _ hb
    omega
  obtain ⟨msg, hmsg, hfits⟩ := exists_maskMessage hshort
  have hwrote := delete_writes hrel hconn hs hread hmask hmsg hfits
  obtain ⟨v', hv', hagrees⟩ := hkeeps _ hwrote _ (writtenField_of_buildMessage hmsg)
  rw [pbParse_pbFieldVarint, pbField_cons, Field.varint_num, if_pos rfl] at hv'
  cases hv'
  have hset := (hagrees i hi).trans hbit
  rw [Nat.testBit_ldiff, Bool.and_eq_true] at hset
  exact hcount (((hbits i).mp hset.1).2.resolve_left hlost)

/-- Off the slot of the method every mask written has the store's bits, whatever the answers
beyond the cut dump, exactly when the mask arrived, or each enabled slot but that one did,
or nothing arrived and each of them is stored. -/
theorem keepsOtherBits_iff (utcOffset : UtcOffset) (D : StoreDump store) (n : ℕ) (hs : 0 < s)
    (hknown : Knows store w.dev.state.programs) :
    (∀ op : ProgramWrite, op.slot = s → ∀ replies : ℕ → Reply,
        (replies w.tick).stream = D.stream.take n → KeepsOtherBits replies utcOffset op store w) ↔
      w.dev.hasConnection = false ∨ D.MaskArrived n ∨
        ∀ i, i + 1 ≠ s → store.mask.testBit i = true → D.Counts n i := by
  constructor
  · intro hall
    by_contra hcond
    simp only [not_or, not_forall, Bool.not_eq_false] at hcond
    obtain ⟨hconn, hlost, i, hi, hbit, hcount⟩ := hcond
    exact not_keepsOtherBits_of_cut utcOffset D n hs hknown hconn hlost hi hbit hcount
      (hall (.delete s) rfl _ (stream_cutReplies D n w.tick))
  · intro hcond op hslot replies hcut
    rcases hcond with hconn | hcond
    · rw [KeepsOtherBits, ProgramWrite.run_eq, after_guardedSession_of_not hconn]
      simp
    · refine keepsOtherBits_of_agrees hs (fun read w₁ hread => ?_) op hslot
      obtain ⟨v, hmask, hbits⟩ := currentMask_of_cut hknown D hcut hread
      refine ⟨v, hmask, fun i hi => ?_⟩
      rw [Bool.eq_iff_iff, hbits]
      exact and_iff_left_of_imp fun hbit => hcond.imp id fun hall => hall i hi hbit

end Main

/-! ## Two programs -/

def twoPrograms : ProgramStore where
  body s := if s = 1 then some [0x08, 0x01] else if s = 2 then some [0x08, 0x02] else none
  mask := 3
  slots s b h := by
    split_ifs at h <;> omega
  own s b h := by
    split_ifs at h with h₁ h₂
    · cases h
      subst h₁
      exact ⟨_, rfl, rfl⟩
    · cases h
      subst h₂
      exact ⟨_, rfl, rfl⟩

theorem listsSlot_twoPrograms {s : ℕ} {b : Bytes} (h : twoPrograms.body s = some b) :
    ListsSlot twoPrograms s (pbFieldBytes 19 b) :=
  ⟨b, h, syncFields_pbFieldBytes 19 b⟩

theorem listsMask_twoPrograms : ListsMask twoPrograms (buildSetActiveProgramsPb 3) :=
  ⟨pbFieldVarint 1 (3 : ℕ), syncFields_pbFieldBytes 20 _, by
    rw [pbParse_pbFieldVarint]
    rfl⟩

def twoMessages : List Body :=
  [⟨pbFieldBytes 19 [0x08, 0x01], by decide⟩, ⟨pbFieldBytes 19 [0x08, 0x02], by decide⟩,
    ⟨buildSetActiveProgramsPb 3, by decide⟩]

def twoDump : StoreDump twoPrograms where
  messages := twoMessages
  tells b hb := by
    rw [twoMessages, List.mem_cons, List.mem_cons, List.mem_singleton] at hb
    rcases hb with rfl | rfl | rfl
    · exact .inl ⟨1, listsSlot_twoPrograms rfl⟩
    · exact .inl ⟨2, listsSlot_twoPrograms rfl⟩
    · exact .inr (.inl listsMask_twoPrograms)
  slots s hs := by
    obtain ⟨b, hb⟩ := Option.isSome_iff_exists.mp hs
    have hlists := listsSlot_twoPrograms hb
    unfold twoPrograms at hb
    dsimp only at hb
    split_ifs at hb with h₁ h₂
    · cases hb
      exact ⟨_, List.mem_cons_self, hlists⟩
    · cases hb
      exact ⟨_, List.mem_cons_of_mem _ List.mem_cons_self, hlists⟩
  mask := ⟨⟨buildSetActiveProgramsPb 3, by decide⟩, by simp [twoMessages], listsMask_twoPrograms⟩

def twoKnown : ProgramTable :=
  match parseSyncDump twoDump.stream with
  | .ok dump => (mergeDump dump []).1
  | .error _ => []

theorem knows_twoKnown : Knows twoPrograms twoKnown := by
  obtain ⟨dump, hdump, -⟩ := parseSyncMessages_tells twoDump.tells_messages
  have hparse : parseSyncDump twoDump.stream = .ok dump := by
    rw [parseSyncDump, twoDump.splitInnerMessages_stream]
    exact hdump
  have hknown : twoKnown = (mergeDump dump []).1 := by
    unfold twoKnown
    rw [hparse]
  exact ⟨twoDump, dump, [], hparse, hknown⟩

/-- Home Assistant knows both programs. -/
def twoWorld : World ProtobufDevice where
  dev := { state := { programs := twoKnown } }
  clock := DateTime.epoch

theorem knows_twoWorld : Knows twoPrograms twoWorld.dev.state.programs := by
  rw [twoWorld]
  dsimp only
  exact knows_twoKnown

theorem arrived_twoDump : twoDump.arrived 13 = [pbFieldBytes 19 [0x08, 0x01]] := by decide +kernel

/-- The read before a delete of slot 1 is cut after the first message: slot 2 is disabled. -/
theorem delete_disables_other_slot :
    (cutReplies twoDump 13 0 0).stream = twoDump.stream.take 13 ∧
      Knows twoPrograms twoWorld.dev.state.programs ∧
      ¬ KeepsOtherBits (cutReplies twoDump 13 0) .utc (.delete 1) twoPrograms twoWorld := by
  have hfields : syncFields (pbFieldBytes 19 [0x08, 0x01]) = (some (.bytes [0x08, 0x01]), none, none) :=
    syncFields_pbFieldBytes 19 [0x08, 0x01]
  have hlost : ¬ twoDump.MaskArrived 13 := by
    rintro ⟨pb, hpb, block, hmask, -⟩
    rw [arrived_twoDump, List.mem_singleton] at hpb
    rw [hpb, hfields] at hmask
    cases hmask
  have hcount : ¬ twoDump.Counts 13 1 := by
    rintro (⟨pb, hpb, b, hb, hslot⟩ | ⟨hnil, -⟩)
    · rw [arrived_twoDump, List.mem_singleton] at hpb
      rw [hpb, hfields] at hslot
      cases hslot
      cases hb
    · rw [arrived_twoDump] at hnil
      cases hnil
  refine ⟨stream_cutReplies twoDump 13 0, knows_twoWorld, ?_⟩
  exact not_keepsOtherBits_of_cut (w := twoWorld) .utc twoDump 13 Nat.one_pos knows_twoWorld rfl
    hlost (by decide) (by decide) hcount

/-- The whole dump. -/
theorem keepsOtherBits_iff_twoPrograms :
    (∀ op : ProgramWrite, op.slot = 1 → ∀ replies : ℕ → Reply,
        (replies twoWorld.tick).stream = twoDump.stream.take 100 →
          KeepsOtherBits replies .utc op twoPrograms twoWorld) ↔
      twoWorld.dev.hasConnection = false ∨ twoDump.MaskArrived 100 ∨
        ∀ i, i + 1 ≠ 1 → twoPrograms.mask.testBit i = true → twoDump.Counts 100 i :=
  keepsOtherBits_iff .utc twoDump 100 Nat.one_pos knows_twoWorld

end OrbitBhyve.Devices
