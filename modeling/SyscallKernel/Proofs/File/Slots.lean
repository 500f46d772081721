import SyscallKernel.Proofs.File.Releases

/-!
# The references that slots have given out

A slot raises its generation when it is emptied. So it has given out one reference for every
generation below its own, and one more while it is taken, until its generation goes round. Only a
new entry takes a reference that was not given out before; no other operation makes a slot, and
none makes a stale reference designate something again.
-/

namespace SyscallKernel

/-- The slot has given out a reference of this generation, for the entry that it holds or for an
earlier one. -/
def Slot.HasIssued (slot : Slot) (generation : Nat) : Prop :=
  generation < slot.freed ∨ generation = slot.freed ∧ slot.entry ≠ none

/-- Until a slot has gone through all generations its generation is how often it was freed. -/
theorem Slot.generation_eq {slot : Slot} (low : slot.freed < wordCount) :
    slot.generation = slot.freed := Nat.mod_eq_of_lt low

/-- A change of a slot that gives out no reference. -/
structure Slot.Ages (slot slot' : Slot) : Prop where
  /-- The same references have been given out. -/
  issued : ∀ generation, slot'.HasIssued generation ↔ slot.HasIssued generation
  /-- If the slot is taken, then it was taken in the same generation. -/
  taken : slot'.entry ≠ none → slot'.freed = slot.freed ∧ slot.entry ≠ none

theorem Slot.ages_self (slot : Slot) : slot.Ages slot := ⟨fun _ => .rfl, fun taken => ⟨rfl, taken⟩⟩

/-- Changing the entry in a slot gives out no reference. -/
theorem Slot.ages_map (slot : Slot) (change : FileEntry → FileEntry) :
    slot.Ages { slot with entry := slot.entry.map change } where
  issued generation := by simp only [HasIssued, ne_eq, Option.map_eq_none_iff]
  taken held := ⟨rfl, fun vacant => held (Option.map_eq_none_iff.2 vacant)⟩

/-- Emptying a taken slot gives out no reference. -/
theorem Slot.ages_vacated {slot : Slot} (held : slot.entry ≠ none) :
    slot.Ages ⟨slot.freed + 1, none⟩ where
  issued generation := by
    simp only [HasIssued, ne_eq, not_true_eq_false, and_false, or_false, held, not_false_eq_true,
      and_true]
    omega
  taken taken := absurd rfl taken

namespace FileStore

variable {store store' : FileStore} {id : FileId} {entry : FileEntry} {name : FileName}
  {owner : Pid}

/-- The reference was given out, for an entry that is still there or for an earlier one. -/
def HasIssued (store : FileStore) (id : FileId) : Prop :=
  ∃ slot, store.arena[id.index]? = some slot ∧ slot.HasIssued id.generation

/-- A reference that designates an entry was given out. -/
theorem Numbered.hasIssued_of_live (numbered : store.Numbered)
    (live : store.entry? id = some entry) : store.HasIssued id := by
  obtain ⟨slot, found, generation, held⟩ := entry?_eq_some_iff.1 live
  have low := numbered.freed_lt slot (List.mem_of_getElem? found)
  refine ⟨slot, found, .inr ⟨generation.symm.trans (Slot.generation_eq low), ?_⟩⟩
  rw [held]
  exact Option.some_ne_none entry

/-! ### The number of slots -/

/-- The live entries are counted by going through the slots. -/
theorem length_liveIds_eq_countP (store : FileStore) :
    store.liveIds.length = store.arena.countP fun slot => slot.entry.isSome := by
  have slots : (List.range store.arena.length).map (fun index => store.arena[index]?) =
      store.arena.map some := by
    refine List.ext_getElem? fun index => ?_
    rw [List.getElem?_map, List.getElem?_map]
    rcases Nat.lt_or_ge index store.arena.length with within | past
    · rw [List.getElem?_range within, Option.map_some, List.getElem?_eq_getElem within]
      rfl
    · rw [List.getElem?_eq_none (by rwa [List.length_range]), List.getElem?_eq_none past]
      rfl
  have taken : ∀ index, ((store.slotEntry? index).map Prod.fst).isSome =
      (store.arena[index]?).any fun slot => slot.entry.isSome := by
    intro index
    rw [Option.isSome_map, slotEntry?]
    cases store.arena[index]? with
    | none => rfl
    | some slot => rw [Option.isSome_map, Option.any_some]
  calc
    store.liveIds.length
      = (List.range store.arena.length).countP
          fun index => (store.arena[index]?).any fun slot => slot.entry.isSome := by
        rw [liveIds, List.length_filterMap_eq_countP]
        simp only [taken]
    _ = (store.arena.map some).countP fun slot => slot.any fun slot => slot.entry.isSome := by
        rw [← slots, List.countP_map]
        rfl
    _ = store.arena.countP fun slot => slot.entry.isSome := by
        rw [List.countP_map]
        rfl

/-- What every operation does to the number of slots and to their generations. -/
structure Grows (store store' : FileStore) : Prop where
  /-- There is room for as many entries as before. -/
  capacity : store'.capacity = store.capacity
  /-- A slot is made only where every slot is taken. -/
  length_arena : store'.arena.length = store.arena.length ∨
    store'.arena.length = store.arena.length + 1 ∧ store'.live = store'.arena.length
  /-- No slot was freed less often than before. -/
  older : Older store store'

namespace Grows

theorem refl (store : FileStore) : Grows store store := ⟨rfl, .inl rfl, .refl store⟩

/-- There are never fewer slots than before. -/
theorem length_le (grows : Grows store store') : store.arena.length ≤ store'.arena.length := by
  have slots := grows.length_arena
  omega

/-- No number had gone round before the operation if none has gone round after it. -/
theorem numbered (grows : Grows store store') (numbered : store'.Numbered) : store.Numbered :=
  grows.older.numbered_of_numbered numbered grows.length_le

end Grows

theorem Change.grows {new : Option FileEntry} {names : List (FileName × Nat)}
    (change : Change store id new names store') : Grows store store' :=
  ⟨change.capacity, change.length_arena, change.older⟩

theorem Creating.grows {creation : Creation}
    (creating : Creating store name owner store' creation) : Grows store store' := by
  cases creating with
  | truncated linked change => exact change.grows
  | created unlinked room fresh issued_eq change => exact change.grows
  | full => exact .refl store

theorem Opening.grows {handle : FileHandle}
    (opening : Opening store name owner (some (store', handle))) : Grows store store' := by
  cases opening with
  | opened linked change => exact change.grows

theorem Removing.grows {unlinking : Unlinking}
    (removing : Removing store name (some (store', unlinking))) : Grows store store' := by
  cases removing with
  | pending linked held change => exact change.grows
  | freed linked unheld change => exact change.grows
  | dangling => exact ⟨rfl, .inl rfl, .refl store⟩

theorem Releasing.older {release : Release} (releasing : Releasing store id store' release) :
    Older store store' := by
  cases releasing with
  | stale => exact .refl store
  | unheld => exact .refl store
  | kept live positive stays change => exact change.older
  | freed live one unlinked change => exact change.older

/-- No slot is made for a release. -/
theorem length_arena_release (store : FileStore) (id : FileId) :
    (store.release id).1.arena.length = store.arena.length := by
  rw [release]
  split
  · rfl
  · split
    · rfl
    · split
      · exact (length_arena_vacate _ _).trans (List.length_modify ..)
      · exact List.length_modify ..

theorem grows_releaseAll (regular : store.Regular) (handles : List FileHandle) :
    Grows store (store.releaseAll handles).1 := by
  refine ⟨(released_releaseAll regular handles).capacity, .inl ?_, ?_⟩
  · clear regular
    induction handles generalizing store with
    | nil => rfl
    | cons handle rest ih => exact ih.trans (length_arena_release store handle.id)
  · induction handles generalizing store with
    | nil => exact .refl store
    | cons handle rest ih =>
      have first := releasing regular.arranged handle.id
      exact first.older.trans (ih (first.regular regular))

theorem grows_write (store : FileStore) (handle : FileHandle) (bytes : Bytes) :
    Grows store (store.write handle bytes).1 := ⟨rfl, .inl rfl, .refl store⟩

/-! ### Operations that give out no reference for a new entry -/

/-- What becomes of the slots when no entry is made. -/
structure Carries (store store' : FileStore) : Prop where
  /-- The same references have been given out. -/
  hasIssued_iff : ∀ id, store'.HasIssued id ↔ store.HasIssued id
  /-- A stale reference stays stale. -/
  stale : ∀ id, store.entry? id = none → store'.entry? id = none

namespace Carries

theorem refl (store : FileStore) : Carries store store := ⟨fun _ => .rfl, fun _ => id⟩

theorem trans {middle : FileStore} (first : Carries store middle) (second : Carries middle store') :
    Carries store store' where
  hasIssued_iff id := (second.hasIssued_iff id).trans (first.hasIssued_iff id)
  stale id dead := second.stale id (first.stale id dead)

end Carries

/-- Every slot comes from the slot at its index, if the one that changes does. -/
theorem exists_ages_of_modify {index i : Nat} {change : Slot → Slot} {slot' : Slot}
    (changed : store'.arena = store.arena.modify index change)
    (ages : ∀ slot, store.arena[index]? = some slot → slot.Ages (change slot))
    (found : store'.arena[i]? = some slot') :
    ∃ slot, store.arena[i]? = some slot ∧ slot.Ages slot' := by
  rw [changed, List.getElem?_modify] at found
  obtain ⟨slot, before, rfl⟩ := Option.map_eq_some_iff.1 found
  refine ⟨slot, before, ?_⟩
  by_cases own : index = i
  · rw [if_pos own]
    exact ages slot (own ▸ before)
  · rw [if_neg own]
    exact slot.ages_self

/-- Only the slot that changes can give out a reference. -/
theorem carries_of_modify (index : Nat) {change : Slot → Slot}
    (changed : store'.arena = store.arena.modify index change)
    (ages : ∀ slot, store.arena[index]? = some slot → slot.Ages (change slot)) :
    Carries store store' where
  hasIssued_iff id := by
    constructor
    · rintro ⟨slot', found', issued⟩
      obtain ⟨slot, found, aged⟩ := exists_ages_of_modify changed ages found'
      exact ⟨slot, found, (aged.issued _).1 issued⟩
    · rintro ⟨slot, found, issued⟩
      have within := (List.getElem?_eq_some_iff.1 found).1
      obtain ⟨slot', found'⟩ : ∃ slot', store'.arena[id.index]? = some slot' :=
        ⟨_, List.getElem?_eq_getElem (by rwa [changed, List.length_modify])⟩
      obtain ⟨earlier, same, aged⟩ := exists_ages_of_modify changed ages found'
      rw [found] at same
      cases same
      exact ⟨slot', found', (aged.issued _).2 issued⟩
  stale id dead := by
    cases live : store'.entry? id with
    | none => rfl
    | some entry =>
      obtain ⟨slot', found', generation, held⟩ := entry?_eq_some_iff.1 live
      obtain ⟨slot, found, aged⟩ := exists_ages_of_modify changed ages found'
      obtain ⟨same, taken⟩ := aged.taken (by rw [held]; exact Option.some_ne_none entry)
      obtain ⟨earlier, held'⟩ := Option.ne_none_iff_exists'.1 taken
      have generation' : slot.generation = id.generation := by
        rw [← generation, Slot.generation, Slot.generation, same]
      rw [entry?_eq_some_iff.2 ⟨slot, found, generation', held'⟩] at dead
      cases dead

theorem carries_modifyEntry (store : FileStore) (index : Nat) (change : FileEntry → FileEntry) :
    Carries store (store.modifyEntry index change) :=
  carries_of_modify index rfl fun slot _ => slot.ages_map change

theorem carries_vacate (store : FileStore) (index : Nat) : Carries store (store.vacate index) := by
  rw [vacate]
  split
  · exact .refl store
  · rename_i taken held
    obtain ⟨rfl, live⟩ := slotEntry?_eq_some_iff.1 held
    obtain ⟨slot, found, -, holds⟩ := entry?_eq_some_iff.1 live
    refine carries_of_modify taken.1.index rfl fun slot' found' => ?_
    rw [found] at found'
    cases found'
    exact Slot.ages_vacated (by rw [holds]; exact Option.some_ne_none _)

/-- Emptying a linked file gives out no new reference. -/
theorem carries_create {linked : FileId × FileEntry} (leads : store.linked? name = some linked) :
    Carries store (store.create name owner).1 := by
  rw [create, leads]
  have carries := carries_modifyEntry store linked.1.index fun e =>
    { e with openCount := (linked.2.openCount + 1) % wordCount }
  exact ⟨carries.hasIssued_iff, carries.stale⟩

theorem carries_openLinked {handle : FileHandle}
    (opened : store.openLinked name owner = some (store', handle)) : Carries store store' := by
  rw [openLinked] at opened
  split at opened
  · cases opened
  · cases opened
    exact carries_modifyEntry store _ _

theorem carries_unlink {unlinking : Unlinking}
    (removed : store.unlink name = some (store', unlinking)) : Carries store store' := by
  have hidden : Carries store
      { store with names := store.names.filter fun link => link.1 ≠ name } :=
    ⟨fun _ => .rfl, fun _ dead => dead⟩
  rw [unlink] at removed
  split at removed
  · cases removed
  · split at removed
    · split at removed
      · cases removed
        exact hidden.trans (carries_modifyEntry _ _ _)
      · cases removed
        exact hidden.trans (carries_vacate _ _)
    · cases removed
      exact hidden

theorem carries_release (store : FileStore) (id : FileId) : Carries store (store.release id).1 := by
  rw [release]
  split
  · exact .refl store
  · split
    · exact .refl store
    · split
      · exact (carries_modifyEntry store _ _).trans (carries_vacate _ _)
      · exact carries_modifyEntry store _ _

theorem carries_write (store : FileStore) (handle : FileHandle) (bytes : Bytes) :
    Carries store (store.write handle bytes).1 := ⟨fun _ => .rfl, fun _ => id⟩

/-! ### New entries -/

/-- What becomes of the slots when an entry is made. -/
structure Takes (store : FileStore) (id : FileId) (store' : FileStore) : Prop where
  /-- The reference to it was never given out before. -/
  unissued : ¬ store.HasIssued id
  /-- No other reference is given out. -/
  hasIssued_iff : ∀ other, store'.HasIssued other ↔ other = id ∨ store.HasIssued other
  /-- Every other stale reference stays stale. -/
  stale : ∀ other, other ≠ id → store.entry? other = none → store'.entry? other = none

/-- An entry in an empty slot takes the reference of the slot's generation. -/
theorem takes_insert_reuse (arranged : store.Arranged) (entry : FileEntry) {index : Nat}
    {rest : List Nat} (free : store.free = index :: rest) {slot : Slot}
    (found : store.arena[index]? = some slot) (low : slot.freed < wordCount) :
    Takes store ⟨index, slot.generation⟩
      { store with
        arena := store.arena.modify index fun slot => { slot with entry := some entry }
        free := rest
        live := store.live + 1 } := by
  have vacant : slot.entry = none := by
    obtain ⟨slot', found', vacant⟩ := arranged.mem_free.1 (free ▸ List.mem_cons_self)
    rw [found] at found'
    cases found'
    exact vacant
  have current := Slot.generation_eq low
  refine ⟨?_, fun other => ?_, fun other apart dead => ?_⟩
  · rintro ⟨slot', found', issued⟩
    rw [found] at found'
    cases found'
    rw [current] at issued
    rcases issued with earlier | ⟨-, held⟩
    · exact Nat.lt_irrefl _ earlier
    · exact held vacant
  · obtain ⟨index', generation⟩ := other
    rw [current]
    simp only [HasIssued, List.getElem?_modify, FileId.mk.injEq]
    by_cases own : index = index'
    · subst own
      simp only [if_true, found, Option.map_eq_map, Option.map_some, Option.some.injEq,
        exists_eq_left', Slot.HasIssued, vacant, ne_eq, reduceCtorEq, not_false_eq_true,
        not_true_eq_false, and_true, and_false, or_false, true_and]
      exact or_comm
    · have apart : ¬ index' = index := fun equal => own equal.symm
      simp only [own, apart, if_false, Option.map_eq_map, Option.map_id', false_and, false_or]
  · rw [(change_insert_reuse arranged entry free found).2.entry?_eq, if_neg apart]
    exact dead

/-- An entry in a new slot takes the first reference of the slot. -/
theorem takes_insert_append (arranged : store.Arranged) (entry : FileEntry)
    (full : store.free = []) :
    Takes store ⟨store.arena.length, 0⟩
      { store with
        arena := store.arena ++ [⟨0, some entry⟩]
        live := store.live + 1 } := by
  refine ⟨?_, fun other => ?_, fun other apart dead => ?_⟩
  · rintro ⟨slot, found, -⟩
    exact Nat.lt_irrefl _ (List.getElem?_eq_some_iff.1 found).1
  · obtain ⟨index, generation⟩ := other
    simp only [HasIssued, FileId.mk.injEq, List.getElem?_append]
    rcases Nat.lt_trichotomy index store.arena.length with within | rfl | past
    · have apart : index ≠ store.arena.length := Nat.ne_of_lt within
      simp only [within, apart, if_true, false_and, false_or]
    · simp only [Nat.lt_irrefl, if_false, Nat.sub_self, List.getElem?_cons_zero,
        Option.some.injEq, exists_eq_left', Slot.HasIssued, Nat.not_lt_zero, ne_eq, reduceCtorEq,
        not_false_eq_true, and_true, false_or, true_and, List.getElem?_eq_none (Nat.le_refl _),
        false_and, exists_false, or_false]
    · have apart : index ≠ store.arena.length := Nat.ne_of_gt past
      have beyond : [(⟨0, some entry⟩ : Slot)].length ≤ index - store.arena.length := by
        rw [List.length_singleton]
        omega
      simp only [Nat.not_lt_of_gt past, apart, if_false, List.getElem?_eq_none beyond,
        List.getElem?_eq_none (Nat.le_of_lt past), reduceCtorEq, false_and, exists_false, or_false]
  · rw [(change_insert_append arranged entry full).2.entry?_eq, if_neg apart]
    exact dead

/-- A new entry takes a reference that was never given out before. -/
theorem takes_insert (arranged : store.Arranged) (numbered : store.Numbered) (entry : FileEntry)
    (indexed : (store.insert entry).1.Indexed) :
    Takes store (store.insert entry).2 (store.insert entry).1 := by
  rw [insert] at indexed ⊢
  split
  · rename_i index rest free
    obtain ⟨slot, found, -⟩ := arranged.mem_free.1 (free ▸ List.mem_cons_self)
    simp only [found, Option.map_some, Option.getD_some]
    exact takes_insert_reuse arranged entry free found
      (numbered.freed_lt slot (List.mem_of_getElem? found))
  · rename_i full
    have within : store.arena.length < wordCount := by
      simp only [full, Indexed, List.length_append, List.length_singleton] at indexed
      exact indexed
    have issued : FileId.issued ⟨store.arena.length, 0⟩ = ⟨store.arena.length, 0⟩ :=
      FileId.issued_of_lt within
    rw [issued]
    exact takes_insert_append arranged entry full

/-- Creating a file that is not linked yet makes an entry. -/
theorem takes_create {handle : FileHandle} (arranged : store.Arranged) (numbered : store.Numbered)
    (indexed : (store.create name owner).1.Indexed) (unlinked : store.linked? name = none)
    (gives : (store.create name owner).2.handle? = some handle) :
    Takes store handle.id (store.create name owner).1 := by
  rw [create, unlinked] at gives indexed ⊢
  by_cases noRoom : store.capacity ≤ store.live
  · simp only [if_pos noRoom, Creation.handle?] at gives
    cases gives
  · simp only [if_neg noRoom, Creation.handle?, Option.some.injEq] at gives indexed ⊢
    cases gives
    have taken := takes_insert arranged numbered ⟨name, store.data.length, 1, false⟩ indexed
    exact ⟨taken.unissued, taken.hasIssued_iff, taken.stale⟩

end FileStore

end SyscallKernel
