import SyscallKernel.File.Store

/-!
# The arena of the file store

A reference designates an entry only while the slot has its generation, so at most
one reference per slot is live. Each primitive of the arena is described by what
every reference designates afterwards. References lead to slots by their true numbers
here; whether the reference that is issued for a slot has that number as well depends on
there being an index of 32 bits for every slot.
-/

namespace SyscallKernel

/-- A slot keeps its generation while its entry changes. -/
@[simp] theorem Slot.generation_mk (slot : Slot) (entry : Option FileEntry) :
    (Slot.mk slot.freed entry).generation = slot.generation := rfl

/-- A new slot has the generation zero. -/
@[simp] theorem Slot.generation_new (entry : Option FileEntry) :
    (Slot.mk 0 entry).generation = 0 := rfl

/-- A reference to a slot with an index of 32 bits is issued as it is. -/
theorem FileId.issued_of_lt {id : FileId} (within : id.index < wordCount) : id.issued = id := by
  rw [issued, Nat.mod_eq_of_lt within]

namespace FileStore

variable {store store' : FileStore} {id : FileId} {entry : FileEntry}

theorem entry?_eq_some_iff :
    store.entry? id = some entry ↔ ∃ slot, store.arena[id.index]? = some slot ∧
      slot.generation = id.generation ∧ slot.entry = some entry := by
  unfold entry?
  cases store.arena[id.index]? with
  | none => simp only [reduceCtorEq, false_and, exists_false]
  | some slot =>
    simp only [Option.some.injEq, exists_eq_left']
    split
    · rename_i same
      simp only [same, true_and]
    · rename_i other
      simp only [reduceCtorEq, other, false_and]

theorem slotEntry?_eq_some_iff {index : Nat} :
    store.slotEntry? index = some (id, entry) ↔
      id.index = index ∧ store.entry? id = some entry := by
  rw [entry?_eq_some_iff, slotEntry?]
  constructor
  · intro taken
    split at taken
    · cases taken
    · rename_i slot found
      obtain ⟨entry', held, same⟩ := Option.map_eq_some_iff.1 taken
      cases same
      exact ⟨rfl, slot, found, rfl, held⟩
  · rintro ⟨rfl, slot, found, generation, held⟩
    simp only [found, held, Option.map_some, generation]

/-- Live references to the same slot are the same. -/
theorem eq_of_index_eq {other : FileId} {entry' : FileEntry} (live : store.entry? id = some entry)
    (live' : store.entry? other = some entry') (same : id.index = other.index) : id = other := by
  obtain ⟨slot, found, generation, _⟩ := entry?_eq_some_iff.1 live
  obtain ⟨slot', found', generation', _⟩ := entry?_eq_some_iff.1 live'
  rw [same, found'] at found
  cases found
  cases id
  cases other
  simp only [FileId.mk.injEq] at same generation generation' ⊢
  exact ⟨same, generation ▸ generation'⟩

/-- The references that designate an entry, in slot order. -/
def liveIds (store : FileStore) : List FileId :=
  (List.range store.arena.length).filterMap fun index => (store.slotEntry? index).map Prod.fst

theorem mem_liveIds : id ∈ store.liveIds ↔ store.entry? id ≠ none := by
  rw [liveIds, List.mem_filterMap, Option.ne_none_iff_exists']
  constructor
  · rintro ⟨index, _, taken⟩
    obtain ⟨⟨id', entry⟩, found, rfl⟩ := Option.map_eq_some_iff.1 taken
    exact ⟨entry, (slotEntry?_eq_some_iff.1 found).2⟩
  · rintro ⟨entry, live⟩
    obtain ⟨slot, found, _⟩ := entry?_eq_some_iff.1 live
    obtain ⟨within, _⟩ := List.getElem?_eq_some_iff.1 found
    refine ⟨id.index, List.mem_range.2 within, ?_⟩
    rw [slotEntry?_eq_some_iff.2 ⟨rfl, live⟩, Option.map_some]

theorem nodup_liveIds (store : FileStore) : store.liveIds.Nodup := by
  refine List.Pairwise.filterMap _ ?_ List.nodup_range
  intro first second apart id taken id' taken'
  obtain ⟨⟨_, entry⟩, found, rfl⟩ := Option.map_eq_some_iff.1 taken
  obtain ⟨⟨_, entry'⟩, found', rfl⟩ := Option.map_eq_some_iff.1 taken'
  intro equal
  subst equal
  exact apart ((slotEntry?_eq_some_iff.1 found).1.symm.trans (slotEntry?_eq_some_iff.1 found').1)

/-- The slots of the live entries are different. -/
theorem nodup_liveIds_index (store : FileStore) : (store.liveIds.map FileId.index).Nodup := by
  refine List.pairwise_map.2 ((nodup_liveIds store).imp_of_mem ?_)
  intro first second member member' apart same
  obtain ⟨entry, live⟩ := Option.ne_none_iff_exists'.1 (mem_liveIds.1 member)
  obtain ⟨entry', live'⟩ := Option.ne_none_iff_exists'.1 (mem_liveIds.1 member')
  exact apart (eq_of_index_eq live live' same)

/-- The number of live references grows with an entry and shrinks without one. -/
theorem length_liveIds {new : Option FileEntry}
    (lookup : ∀ other, store'.entry? other = if other = id then new else store.entry? other) :
    store'.liveIds.length + (store.entry? id).toList.length =
      store.liveIds.length + new.toList.length := by
  -- With the reference itself set apart on both sides, the same references are live.
  have balance : (store'.liveIds ++ (store.entry? id).toList.map fun _ => id).Perm
      (store.liveIds ++ new.toList.map fun _ => id) := by
    rw [List.perm_iff_count]
    intro other
    rw [List.count_append, List.count_append, (nodup_liveIds _).count, (nodup_liveIds _).count]
    simp only [mem_liveIds, lookup]
    by_cases same : other = id
    · subst same
      cases store.entry? other with
      | none => cases new <;> simp
      | some entry => cases new <;> simp
    · have absent : ∀ slot : Option FileEntry,
          List.count other (slot.toList.map fun _ => id) = 0 := by
        intro slot
        rw [List.count_eq_zero, List.mem_map]
        intro listed
        obtain ⟨_, _, own⟩ := listed
        exact same own.symm
      simp only [same, if_false, absent]
  have lengths := balance.length_eq
  rw [List.length_append, List.length_append, List.length_map, List.length_map] at lengths
  exact lengths

/-- The arena in order: the live entries are counted, and the free list holds the
empty slots. -/
structure Arranged (store : FileStore) : Prop where
  /-- The count is the number of live references. -/
  live_eq : store.live = store.liveIds.length
  /-- No slot is listed twice. -/
  free_nodup : store.free.Nodup
  /-- Exactly the empty slots are listed. -/
  mem_free : ∀ {index : Nat}, index ∈ store.free ↔
    ∃ slot, store.arena[index]? = some slot ∧ slot.entry = none

theorem arranged_empty (capacity : Nat) : (empty capacity).Arranged where
  live_eq := rfl
  free_nodup := List.nodup_nil
  mem_free := by
    intro index
    simp only [empty, List.not_mem_nil, List.getElem?_nil, reduceCtorEq, false_and, exists_false]

/-- Every slot of the first store was freed at least as often in the second. -/
def Older (store store' : FileStore) : Prop :=
  ∀ (index : Nat) (slot : Slot), store.arena[index]? = some slot →
    ∃ slot' : Slot, store'.arena[index]? = some slot' ∧ slot.freed ≤ slot'.freed

theorem Older.refl (store : FileStore) : Older store store :=
  fun _ slot found => ⟨slot, found, Nat.le_refl slot.freed⟩

theorem Older.trans {middle : FileStore} (first : Older store middle)
    (second : Older middle store') : Older store store' := by
  intro index slot found
  obtain ⟨_, found', least⟩ := first index slot found
  obtain ⟨_, found'', more⟩ := second index _ found'
  exact ⟨_, found'', Nat.le_trans least more⟩

/-- Slots grow older where one of them changes and does not grow younger. -/
theorem older_of_modify {index : Nat} {change : Slot → Slot}
    (changed : store'.arena = store.arena.modify index change)
    (least : ∀ slot, slot.freed ≤ (change slot).freed) : Older store store' := by
  intro other slot found
  rw [changed, List.getElem?_modify, found]
  split
  · exact ⟨_, rfl, least slot⟩
  · exact ⟨_, rfl, Nat.le_refl _⟩

/-- What an operation does that touches one slot: one reference designates something
else, and the names are `names` now. -/
structure Change (store : FileStore) (id : FileId) (new : Option FileEntry)
    (names : List (FileName × Nat)) (store' : FileStore) : Prop where
  /-- No other live reference leads to the slot. -/
  alone : ∀ {other : FileId} {entry : FileEntry}, store.entry? other = some entry →
    other.index = id.index → other = id
  /-- No other reference is affected. -/
  entry?_eq : ∀ other, store'.entry? other = if other = id then new else store.entry? other
  /-- The arena stays in order. -/
  arranged : store'.Arranged
  /-- The names afterwards. -/
  names : store'.names = names
  /-- The capacity stays. -/
  capacity : store'.capacity = store.capacity
  /-- A slot is made only where every slot is taken. -/
  length_arena : store'.arena.length = store.arena.length ∨
    store'.arena.length = store.arena.length + 1 ∧ store'.live = store'.arena.length
  /-- No slot was freed less often than before. -/
  older : Older store store'

/-- A change counts the live entries anew. -/
theorem Change.live_eq {new : Option FileEntry} {names : List (FileName × Nat)}
    (change : Change store id new names store') (arranged : store.Arranged) :
    store'.live + (store.entry? id).toList.length = store.live + new.toList.length := by
  rw [change.arranged.live_eq, arranged.live_eq]
  exact length_liveIds change.entry?_eq

/-- A reference to the slot of a live one, but not this one, is stale. -/
theorem entry?_eq_none_of_index_eq {other : FileId} (live : store.entry? id = some entry)
    (sameSlot : other.index = id.index) (apart : other ≠ id) : store.entry? other = none := by
  cases found : store.entry? other with
  | none => rfl
  | some entry' => exact absurd (eq_of_index_eq found live sameSlot) apart

/-- Changing one slot affects the references to this slot only. -/
theorem entry?_of_modify {index : Nat} {slot : Slot} (found : store.arena[index]? = some slot)
    {change : Slot → Slot} (changed : store'.arena = store.arena.modify index change)
    (other : FileId) :
    store'.entry? other =
      if other.index = index then
        if (change slot).generation = other.generation then (change slot).entry else none
      else store.entry? other := by
  simp only [changed, entry?, List.getElem?_modify]
  by_cases same : index = other.index
  · rw [← same, found]
    simp only [if_true, Option.map_eq_map, Option.map_some]
  · have apart : ¬ other.index = index := fun equal => same equal.symm
    simp only [same, apart, if_false, Option.map_eq_map, Option.map_id']

/-- Changing the entry of a live reference changes what that reference designates only. -/
theorem entry?_modifyEntry (live : store.entry? id = some entry) (change : FileEntry → FileEntry)
    (other : FileId) :
    FileStore.entry? (store.modifyEntry id.index change) other =
      if other = id then some (change entry) else store.entry? other := by
  obtain ⟨slot, found, generation, held⟩ := entry?_eq_some_iff.1 live
  rw [entry?_of_modify found rfl]
  by_cases own : other = id
  · subst own
    simp only [if_true, Slot.generation_mk, generation, held, Option.map_some]
  · simp only [own, if_false]
    split
    · rename_i sameSlot
      rw [if_neg, entry?_eq_none_of_index_eq live sameSlot own]
      intro sameGeneration
      rw [Slot.generation_mk] at sameGeneration
      apply own
      cases id
      cases other
      simp only [FileId.mk.injEq] at sameSlot generation sameGeneration ⊢
      exact ⟨sameSlot, (generation ▸ sameGeneration).symm⟩
    · rfl

/-- The entry of a live reference can be changed. -/
theorem change_modifyEntry (arranged : store.Arranged) (live : store.entry? id = some entry)
    (change : FileEntry → FileEntry) :
    Change store id (some (change entry)) store.names (store.modifyEntry id.index change) := by
  have lookup := entry?_modifyEntry live change
  refine ⟨fun live' same => eq_of_index_eq live' live same, lookup,
    ⟨?_, arranged.free_nodup, ?_⟩, rfl, rfl, .inl (List.length_modify ..),
    older_of_modify rfl ?_⟩
  · have count := length_liveIds lookup
    rw [live] at count
    have live_eq := arranged.live_eq
    simp only [Option.toList_some, List.length_singleton] at count
    simp only [modifyEntry] at count ⊢
    omega
  · intro index
    simp only [modifyEntry, List.getElem?_modify, Option.map_eq_map, arranged.mem_free]
    cases store.arena[index]? with
    | none => simp only [Option.map_none]
    | some slot' =>
      simp only [Option.map_some, Option.some.injEq, exists_eq_left']
      split
      · simp only [Option.map_eq_none_iff]
      · exact Iff.rfl
  · exact fun slot => Nat.le_refl slot.freed

/-- One more entry is live after one was added. -/
theorem Arranged.live_succ (arranged : store.Arranged) (unused : store.entry? id = none)
    (lookup : ∀ other,
      store'.entry? other = if other = id then some entry else store.entry? other) :
    store.live + 1 = store'.liveIds.length := by
  have count := length_liveIds lookup
  have live_eq := arranged.live_eq
  rw [unused] at count
  simp only [Option.toList_none, List.length_nil, Option.toList_some,
    List.length_singleton] at count
  omega

/-- No live reference leads to an empty slot. -/
theorem Arranged.index_ne_of_free (arranged : store.Arranged) {index : Nat}
    (listed : index ∈ store.free) {other : FileId} {entry : FileEntry}
    (live : store.entry? other = some entry) : other.index ≠ index := by
  obtain ⟨slot, found, vacant⟩ := arranged.mem_free.1 listed
  obtain ⟨slot', found', _, held⟩ := entry?_eq_some_iff.1 live
  intro same
  rw [same, found, Option.some.injEq] at found'
  rw [← found', vacant] at held
  cases held

/-- No live reference leads past the end of the arena. -/
theorem index_ne_length {other : FileId} {entry : FileEntry}
    (live : store.entry? other = some entry) : other.index ≠ store.arena.length := by
  obtain ⟨slot, found, _⟩ := entry?_eq_some_iff.1 live
  obtain ⟨within, _⟩ := List.getElem?_eq_some_iff.1 found
  omega

/-- Every slot holds a live entry or is listed as empty. -/
theorem Arranged.length_arena (arranged : store.Arranged) :
    store.arena.length = store.live + store.free.length := by
  have apart : ∀ index ∈ store.liveIds.map FileId.index, ∀ empty ∈ store.free, index ≠ empty := by
    intro index taken empty listed
    obtain ⟨id, member, rfl⟩ := List.mem_map.1 taken
    obtain ⟨entry, live⟩ := Option.ne_none_iff_exists'.1 (mem_liveIds.1 member)
    exact arranged.index_ne_of_free listed live
  have distinct : (store.liveIds.map FileId.index ++ store.free).Nodup :=
    List.nodup_append.2 ⟨store.nodup_liveIds_index, arranged.free_nodup, apart⟩
  have all : (store.liveIds.map FileId.index ++ store.free).Perm
      (List.range store.arena.length) := by
    rw [List.perm_ext_iff_of_nodup distinct List.nodup_range]
    intro index
    rw [List.mem_append, List.mem_range, List.mem_map, arranged.mem_free]
    constructor
    · rintro (⟨id, member, rfl⟩ | ⟨slot, found, -⟩)
      · obtain ⟨entry, live⟩ := Option.ne_none_iff_exists'.1 (mem_liveIds.1 member)
        obtain ⟨slot, found, -⟩ := entry?_eq_some_iff.1 live
        exact (List.getElem?_eq_some_iff.1 found).1
      · exact (List.getElem?_eq_some_iff.1 found).1
    · intro within
      obtain ⟨slot, found⟩ : ∃ slot, store.arena[index]? = some slot :=
        ⟨_, List.getElem?_eq_getElem within⟩
      cases held : slot.entry with
      | none => exact .inr ⟨slot, found, held⟩
      | some entry =>
        have live : store.entry? ⟨index, slot.generation⟩ = some entry :=
          entry?_eq_some_iff.2 ⟨slot, found, rfl, held⟩
        refine .inl ⟨⟨index, slot.generation⟩, mem_liveIds.2 ?_, rfl⟩
        rw [live]
        exact Option.some_ne_none entry
  have lengths := all.length_eq
  rw [List.length_append, List.length_map, ← arranged.live_eq, List.length_range] at lengths
  exact lengths.symm

/-- A reference is stale if no live one leads to its slot. -/
theorem entry?_eq_none_of_unused
    (unused : ∀ {other : FileId} {entry : FileEntry}, store.entry? other = some entry →
      other.index ≠ id.index) : store.entry? id = none := by
  cases live : store.entry? id with
  | none => rfl
  | some entry => exact absurd rfl (unused live)

/-- A new entry can be put into an empty slot. -/
theorem change_insert_reuse (arranged : store.Arranged) (entry : FileEntry) {index : Nat}
    {rest : List Nat} (free : store.free = index :: rest) {slot : Slot}
    (found : store.arena[index]? = some slot) :
    store.entry? ⟨index, slot.generation⟩ = none ∧
    Change store ⟨index, slot.generation⟩ (some entry) store.names
      { store with
        arena := store.arena.modify index fun slot => { slot with entry := some entry }
        free := rest
        live := store.live + 1 } := by
  have unused : ∀ {other : FileId} {entry' : FileEntry}, store.entry? other = some entry' →
      other.index ≠ index := arranged.index_ne_of_free (free ▸ List.mem_cons_self)
  have stale : store.entry? ⟨index, slot.generation⟩ = none := entry?_eq_none_of_unused unused
  have lookup : ∀ other, FileStore.entry? { store with
      arena := store.arena.modify index fun slot => { slot with entry := some entry }
      free := rest
      live := store.live + 1 } other =
      if other = ⟨index, slot.generation⟩ then some entry else store.entry? other := by
    intro other
    rw [entry?_of_modify found rfl]
    obtain ⟨index', generation'⟩ := other
    simp only [FileId.mk.injEq]
    by_cases sameSlot : index' = index
    · simp only [sameSlot, if_true, true_and, Slot.generation_mk, eq_comm]
      split
      · rfl
      · exact (entry?_eq_none_of_unused unused).symm
    · simp only [sameSlot, if_false, false_and]
  obtain ⟨notListed, distinct⟩ := List.nodup_cons.1 (free ▸ arranged.free_nodup)
  refine ⟨stale, fun live same => absurd same (unused live), lookup,
    ⟨arranged.live_succ stale lookup, distinct, ?_⟩, rfl, rfl, .inl (List.length_modify ..),
    older_of_modify rfl ?_⟩
  · intro other
    have listed : other ∈ store.free ↔
        ∃ slot, store.arena[other]? = some slot ∧ slot.entry = none := arranged.mem_free
    rw [free, List.mem_cons] at listed
    rw [List.getElem?_modify]
    by_cases same : index = other
    · subst same
      simp only [notListed, if_true, found, Option.map_eq_map, Option.map_some, Option.some.injEq,
        exists_eq_left', reduceCtorEq]
    · have apart : other ≠ index := fun equal => same equal.symm
      simp only [apart, false_or] at listed
      simp only [same, if_false, Option.map_eq_map, Option.map_id']
      exact listed
  · exact fun slot => Nat.le_refl slot.freed

/-- A new entry can be put into a new slot. -/
theorem change_insert_append (arranged : store.Arranged) (entry : FileEntry)
    (full : store.free = []) :
    store.entry? ⟨store.arena.length, 0⟩ = none ∧
    Change store ⟨store.arena.length, 0⟩ (some entry) store.names
      { store with
        arena := store.arena ++ [⟨0, some entry⟩]
        live := store.live + 1 } := by
  have stale : store.entry? ⟨store.arena.length, 0⟩ = none :=
    entry?_eq_none_of_unused index_ne_length
  have lookup : ∀ other, FileStore.entry? { store with
      arena := store.arena ++ [⟨0, some entry⟩]
      live := store.live + 1 } other =
      if other = ⟨store.arena.length, 0⟩ then some entry else store.entry? other := by
    intro other
    obtain ⟨index', generation'⟩ := other
    simp only [FileId.mk.injEq]
    by_cases new : index' = store.arena.length
    · subst new
      simp only [List.getElem?_concat_length, entry?, true_and, Slot.generation_new, eq_comm,
        List.getElem?_eq_none (Nat.le_refl _)]
    · have kept : (store.arena ++ [⟨0, some entry⟩])[index']? = store.arena[index']? := by
        rw [List.getElem?_append]
        split
        · rfl
        · have beyond : store.arena.length < index' := by omega
          rw [List.getElem?_eq_none (Nat.le_of_lt beyond), List.getElem?_eq_none]
          rw [List.length_singleton]
          omega
      simp only [new, false_and, if_false, entry?, kept]
  refine ⟨stale, fun live same => absurd same (index_ne_length live), lookup,
    ⟨arranged.live_succ stale lookup, arranged.free_nodup, ?_⟩, rfl, rfl, .inr ?_,
    fun index slot found => ⟨slot, ?_, Nat.le_refl slot.freed⟩⟩
  · intro other
    rw [arranged.mem_free, List.getElem?_append]
    split
    · exact Iff.rfl
    · rename_i beyond
      have past : store.arena[other]? = none := List.getElem?_eq_none (Nat.le_of_not_lt beyond)
      simp only [past, reduceCtorEq, false_and, exists_false, false_iff]
      intro vacancy
      obtain ⟨slot, found, vacant⟩ := vacancy
      rw [List.getElem?_singleton] at found
      split at found
      · cases found
        cases vacant
      · cases found
  · have slots := arranged.length_arena
    rw [full, List.length_nil] at slots
    rw [List.length_append, List.length_singleton]
    exact ⟨rfl, congrArg (· + 1) slots.symm⟩
  · rw [List.getElem?_append_left (List.getElem?_eq_some_iff.1 found).1]
    exact found

/-- A new entry goes into a slot to which no live reference leads, and the reference that is
issued for it leads there if the slot has an index of 32 bits. -/
theorem change_insert (arranged : store.Arranged) (entry : FileEntry) :
    ∃ id, store.entry? id = none ∧ (id.index < wordCount → (store.insert entry).2 = id) ∧
      Change store id (some entry) store.names (store.insert entry).1 := by
  rw [insert]
  split
  · rename_i index rest free
    obtain ⟨slot, found, _⟩ := arranged.mem_free.1 (free ▸ List.mem_cons_self)
    obtain ⟨fresh, change⟩ := change_insert_reuse arranged entry free found
    simp only [found, Option.map_some, Option.getD_some]
    exact ⟨_, fresh, fun _ => rfl, change⟩
  · rename_i full
    obtain ⟨fresh, change⟩ := change_insert_append arranged entry full
    exact ⟨_, fresh, FileId.issued_of_lt, change⟩

/-- The entry of a live reference can be taken away. -/
theorem change_vacate (arranged : store.Arranged) (live : store.entry? id = some entry) :
    Change store id none store.names (store.vacate id.index) := by
  obtain ⟨slot, found, generation, held⟩ := entry?_eq_some_iff.1 live
  have lookup : ∀ other, FileStore.entry? (store.vacate id.index) other =
      if other = id then none else store.entry? other := by
    intro other
    rw [vacate, slotEntry?_eq_some_iff.2 ⟨rfl, live⟩, entry?_of_modify found rfl]
    by_cases own : other = id
    · simp only [own, if_true, ite_self]
    · simp only [own, if_false, ite_self]
      split
      · rename_i sameSlot
        rw [entry?_eq_none_of_index_eq live sameSlot own]
      · rfl
  refine ⟨fun live' same => eq_of_index_eq live' live same, lookup, ⟨?_, ?_, ?_⟩, ?_, ?_,
    .inl ?_, ?_⟩
  · have count := length_liveIds lookup
    rw [live] at count
    have live_eq := arranged.live_eq
    simp only [Option.toList_some, List.length_singleton, Option.toList_none,
      List.length_nil] at count
    rw [vacate, slotEntry?_eq_some_iff.2 ⟨rfl, live⟩] at count ⊢
    simp only at count ⊢
    omega
  · rw [vacate, slotEntry?_eq_some_iff.2 ⟨rfl, live⟩]
    refine List.nodup_cons.2 ⟨?_, arranged.free_nodup⟩
    rw [arranged.mem_free]
    rintro ⟨slot', found', vacant⟩
    rw [found] at found'
    cases found'
    rw [held] at vacant
    cases vacant
  · intro index
    rw [vacate, slotEntry?_eq_some_iff.2 ⟨rfl, live⟩]
    simp only [List.mem_cons, arranged.mem_free, List.getElem?_modify, Option.map_eq_map]
    by_cases same : id.index = index
    · subst same
      simp only [true_or, if_true, found, Option.map_some, Option.some.injEq, exists_eq_left']
    · have apart : ¬ index = id.index := fun equal => same equal.symm
      simp only [same, apart, if_false, false_or, Option.map_id']
  · rw [vacate, slotEntry?_eq_some_iff.2 ⟨rfl, live⟩]
  · rw [vacate, slotEntry?_eq_some_iff.2 ⟨rfl, live⟩]
  · rw [vacate, slotEntry?_eq_some_iff.2 ⟨rfl, live⟩]
    exact List.length_modify ..
  · rw [vacate, slotEntry?_eq_some_iff.2 ⟨rfl, live⟩]
    exact older_of_modify rfl fun slot => Nat.le_succ slot.freed

end FileStore

end SyscallKernel
