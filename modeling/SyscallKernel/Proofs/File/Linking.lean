import SyscallKernel.Proofs.File.Arena

/-!
# Names and entries of the file store

The name index and the entries tell the same story: a name is linked exactly when a
live entry has it and was not unlinked, and an unlinked entry has an open handle.
That is so as long as every slot has an index of 32 bits; what does not depend on it
is stated apart. For each operation it is stated once which change it makes.
-/

namespace SyscallKernel.FileStore

variable {store store' : FileStore} {id : FileId} {entry : FileEntry}

/-- What holds of every file store between two operations, however many slots it has. -/
structure Regular (store : FileStore) : Prop where
  /-- The arena is in order. -/
  arranged : store.Arranged
  /-- The capacity is kept. -/
  live_le : store.live ≤ store.capacity
  /-- The contents that an entry shares are there. -/
  data_lt : ∀ {id : FileId} {entry : FileEntry}, store.entry? id = some entry →
    entry.data < store.data.length
  /-- No two entries share the same contents. -/
  data_inj : ∀ {id other : FileId} {entry entry' : FileEntry}, store.entry? id = some entry →
    store.entry? other = some entry' → entry.data = entry'.data → id = other

theorem regular_empty (capacity : Nat) : (empty capacity).Regular where
  arranged := arranged_empty capacity
  live_le := Nat.zero_le _
  data_lt live := nomatch live
  data_inj live := nomatch live

/-- Every slot has an index of 32 bits. -/
def Indexed (store : FileStore) : Prop := store.arena.length ≤ wordCount

/-- Every slot has an index of 32 bits, and the generation of none has gone round. -/
structure Numbered (store : FileStore) : Prop where
  /-- Every slot has an index. -/
  indexed : store.Indexed
  /-- No generation has gone round. -/
  freed_lt : ∀ slot ∈ store.arena, slot.freed < wordCount

/-- No number had gone round earlier if none has gone round later. -/
theorem Older.numbered_of_numbered (older : Older store store') (numbered : store'.Numbered)
    (slots : store.arena.length ≤ store'.arena.length) : store.Numbered where
  indexed := Nat.le_trans slots numbered.indexed
  freed_lt slot member := by
    obtain ⟨index, found⟩ := List.mem_iff_getElem?.1 member
    obtain ⟨slot', found', least⟩ := older index slot found
    exact Nat.lt_of_le_of_lt least (numbered.freed_lt slot' (List.mem_of_getElem? found'))

/-- What holds of every file store between two operations while its slots have indices. -/
structure WellFormed (store : FileStore) : Prop extends Regular store where
  /-- Every slot has an index. -/
  indexed : store.Indexed
  /-- No name is listed twice. -/
  names_nodup : (store.names.map Prod.fst).Nodup
  /-- The names lead to the entries that were not unlinked. -/
  mem_names : ∀ {name : FileName} {index : Nat}, (name, index) ∈ store.names ↔
    ∃ id entry, store.entry? id = some entry ∧ id.index = index ∧ entry.name = name ∧
      entry.unlinked = false
  /-- An unlinked entry lives for its open handles only. -/
  held : ∀ {id : FileId} {entry : FileEntry}, store.entry? id = some entry →
    entry.unlinked = true → 0 < entry.openCount

theorem wellFormed_empty (capacity : Nat) : (empty capacity).WellFormed where
  toRegular := regular_empty capacity
  indexed := Nat.zero_le _
  names_nodup := List.nodup_nil
  mem_names := by
    intro name index
    simp only [empty, List.not_mem_nil, entry?, List.getElem?_nil, reduceCtorEq, false_and,
      exists_false]
  held live := nomatch live

/-- A list of pairs with distinct keys is looked up by membership. -/
theorem lookup_eq_some_iff_mem {names : List (FileName × Nat)}
    (distinct : (names.map Prod.fst).Nodup) {name : FileName} {index : Nat} :
    names.lookup name = some index ↔ (name, index) ∈ names := by
  induction names with
  | nil => simp only [List.lookup_nil, reduceCtorEq, List.not_mem_nil]
  | cons first rest ih =>
    obtain ⟨key, value⟩ := first
    obtain ⟨absent, distinct⟩ := List.nodup_cons.1 distinct
    rw [List.lookup_cons, List.mem_cons, Prod.mk.injEq]
    by_cases same : name = key
    · have notLater : (name, index) ∉ rest := by
        intro member
        have key' : name ∈ rest.map Prod.fst := List.mem_map.2 ⟨(name, index), member, rfl⟩
        exact absent (same ▸ key')
      simp only [same, beq_self_eq_true, Option.some.injEq, true_and, eq_comm]
      rw [same] at notLater
      simp only [notLater, or_false]
    · simp only [beq_eq_false_iff_ne.2 same, same, false_and, false_or, ih distinct]

namespace WellFormed

theorem indexOf?_eq_some_iff (wellFormed : store.WellFormed) {name : FileName} {index : Nat} :
    store.indexOf? name = some index ↔ (name, index) ∈ store.names :=
  lookup_eq_some_iff_mem wellFormed.names_nodup

/-- The linked entry of a name is the live entry that has it and was not unlinked. -/
theorem linked?_eq_some_iff (wellFormed : store.WellFormed) {name : FileName} :
    store.linked? name = some (id, entry) ↔
      store.entry? id = some entry ∧ entry.name = name ∧ entry.unlinked = false := by
  rw [linked?, Option.bind_eq_some_iff]
  constructor
  · rintro ⟨index, listed, taken⟩
    obtain ⟨rfl, live⟩ := slotEntry?_eq_some_iff.1 taken
    rw [wellFormed.indexOf?_eq_some_iff, wellFormed.mem_names] at listed
    obtain ⟨id', entry', live', sameSlot, facts⟩ := listed
    have same := eq_of_index_eq live' live sameSlot
    subst same
    rw [live] at live'
    cases live'
    exact ⟨live, facts⟩
  · rintro ⟨live, facts⟩
    refine ⟨id.index, ?_, slotEntry?_eq_some_iff.2 ⟨rfl, live⟩⟩
    rw [wellFormed.indexOf?_eq_some_iff, wellFormed.mem_names]
    exact ⟨id, entry, live, rfl, facts⟩

/-- The slot of a live entry is listed under its name, if the entry is linked. -/
theorem mem_names_of_live (wellFormed : store.WellFormed) (live : store.entry? id = some entry)
    {name : FileName} :
    (name, id.index) ∈ store.names ↔ entry.name = name ∧ entry.unlinked = false := by
  rw [wellFormed.mem_names]
  constructor
  · intro listed
    obtain ⟨other, entry', live', sameSlot, facts⟩ := listed
    have same := eq_of_index_eq live' live sameSlot
    rw [same, live, Option.some.injEq] at live'
    rw [live']
    exact facts
  · intro facts
    exact ⟨id, entry, live, rfl, facts⟩

/-- Every listed name leads to an entry. -/
theorem linked?_eq_none_iff (wellFormed : store.WellFormed) {name : FileName} :
    store.linked? name = none ↔ store.indexOf? name = none := by
  rw [linked?]
  cases listed : store.indexOf? name with
  | none => simp only [Option.bind_none]
  | some index =>
    rw [wellFormed.indexOf?_eq_some_iff, wellFormed.mem_names] at listed
    obtain ⟨id, entry, live, sameSlot, _⟩ := listed
    rw [Option.bind_some, slotEntry?_eq_some_iff.2 ⟨sameSlot, live⟩]
    simp only [reduceCtorEq]

/-- Different names lead to different slots. -/
theorem nodup_names_index (wellFormed : store.WellFormed) :
    (store.names.map Prod.snd).Nodup := by
  have keys : store.names.Pairwise fun first second => first.1 ≠ second.1 :=
    List.pairwise_map.1 wellFormed.names_nodup
  refine List.pairwise_map.2 (keys.imp_of_mem ?_)
  intro first second member member' apart same
  obtain ⟨id, entry, live, sameSlot, name, _⟩ := wellFormed.mem_names.1 member
  obtain ⟨id', entry', live', sameSlot', name', _⟩ := wellFormed.mem_names.1 member'
  have sameId := eq_of_index_eq live live' (by rw [sameSlot, sameSlot', same])
  rw [← sameId, live] at live'
  cases live'
  exact apart (name.symm.trans name')

end WellFormed

namespace Change

variable {new : Option FileEntry} {names : List (FileName × Nat)}

/-- The slot of a new entry has an index if all slots have one. -/
theorem index_lt {entry : FileEntry} (change : Change store id (some entry) names store')
    (indexed : store'.Indexed) : id.index < wordCount := by
  have live := change.entry?_eq id
  rw [if_pos rfl] at live
  obtain ⟨slot, found, -⟩ := entry?_eq_some_iff.1 live
  exact Nat.lt_of_lt_of_le (List.getElem?_eq_some_iff.1 found).1 indexed

/-- No slot is made for an entry that is there already. -/
theorem indexed_of_live (change : Change store id new names store') (arranged : store.Arranged)
    (live : store.entry? id = some entry) (indexed : store.Indexed) : store'.Indexed := by
  have count := change.live_eq arranged
  have atMost : new.toList.length ≤ 1 := by
    cases new
    · exact Nat.zero_le 1
    · exact Nat.le_refl 1
  have slots := arranged.length_arena
  have made := change.length_arena
  rw [live, Option.toList_some, List.length_singleton] at count
  rw [Indexed] at indexed ⊢
  omega

/-- Once every entry has a slot with an index, every slot has one. -/
theorem indexed_of_live_le (change : Change store id new names store') (indexed : store.Indexed)
    (few : store'.live ≤ wordCount) : store'.Indexed := by
  have made := change.length_arena
  rw [Indexed] at indexed ⊢
  omega

/-- A change stays within the capacity if it makes no entry or there is room for one. -/
theorem live_le (change : Change store id new names store') (regular : store.Regular)
    (room : store.entry? id = none → new ≠ none → store.live < store.capacity) :
    store'.live ≤ store'.capacity := by
  have count := change.live_eq regular.arranged
  have bound := regular.live_le
  rw [change.capacity]
  cases old : store.entry? id with
  | none =>
    rw [old] at count
    cases new with
    | none =>
      simp only [Option.toList_none, List.length_nil] at count
      omega
    | some entry =>
      have more := room old (Option.some_ne_none entry)
      simp only [Option.toList_none, List.length_nil, Option.toList_some,
        List.length_singleton] at count
      omega
  | some entry' =>
    rw [old] at count
    have atMost : new.toList.length ≤ 1 := by
      cases new
      · exact Nat.zero_le 1
      · exact Nat.le_refl 1
    rw [Option.toList_some, List.length_singleton] at count
    omega

/-- A change of an entry that is there, if it goes on sharing the same contents. -/
theorem regular_of_live (change : Change store id new names store') (regular : store.Regular)
    (live : store.entry? id = some entry) (shared : ∀ entry', new = some entry' →
      entry'.data = entry.data) (kept : store'.data.length = store.data.length) :
    store'.Regular := by
  -- What is live now was live before and shared the same contents.
  have before : ∀ {other entry'}, store'.entry? other = some entry' →
      ∃ earlier, store.entry? other = some earlier ∧ entry'.data = earlier.data := by
    intro other entry' live'
    rw [change.entry?_eq] at live'
    split at live'
    · rename_i same
      exact ⟨entry, same ▸ live, shared entry' live'⟩
    · exact ⟨entry', live', rfl⟩
  refine ⟨change.arranged, change.live_le regular ?_, ?_, ?_⟩
  · intro dead
    rw [live] at dead
    cases dead
  · intro other entry' live'
    obtain ⟨earlier, live, same⟩ := before live'
    rw [same, kept]
    exact regular.data_lt live
  · intro first second entry' entry'' live' live'' same
    obtain ⟨earlier, firstLive, first⟩ := before live'
    obtain ⟨earlier', secondLive, second⟩ := before live''
    exact regular.data_inj firstLive secondLive (first.symm.trans (same.trans second))

/-- A new entry with contents of its own. -/
theorem regular_of_new {entry : FileEntry} (change : Change store id (some entry) names store')
    (regular : store.Regular) (room : store.live < store.capacity)
    (own : entry.data = store.data.length)
    (grown : store'.data.length = store.data.length + 1) : store'.Regular := by
  have before : ∀ {other entry'}, store'.entry? other = some entry' → other ≠ id →
      store.entry? other = some entry' := by
    intro other entry' live' apart
    rwa [change.entry?_eq, if_neg apart] at live'
  have new : ∀ {entry'}, store'.entry? id = some entry' → entry' = entry := by
    intro entry' live'
    rw [change.entry?_eq, if_pos rfl] at live'
    exact (Option.some.inj live').symm
  refine ⟨change.arranged, change.live_le regular fun _ _ => room, ?_, ?_⟩
  · intro other entry' live'
    by_cases same : other = id
    · subst same
      rw [new live', own, grown]
      exact Nat.lt_succ_self _
    · have within := regular.data_lt (before live' same)
      omega
  · intro first second entry' entry'' live' live'' same
    by_cases firstNew : first = id <;> by_cases secondNew : second = id
    · rw [firstNew, secondNew]
    · subst firstNew
      have within := regular.data_lt (before live'' secondNew)
      rw [new live', own] at same
      omega
    · subst secondNew
      have within := regular.data_lt (before live' firstNew)
      rw [new live'', own] at same
      omega
    · exact regular.data_inj (before live' firstNew) (before live'' secondNew) same

end Change

/-- A change keeps the store well formed if it lists the name of the new entry exactly if it is
linked, and unlinks no entry without handles. -/
theorem Change.wellFormed {new : Option FileEntry} {names : List (FileName × Nat)}
    (change : Change store id new names store') (wellFormed : store.WellFormed)
    (regular : store'.Regular) (indexed : store'.Indexed)
    (distinct : (names.map Prod.fst).Nodup)
    (listed : ∀ name index, (name, index) ∈ names ↔
      if index = id.index then ∃ entry, new = some entry ∧ entry.name = name ∧ entry.unlinked = false
      else (name, index) ∈ store.names)
    (held : ∀ entry, new = some entry → entry.unlinked = true → 0 < entry.openCount) :
    store'.WellFormed where
  toRegular := regular
  indexed := indexed
  names_nodup := by
    rw [change.names]
    exact distinct
  mem_names := by
    intro name index
    rw [change.names, listed]
    split
    · rename_i sameSlot
      subst sameSlot
      constructor
      · rintro ⟨entry, rfl, facts⟩
        refine ⟨id, entry, ?_, rfl, facts⟩
        rw [change.entry?_eq, if_pos rfl]
      · rintro ⟨other, entry, live, sameSlot, facts⟩
        rw [change.entry?_eq] at live
        split at live
        · exact ⟨entry, live, facts⟩
        · exact absurd (change.alone live sameSlot) ‹_›
    · rename_i otherSlot
      rw [wellFormed.mem_names]
      constructor
      · rintro ⟨other, entry, live, sameSlot, facts⟩
        refine ⟨other, entry, ?_, sameSlot, facts⟩
        rw [change.entry?_eq, if_neg]
        · exact live
        · intro equal
          subst equal
          exact otherSlot sameSlot.symm
      · rintro ⟨other, entry, live, sameSlot, facts⟩
        rw [change.entry?_eq, if_neg] at live
        · exact ⟨other, entry, live, sameSlot, facts⟩
        · intro equal
          subst equal
          exact otherSlot sameSlot.symm
  held := by
    intro other entry live unlinked
    rw [change.entry?_eq] at live
    split at live
    · exact held entry live unlinked
    · exact wellFormed.held live unlinked

/-- A change of a live entry that keeps its name and whether it is linked. -/
theorem Change.wellFormed_of_same_link {new : FileEntry}
    (change : Change store id (some new) store.names store') (wellFormed : store.WellFormed)
    (regular : store'.Regular) (live : store.entry? id = some entry)
    (name : new.name = entry.name) (unlinked : new.unlinked = entry.unlinked)
    (held : new.unlinked = true → 0 < new.openCount) : store'.WellFormed := by
  refine change.wellFormed wellFormed regular
    (change.indexed_of_live wellFormed.arranged live wellFormed.indexed) wellFormed.names_nodup
    ?_ ?_
  · intro name' index
    split
    · rename_i sameSlot
      rw [sameSlot, wellFormed.mem_names_of_live live]
      simp only [Option.some.injEq, exists_eq_left', name, unlinked]
    · exact Iff.rfl
  · intro entry' same
    cases same
    exact held

end SyscallKernel.FileStore
