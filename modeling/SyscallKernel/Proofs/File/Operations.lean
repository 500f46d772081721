import SyscallKernel.Proofs.File.Linking

/-!
# What the operations of the file store do

Each operation either leaves the store alone or makes one change. The possibilities
are listed here for every operation, with the conditions that decide among them.
-/

namespace SyscallKernel.FileStore

variable {store store' : FileStore}

/-- The names without one of them. -/
def namesWithout (store : FileStore) (name : FileName) : List (FileName × Nat) :=
  store.names.filter fun link => link.1 ≠ name

/-- What creating a file can do. -/
inductive Creating (store : FileStore) (name : FileName) (owner : Pid) :
    FileStore → Creation → Prop where
  /-- A linked file is emptied. -/
  | truncated {id : FileId} {entry : FileEntry} {store' : FileStore}
    (linked : store.linked? name = some (id, entry))
    (change : Change store id
      (some { entry with openCount := (entry.openCount + 1) % wordCount }) store.names store')
    (data : store'.data = store.data.set entry.data []) :
    Creating store name owner store'
      (.truncated (.atStart id entry.data owner) ((entry.openCount + 1) % wordCount))
  /-- A new file is made. -/
  | created {id issued : FileId} {store' : FileStore} (unlinked : store.linked? name = none)
    (room : store.live < store.capacity) (fresh : store.entry? id = none)
    (issued_eq : id.index < wordCount → issued = id)
    (change : Change store id (some ⟨name, store.data.length, 1, false⟩)
      ((name, issued.index) :: store.names) store')
    (data : store'.data = store.data ++ [[]]) :
    Creating store name owner store' (.created (.atStart issued store.data.length owner))
  /-- There is no room for a new file. -/
  | full (unlinked : store.linked? name = none) (noRoom : store.capacity ≤ store.live) :
    Creating store name owner store .full

/-- What opening a file can do. -/
inductive Opening (store : FileStore) (name : FileName) (owner : Pid) :
    Option (FileStore × FileHandle) → Prop where
  /-- The name is not linked. -/
  | missing (unlinked : store.linked? name = none) : Opening store name owner none
  /-- A linked file has one handle more. -/
  | opened {id : FileId} {entry : FileEntry} {store' : FileStore}
    (linked : store.linked? name = some (id, entry))
    (change : Change store id
      (some { entry with openCount := (entry.openCount + 1) % wordCount }) store.names store')
    (data : store'.data = store.data) :
    Opening store name owner (some (store', .atStart id entry.data owner))

/-- What removing a name can do. -/
inductive Removing (store : FileStore) (name : FileName) :
    Option (FileStore × Unlinking) → Prop where
  /-- The name is not linked. -/
  | missing (unlinked : store.linked? name = none) : Removing store name none
  /-- The file stays for its handles. -/
  | pending {id : FileId} {entry : FileEntry} {store' : FileStore}
    (linked : store.linked? name = some (id, entry)) (held : 0 < entry.openCount)
    (change : Change store id (some { entry with unlinked := true }) (store.namesWithout name)
      store') (data : store'.data = store.data) :
    Removing store name (some (store', .pending))
  /-- The file goes. -/
  | freed {id : FileId} {entry : FileEntry} {store' : FileStore}
    (linked : store.linked? name = some (id, entry)) (unheld : entry.openCount = 0)
    (change : Change store id none (store.namesWithout name) store')
    (data : store'.data = store.data) :
    Removing store name (some (store', .freed))
  /-- A name goes that led to an empty slot. -/
  | dangling (listed : store.indexOf? name ≠ none) (unlinked : store.linked? name = none) :
    Removing store name (some ({ store with names := store.namesWithout name }, .freed))

/-- What releasing a reference can do. -/
inductive Releasing (store : FileStore) (id : FileId) : FileStore → Release → Prop where
  /-- The reference is stale. -/
  | stale (dead : store.entry? id = none) : Releasing store id store (.stale id)
  /-- No handle is open. -/
  | unheld {entry : FileEntry} (live : store.entry? id = some entry)
    (zero : entry.openCount = 0) : Releasing store id store (.unheld entry.name)
  /-- The entry has one handle less. -/
  | kept {entry : FileEntry} {store' : FileStore} (live : store.entry? id = some entry)
    (positive : 0 < entry.openCount) (stays : entry.unlinked = true → 1 < entry.openCount)
    (change : Change store id (some { entry with openCount := entry.openCount - 1 }) store.names
      store') (data : store'.data = store.data) :
    Releasing store id store' .kept
  /-- The last handle of an unlinked entry goes. -/
  | freed {entry : FileEntry} {store' : FileStore} (live : store.entry? id = some entry)
    (one : entry.openCount = 1) (unlinked : entry.unlinked = true)
    (change : Change store id none store.names store') (data : store'.data = store.data) :
    Releasing store id store' (.freed entry.name)

/-- Two changes of what one reference designates amount to the second. -/
theorem Change.trans {middle : FileStore} {id : FileId} {first second : Option FileEntry}
    {names names' : List (FileName × Nat)} (change : Change store id first names middle)
    (next : Change middle id second names' store')
    (same : store'.arena.length = store.arena.length) : Change store id second names' store' where
  alone := change.alone
  entry?_eq := by
    intro other
    rw [next.entry?_eq, change.entry?_eq]
    split <;> rfl
  arranged := next.arranged
  names := next.names
  capacity := next.capacity.trans change.capacity
  length_arena := .inl same
  older := change.older.trans next.older

/-- The entry that a name leads to is live. -/
theorem live_of_linked? {name : FileName} {id : FileId} {entry : FileEntry}
    (linked : store.linked? name = some (id, entry)) : store.entry? id = some entry := by
  obtain ⟨index, _, taken⟩ := Option.bind_eq_some_iff.1 linked
  exact (slotEntry?_eq_some_iff.1 taken).2

/-! ### Contents that primitives of the arena leave alone -/

theorem data_insert (store : FileStore) (entry : FileEntry) :
    (store.insert entry).1.data = store.data := by
  rw [insert]
  split <;> rfl

theorem data_vacate (store : FileStore) (index : Nat) : (store.vacate index).data = store.data := by
  rw [vacate]
  split <;> rfl

theorem length_arena_vacate (store : FileStore) (index : Nat) :
    (store.vacate index).arena.length = store.arena.length := by
  rw [vacate]
  split
  · rfl
  · exact List.length_modify ..

/-! ### The operations -/

theorem creating (arranged : store.Arranged) (name : FileName) (owner : Pid) :
    Creating store name owner (store.create name owner).1 (store.create name owner).2 := by
  rw [create]
  split
  · rename_i id entry linked
    have change := change_modifyEntry arranged (live_of_linked? linked)
      fun e => { e with openCount := (entry.openCount + 1) % wordCount }
    exact .truncated linked ⟨change.alone, change.entry?_eq, ⟨change.arranged.live_eq,
      change.arranged.free_nodup, change.arranged.mem_free⟩, change.names, change.capacity,
      change.length_arena, change.older⟩ rfl
  · rename_i unlinked
    split
    · exact .full unlinked ‹_›
    · rename_i room
      obtain ⟨id, fresh, issued_eq, change⟩ :=
        change_insert arranged ⟨name, store.data.length, 1, false⟩
      have names := change.names
      refine .created unlinked (Nat.lt_of_not_le room) fresh issued_eq
        ⟨change.alone, change.entry?_eq,
          ⟨change.arranged.live_eq, change.arranged.free_nodup, change.arranged.mem_free⟩, ?_,
          change.capacity, change.length_arena, change.older⟩ ?_
      · simp only [names]
      · simp only [data_insert]

theorem opening (arranged : store.Arranged) (name : FileName) (owner : Pid) :
    Opening store name owner (store.openLinked name owner) := by
  rw [openLinked]
  split
  · exact .missing ‹_›
  · rename_i id entry linked
    exact .opened linked (change_modifyEntry arranged (live_of_linked? linked)
      fun e => { e with openCount := (entry.openCount + 1) % wordCount }) rfl

theorem removing (arranged : store.Arranged) (name : FileName) :
    Removing store name (store.unlink name) := by
  rw [unlink]
  split
  · rename_i unlisted
    refine .missing ?_
    rw [linked?, unlisted, Option.bind_none]
  · rename_i index listed
    have arranged : Arranged { store with names := store.names.filter fun link => link.1 ≠ name } :=
      ⟨arranged.live_eq, arranged.free_nodup, arranged.mem_free⟩
    split
    · rename_i id entry taken
      have linked : store.linked? name = some (id, entry) := by
        rw [linked?, listed, Option.bind_some, taken]
      obtain ⟨rfl, live⟩ := slotEntry?_eq_some_iff.1 taken
      split
      · rename_i held
        have change := change_modifyEntry arranged live fun e => { e with unlinked := true }
        exact .pending linked held ⟨change.alone, change.entry?_eq, change.arranged, change.names,
          change.capacity, change.length_arena, change.older⟩ rfl
      · rename_i unheld
        have change := change_vacate arranged live
        exact .freed linked (Nat.eq_zero_of_not_pos unheld)
          ⟨change.alone, change.entry?_eq, change.arranged, change.names, change.capacity,
            change.length_arena, change.older⟩ (data_vacate _ _)
    · rename_i vacant
      refine .dangling ?_ ?_
      · rw [listed]
        exact Option.some_ne_none _
      · rw [linked?, listed, Option.bind_some, vacant]

theorem releasing (arranged : store.Arranged) (id : FileId) :
    Releasing store id (store.release id).1 (store.release id).2 := by
  rw [release]
  split
  · exact .stale ‹_›
  · rename_i entry live
    split
    · exact .unheld live ‹_›
    · rename_i positive
      have change := change_modifyEntry arranged live
        fun e => { e with openCount := entry.openCount - 1 }
      have live' := change.entry?_eq id
      rw [if_pos rfl] at live'
      simp only
      split
      · rename_i last
        have next := change_vacate change.arranged live'
        rw [change.names] at next
        exact .freed live last.1 last.2
          (change.trans next ((length_arena_vacate _ _).trans (List.length_modify ..)))
          (data_vacate _ _)
      · rename_i notLast
        refine .kept live (Nat.pos_of_ne_zero positive) ?_ change rfl
        intro unlinked
        have several : entry.openCount ≠ 1 := fun one => notLast ⟨one, unlinked⟩
        omega

theorem write_snd (store : FileStore) (handle : FileHandle) (bytes : Bytes) :
    (store.write handle bytes).2 = handle.advance bytes.length := rfl

/-- A write leaves all entries alone. -/
theorem entry?_write (store : FileStore) (handle : FileHandle) (bytes : Bytes) (id : FileId) :
    FileStore.entry? (store.write handle bytes).1 id = store.entry? id := rfl

/-- A name stays listed when another one is removed. -/
theorem mem_namesWithout {name other : FileName} {index : Nat} :
    (other, index) ∈ store.namesWithout name ↔ (other, index) ∈ store.names ∧ other ≠ name := by
  rw [namesWithout, List.mem_filter, decide_eq_true_eq]

/-! ### What every operation keeps -/

theorem Creating.regular {name : FileName} {owner : Pid} {creation : Creation}
    (creating : Creating store name owner store' creation) (regular : store.Regular) :
    store'.Regular := by
  cases creating with
  | truncated linked change data =>
    refine change.regular_of_live regular (live_of_linked? linked) ?_ ?_
    · intro entry' same
      cases same
      rfl
    · rw [data, List.length_set]
  | created unlinked room fresh issued_eq change data =>
    refine change.regular_of_new regular room rfl ?_
    rw [data, List.length_append, List.length_singleton]
  | full => exact regular

theorem Opening.regular {name : FileName} {owner : Pid} {handle : FileHandle}
    (opening : Opening store name owner (some (store', handle))) (regular : store.Regular) :
    store'.Regular := by
  cases opening with
  | opened linked change data =>
    refine change.regular_of_live regular (live_of_linked? linked) ?_ (by rw [data])
    intro entry' same
    cases same
    rfl

theorem Removing.regular {name : FileName} {unlinking : Unlinking}
    (removing : Removing store name (some (store', unlinking))) (regular : store.Regular) :
    store'.Regular := by
  cases removing with
  | pending linked held change data =>
    refine change.regular_of_live regular (live_of_linked? linked) ?_ (by rw [data])
    intro entry' same
    cases same
    rfl
  | freed linked unheld change data =>
    exact change.regular_of_live regular (live_of_linked? linked) nofun (by rw [data])
  | dangling =>
    exact ⟨⟨regular.arranged.live_eq, regular.arranged.free_nodup, regular.arranged.mem_free⟩,
      regular.live_le, regular.data_lt, regular.data_inj⟩

/-- Removing a name leaves all contents alone. -/
theorem Removing.data_eq {name : FileName} {unlinking : Unlinking}
    (removing : Removing store name (some (store', unlinking))) : store'.data = store.data := by
  cases removing with
  | pending linked held change data => exact data
  | freed linked unheld change data => exact data
  | dangling => rfl

theorem Releasing.regular {id : FileId} {release : Release}
    (releasing : Releasing store id store' release) (regular : store.Regular) :
    store'.Regular := by
  cases releasing with
  | stale => exact regular
  | unheld => exact regular
  | kept live positive stays change data =>
    refine change.regular_of_live regular live ?_ (by rw [data])
    intro entry' same
    cases same
    rfl
  | freed live one unlinked change data =>
    exact change.regular_of_live regular live nofun (by rw [data])

/-- What the contents are does not matter, as long as none are added or taken away. -/
theorem Regular.withData {data : List Bytes} (regular : store.Regular)
    (size : data.length = store.data.length) : Regular { store with data } where
  arranged := ⟨regular.arranged.live_eq, regular.arranged.free_nodup, regular.arranged.mem_free⟩
  live_le := regular.live_le
  data_lt live := size ▸ regular.data_lt live
  data_inj := regular.data_inj

theorem regular_write (regular : store.Regular) (handle : FileHandle) (bytes : Bytes) :
    (store.write handle bytes).1.Regular := regular.withData (List.length_modify ..)

/-! ### What the operations keep while slots have indices -/

/-- Removing the name of an entry keeps the store well formed if the entry goes or
has a handle. -/
theorem Change.wellFormed_of_removed {id : FileId} {entry : FileEntry} {name : FileName}
    {new : Option FileEntry} (change : Change store id new (store.namesWithout name) store')
    (wellFormed : store.WellFormed) (regular : store'.Regular)
    (linked : store.linked? name = some (id, entry))
    (unlinked : ∀ entry', new = some entry' → entry'.unlinked = true ∧ 0 < entry'.openCount) :
    store'.WellFormed := by
  obtain ⟨live, sameName, _⟩ := wellFormed.linked?_eq_some_iff.1 linked
  refine change.wellFormed wellFormed regular
    (change.indexed_of_live wellFormed.arranged live wellFormed.indexed) ?_ ?_
    fun entry' same _ => (unlinked entry' same).2
  · exact wellFormed.names_nodup.sublist (List.Sublist.map _ List.filter_sublist)
  · intro other index
    rw [mem_namesWithout]
    split
    · rename_i sameSlot
      rw [sameSlot, wellFormed.mem_names_of_live live]
      constructor
      · intro kept
        obtain ⟨⟨sameName', _⟩, apart⟩ := kept
        exact absurd (sameName'.symm.trans sameName) apart
      · intro relinked
        obtain ⟨entry', same, _, linked'⟩ := relinked
        rw [(unlinked entry' same).1] at linked'
        cases linked'
    · rename_i otherSlot
      constructor
      · exact And.left
      · intro listed
        refine ⟨listed, ?_⟩
        intro equal
        subst equal
        obtain ⟨id', entry', live', sameSlot, name', linked'⟩ := wellFormed.mem_names.1 listed
        have linked'' := wellFormed.linked?_eq_some_iff.2 ⟨live', name', linked'⟩
        rw [linked] at linked''
        cases linked''
        exact otherSlot sameSlot.symm

theorem Creating.wellFormed {name : FileName} {owner : Pid} {creation : Creation}
    (creating : Creating store name owner store' creation) (wellFormed : store.WellFormed)
    (indexed : store'.Indexed) : store'.WellFormed := by
  have regular := creating.regular wellFormed.toRegular
  cases creating with
  | truncated linked change =>
    obtain ⟨live, _, linked⟩ := wellFormed.linked?_eq_some_iff.1 linked
    refine change.wellFormed_of_same_link wellFormed regular live rfl rfl ?_
    intro unlinked
    rw [linked] at unlinked
    cases unlinked
  | @created id issued _ unlinked room fresh issued_eq change =>
    cases issued_eq (change.index_lt indexed)
    have unlisted : ∀ index, (name, index) ∉ store.names := by
      intro index listed
      rw [wellFormed.linked?_eq_none_iff] at unlinked
      rw [← wellFormed.indexOf?_eq_some_iff, unlinked] at listed
      cases listed
    refine change.wellFormed wellFormed regular indexed ?_ ?_ ?_
    · refine List.nodup_cons.2 ⟨?_, wellFormed.names_nodup⟩
      intro member
      obtain ⟨⟨_, index⟩, listed, rfl⟩ := List.mem_map.1 member
      exact unlisted index listed
    · intro other index
      rw [List.mem_cons, Prod.mk.injEq]
      split
      · rename_i sameSlot
        subst sameSlot
        -- No name led to the slot before.
        have notBefore : (other, id.index) ∉ store.names := by
          intro listed
          obtain ⟨id', entry', live, sameSlot, _⟩ := wellFormed.mem_names.1 listed
          rw [change.alone live sameSlot, fresh] at live
          cases live
        simp only [and_true, notBefore, or_false, Option.some.injEq, exists_eq_left']
        exact eq_comm
      · rename_i otherSlot
        simp only [otherSlot, and_false, false_or]
    · intro entry same
      cases same
      exact fun linked => nomatch linked
  | full => exact wellFormed

theorem Opening.wellFormed {name : FileName} {owner : Pid} {handle : FileHandle}
    (opening : Opening store name owner (some (store', handle))) (wellFormed : store.WellFormed) :
    store'.WellFormed := by
  have regular := opening.regular wellFormed.toRegular
  cases opening with
  | opened linked change =>
    obtain ⟨live, _, linked⟩ := wellFormed.linked?_eq_some_iff.1 linked
    refine change.wellFormed_of_same_link wellFormed regular live rfl rfl ?_
    intro unlinked
    rw [linked] at unlinked
    cases unlinked

/-- While the store is well formed no name leads to an empty slot. -/
theorem WellFormed.not_dangling (wellFormed : store.WellFormed) {name : FileName}
    (listed : store.indexOf? name ≠ none) : store.linked? name ≠ none :=
  fun unlinked => listed (wellFormed.linked?_eq_none_iff.1 unlinked)

theorem Removing.wellFormed {name : FileName} {unlinking : Unlinking}
    (removing : Removing store name (some (store', unlinking))) (wellFormed : store.WellFormed) :
    store'.WellFormed := by
  have regular := removing.regular wellFormed.toRegular
  cases removing with
  | pending linked held change =>
    refine change.wellFormed_of_removed wellFormed regular linked ?_
    intro entry' same
    cases same
    exact ⟨rfl, held⟩
  | freed linked unheld change =>
    exact change.wellFormed_of_removed wellFormed regular linked fun _ same => nomatch same
  | dangling listed unlinked => exact absurd unlinked (wellFormed.not_dangling listed)

theorem Releasing.wellFormed {id : FileId} {release : Release}
    (releasing : Releasing store id store' release) (wellFormed : store.WellFormed) :
    store'.WellFormed := by
  have regular := releasing.regular wellFormed.toRegular
  cases releasing with
  | stale => exact wellFormed
  | unheld => exact wellFormed
  | kept live positive stays change =>
    refine change.wellFormed_of_same_link wellFormed regular live rfl rfl ?_
    intro unlinked
    have several := stays unlinked
    simp only
    omega
  | freed live one unlinked change =>
    refine change.wellFormed wellFormed regular
      (change.indexed_of_live wellFormed.arranged live wellFormed.indexed)
      wellFormed.names_nodup ?_ fun _ same => nomatch same
    intro name index
    split
    · rename_i sameSlot
      rw [sameSlot, wellFormed.mem_names_of_live live, unlinked]
      simp only [Bool.true_eq_false, and_false, reduceCtorEq, false_and, exists_false]
    · exact Iff.rfl

theorem WellFormed.withData {data : List Bytes} (wellFormed : store.WellFormed)
    (size : data.length = store.data.length) : WellFormed { store with data } where
  toRegular := wellFormed.toRegular.withData size
  indexed := wellFormed.indexed
  names_nodup := wellFormed.names_nodup
  mem_names := wellFormed.mem_names
  held := wellFormed.held

theorem wellFormed_write (wellFormed : store.WellFormed) (handle : FileHandle) (bytes : Bytes) :
    (store.write handle bytes).1.WellFormed := wellFormed.withData (List.length_modify ..)

end SyscallKernel.FileStore
