import SyscallKernel.Proofs.File.Operations

/-!
# Releasing handles in any order

A release concerns one entry and takes one handle off it; the last one of an unlinked entry
takes the entry away. So what is left of an entry depends on how often it was released and
not on when, and releasing the same handles in another order changes nothing but the order
in which the slots become empty.
-/

namespace SyscallKernel

/-- What is left of an entry after one of its handles was released. -/
def FileEntry.released? (entry : FileEntry) : Option FileEntry :=
  if entry.openCount = 0 then some entry
  else if entry.openCount = 1 ∧ entry.unlinked = true then none
  else some { entry with openCount := entry.openCount - 1 }

namespace FileStore

variable {store store' : FileStore} {id : FileId}

/-- What is left of an entry, if it was there, after some releases. -/
def afterReleases (times : Nat) (entry : Option FileEntry) : Option FileEntry :=
  match times with
  | 0 => entry
  | times + 1 => afterReleases times (entry.bind FileEntry.released?)

/-- Nothing is left of nothing. -/
theorem afterReleases_none (times : Nat) : afterReleases times none = none := by
  induction times with
  | zero => rfl
  | succ times ih => exact ih

/-- What is left of an entry: it has as many handles less as were released, and it is gone if it
was unlinked and lost its last one. -/
theorem afterReleases_some (times : Nat) (entry : FileEntry) :
    afterReleases times (some entry) =
      if entry.unlinked = true ∧ 0 < entry.openCount ∧ entry.openCount ≤ times then none
      else some { entry with openCount := entry.openCount - times } := by
  induction times generalizing entry with
  | zero =>
    rw [afterReleases, Nat.sub_zero, if_neg]
    rintro ⟨-, held, none⟩
    omega
  | succ times ih =>
    rw [afterReleases, Option.bind_some, FileEntry.released?]
    by_cases zero : entry.openCount = 0
    · rw [if_pos zero, ih, zero, Nat.zero_sub, Nat.zero_sub]
      simp only [Nat.lt_irrefl, false_and, and_false, if_false]
    · by_cases last : entry.openCount = 1 ∧ entry.unlinked = true
      · rw [if_neg zero, if_pos last, afterReleases_none, if_pos]
        exact ⟨last.2, by omega, by omega⟩
      · rw [if_neg zero, if_neg last, ih]
        have left : entry.openCount - 1 - times = entry.openCount - (times + 1) := by omega
        have going : (entry.unlinked = true ∧ 0 < entry.openCount - 1 ∧
            entry.openCount - 1 ≤ times) ↔
            entry.unlinked = true ∧ 0 < entry.openCount ∧ entry.openCount ≤ times + 1 := by
          refine and_congr_right fun unlinked => ?_
          have several : entry.openCount ≠ 1 := fun one => last ⟨one, unlinked⟩
          omega
        simp only [left, going]

/-- What is left of an entry shares its contents, and if nothing is left the entry was unlinked. -/
theorem afterReleases_cases (times : Nat) (entry : FileEntry) :
    (∃ entry', afterReleases times (some entry) = some entry' ∧ entry'.data = entry.data) ∨
    (afterReleases times (some entry) = none ∧ entry.unlinked = true) := by
  rw [afterReleases_some]
  split
  · rename_i gone
    exact .inr ⟨rfl, gone.1⟩
  · exact .inl ⟨_, rfl, rfl⟩

/-- Two stores that nothing tells apart but the order of their empty slots. -/
structure Alike (store store' : FileStore) : Prop where
  /-- The references designate the same entries. -/
  entry? : ∀ id, store.entry? id = store'.entry? id
  /-- The names lead to the same slots. -/
  names : store.names = store'.names
  /-- There is room for as many entries. -/
  capacity : store.capacity = store'.capacity
  /-- There are as many entries. -/
  size : store.size = store'.size
  /-- The contents of all files are the same. -/
  data : store.data = store'.data

namespace Alike

/-- The same slots are taken, by the same entries. -/
theorem slotEntry? (alike : Alike store store') (index : Nat) :
    store.slotEntry? index = store'.slotEntry? index := by
  refine Option.ext fun taken => ?_
  rw [slotEntry?_eq_some_iff, slotEntry?_eq_some_iff, alike.entry?]

/-- Every name leads to the same entry. -/
theorem linked? (alike : Alike store store') (name : FileName) :
    store.linked? name = store'.linked? name := by
  rw [FileStore.linked?, FileStore.linked?, indexOf?, indexOf?, alike.names]
  exact congrArg (Option.bind _) (funext alike.slotEntry?)

end Alike

/-- A release changes what one reference designates, by one handle. -/
theorem Releasing.entry?_eq {release : Release} (releasing : Releasing store id store' release)
    (other : FileId) :
    store'.entry? other =
      if other = id then (store.entry? id).bind FileEntry.released? else store.entry? other := by
  cases releasing with
  | stale dead =>
    split
    · rename_i same
      rw [same, dead, Option.bind_none]
    · rfl
  | unheld live zero =>
    split
    · rename_i same
      rw [same, live, Option.bind_some, FileEntry.released?, if_pos zero]
    · rfl
  | @kept entry _ live positive stays change =>
    have notLast : ¬ (entry.openCount = 1 ∧ entry.unlinked = true) := by
      rintro ⟨one, unlinked⟩
      exact absurd (stays unlinked) (one ▸ Nat.lt_irrefl 1)
    rw [change.entry?_eq, live, Option.bind_some, FileEntry.released?,
      if_neg (Nat.ne_of_gt positive), if_neg notLast]
  | @freed entry _ live one unlinked change =>
    have held : entry.openCount ≠ 0 := one ▸ Nat.one_ne_zero
    have last : entry.openCount = 1 ∧ entry.unlinked = true := ⟨one, unlinked⟩
    rw [change.entry?_eq, live, Option.bind_some, FileEntry.released?, if_neg held, if_pos last]

/-- A release removes no name, makes no room and writes nothing. -/
theorem Releasing.same {release : Release} (releasing : Releasing store id store' release) :
    store'.names = store.names ∧ store'.capacity = store.capacity ∧ store'.data = store.data := by
  cases releasing with
  | stale => exact ⟨rfl, rfl, rfl⟩
  | unheld => exact ⟨rfl, rfl, rfl⟩
  | kept _ _ _ change data => exact ⟨change.names, change.capacity, data⟩
  | freed _ _ _ change data => exact ⟨change.names, change.capacity, data⟩

/-- Releases one after the other, of which the first are done. -/
theorem releaseAll_append (store : FileStore) (first rest : List FileHandle) :
    (store.releaseAll (first ++ rest)).1 = ((store.releaseAll first).1.releaseAll rest).1 := by
  induction first generalizing store with
  | nil => rfl
  | cons handle first ih => exact ih _

/-- What some releases do to a store, whatever their order. -/
structure Released (store : FileStore) (handles : List FileHandle) (store' : FileStore) :
    Prop where
  /-- The store stays in order. -/
  regular : store'.Regular
  /-- Each entry has lost as many handles as were released on it. -/
  entry?_eq : ∀ id, store'.entry? id =
    afterReleases ((handles.map FileHandle.id).count id) (store.entry? id)
  /-- The names stay. -/
  names : store'.names = store.names
  /-- The capacity stays. -/
  capacity : store'.capacity = store.capacity
  /-- The contents stay. -/
  data : store'.data = store.data

theorem released_releaseAll (regular : store.Regular) (handles : List FileHandle) :
    Released store handles (store.releaseAll handles).1 := by
  induction handles generalizing store with
  | nil => exact ⟨regular, fun _ => rfl, rfl, rfl, rfl⟩
  | cons handle rest ih =>
    have first := releasing regular.arranged handle.id
    have others := ih (first.regular regular)
    obtain ⟨names, capacity, data⟩ := first.same
    refine ⟨others.regular, ?_, others.names.trans names, others.capacity.trans capacity,
      others.data.trans data⟩
    intro id
    rw [releaseAll, others.entry?_eq, first.entry?_eq, List.map_cons]
    by_cases same : id = handle.id
    · rw [same, if_pos rfl, List.count_cons_self, afterReleases]
    · rw [if_neg same, List.count_cons_of_ne (Ne.symm same)]

theorem wellFormed_releaseAll (wellFormed : store.WellFormed) (handles : List FileHandle) :
    (store.releaseAll handles).1.WellFormed := by
  induction handles generalizing store with
  | nil => exact wellFormed
  | cons handle rest ih =>
    exact ih ((releasing wellFormed.arranged handle.id).wellFormed wellFormed)

/-- Stores in order whose references designate the same entries have as many of them. -/
theorem size_eq_of_entry?_eq (arranged : store.Arranged) (arranged' : store'.Arranged)
    (same : ∀ id, store.entry? id = store'.entry? id) : store.size = store'.size := by
  have listed : store.liveIds.Perm store'.liveIds := by
    rw [List.perm_ext_iff_of_nodup (nodup_liveIds store) (nodup_liveIds store')]
    intro id
    rw [mem_liveIds, mem_liveIds, same]
  rw [size, size, arranged.live_eq, arranged'.live_eq, listed.length_eq]

/-- The order in which handles are released does not matter. -/
theorem alike_releaseAll {handles order : List FileHandle} (regular : store.Regular)
    (same : handles.Perm order) : Alike (store.releaseAll handles).1 (store.releaseAll order).1 := by
  have left := released_releaseAll regular handles
  have right := released_releaseAll regular order
  have entries : ∀ id, FileStore.entry? (store.releaseAll handles).1 id =
      FileStore.entry? (store.releaseAll order).1 id := by
    intro id
    rw [left.entry?_eq, right.entry?_eq, (same.map FileHandle.id).count_eq]
  exact ⟨entries, left.names.trans right.names.symm, left.capacity.trans right.capacity.symm,
    size_eq_of_entry?_eq left.regular.arranged right.regular.arranged entries,
    left.data.trans right.data.symm⟩

end FileStore

end SyscallKernel
