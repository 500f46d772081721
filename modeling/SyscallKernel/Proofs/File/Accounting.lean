import SyscallKernel.Proofs.File.Operations

/-!
# Counting open handles

The number of open handles that an entry records is the number of handles that are
actually held on it, as long as there are fewer of them than 32 bits can count, and
each of them shares the contents of the entry. Obtaining a handle and releasing one are
the only operations that change the number, and whoever releases a held handle finds a
live entry.
-/

namespace SyscallKernel

/-- What a handle holds on to: the entry to release and the contents that it shares. -/
def FileHandle.link (handle : FileHandle) : FileId × Nat := (handle.id, handle.data)

namespace FileStore

variable {store store' : FileStore} {id : FileId} {link : FileId × Nat}
  {held : List (FileId × Nat)}

/-- The number of open handles that a reference records; none if it is stale. -/
def openCountOf (store : FileStore) (id : FileId) : Nat :=
  (store.entry? id).elim 0 FileEntry.openCount

/-- The store accounts for the links held, each as often as it is held, and they share the
contents of their entries. -/
structure Accounts (store : FileStore) (held : List (FileId × Nat)) : Prop where
  /-- An entry counts the links on it. -/
  count_eq : ∀ id, store.openCountOf id = (held.map Prod.fst).count id
  /-- A link shares the contents of its entry. -/
  shared : ∀ link ∈ held, ∀ entry, store.entry? link.1 = some entry → entry.data = link.2

theorem accounts_empty (capacity : Nat) : (empty capacity).Accounts [] :=
  ⟨fun _ => rfl, fun _ member => nomatch member⟩

/-- A change counts for the reference that it concerns, and for no other. -/
theorem Change.openCountOf {new : Option FileEntry} {names : List (FileName × Nat)}
    (change : Change store id new names store') (other : FileId) :
    store'.openCountOf other =
      if other = id then new.elim 0 FileEntry.openCount else store.openCountOf other := by
  rw [FileStore.openCountOf, FileStore.openCountOf, change.entry?_eq]
  split <;> rfl

/-- The count of a live reference is the one its entry records. -/
theorem openCountOf_of_live {entry : FileEntry} (live : store.entry? id = some entry) :
    store.openCountOf id = entry.openCount := by
  rw [openCountOf, live, Option.elim_some]

namespace Accounts

/-- The order in which links are held does not matter. -/
theorem perm {held' : List (FileId × Nat)} (accounts : store.Accounts held)
    (same : held.Perm held') : store.Accounts held' where
  count_eq id := (accounts.count_eq id).trans ((same.map Prod.fst).count_eq id)
  shared link member := accounts.shared link (same.mem_iff.2 member)

/-- A held link leads to an entry with an open handle, and shares its contents. -/
theorem live (accounts : store.Accounts held) (member : link ∈ held) :
    ∃ entry, store.entry? link.1 = some entry ∧ entry.data = link.2 ∧ 0 < entry.openCount := by
  have positive : 0 < store.openCountOf link.1 := by
    rw [accounts.count_eq]
    exact List.count_pos_iff.2 (List.mem_map_of_mem member)
  rw [openCountOf] at positive
  cases found : store.entry? link.1 with
  | none =>
    rw [found] at positive
    cases positive
  | some entry =>
    rw [found] at positive
    exact ⟨entry, rfl, accounts.shared link member entry found, positive⟩

/-- One more link is held after a change that counts it. -/
theorem hold {new : FileEntry} {names : List (FileName × Nat)} {data : Nat}
    (accounts : store.Accounts held) (change : Change store id (some new) names store')
    (counted : new.openCount = store.openCountOf id + 1) (own : new.data = data)
    (same : ∀ entry, store.entry? id = some entry → entry.data = data) :
    store'.Accounts ((id, data) :: held) where
  count_eq other := by
    rw [change.openCountOf, List.map_cons, List.count_cons, ← accounts.count_eq other]
    by_cases this : other = id
    · subst this
      simp only [if_true, Option.elim_some, counted, beq_self_eq_true]
    · simp only [this, if_false, beq_eq_false_iff_ne.2 (Ne.symm this), Bool.false_eq_true,
        Nat.add_zero]
  shared link member entry live := by
    rw [change.entry?_eq] at live
    split at live
    · rename_i this
      cases live
      rcases List.mem_cons.1 member with rfl | member
      · exact own
      · -- A link that was held before leads to the entry that changed.
        obtain ⟨entry', live', shared, -⟩ := accounts.live member
        rw [own, ← same entry' (this ▸ live'), shared]
    · rename_i apart
      rcases List.mem_cons.1 member with rfl | member
      · exact absurd rfl apart
      · exact accounts.shared link member entry live

/-- Nothing is held or given up by a change that does not touch the count. -/
theorem keep {new : Option FileEntry} {names : List (FileName × Nat)}
    (accounts : store.Accounts held) (change : Change store id new names store')
    (counted : new.elim 0 FileEntry.openCount = store.openCountOf id)
    (same : ∀ entry entry', store.entry? id = some entry → new = some entry' →
      entry'.data = entry.data) : store'.Accounts held where
  count_eq other := by
    rw [change.openCountOf, ← accounts.count_eq other]
    split
    · rename_i own
      rw [counted, own]
    · rfl
  shared link member entry live := by
    rw [change.entry?_eq] at live
    split at live
    · rename_i own
      obtain ⟨entry', live', shared, -⟩ := accounts.live member
      rw [same entry' entry (own ▸ live') live, shared]
    · exact accounts.shared link member entry live

end Accounts

/-- Creating a file gives one link or none, if one more handle can be counted. -/
theorem Creating.accounts {name : FileName} {owner : Pid} {creation : Creation}
    (creating : Creating store name owner store' creation) (indexed : store'.Indexed)
    (few : ∀ {id entry}, store.linked? name = some (id, entry) → entry.openCount + 1 < wordCount)
    (accounts : store.Accounts held) :
    store'.Accounts (creation.handle?.toList.map FileHandle.link ++ held) := by
  cases creating with
  | truncated linked change =>
    have live := live_of_linked? linked
    refine accounts.hold change ?_ rfl ?_
    · rw [FileHandle.atStart, openCountOf_of_live live, Nat.mod_eq_of_lt (few linked)]
    · intro entry' live'
      rw [FileHandle.atStart, live] at live'
      cases live'
      rfl
  | created _ _ fresh issued_eq change =>
    cases issued_eq (change.index_lt indexed)
    refine accounts.hold change ?_ rfl ?_
    · rw [FileHandle.atStart, openCountOf, fresh, Option.elim_none]
    · intro entry live
      rw [FileHandle.atStart, fresh] at live
      cases live
  | full => exact accounts

/-- Opening a file gives one link, if one more handle can be counted. -/
theorem Opening.accounts {name : FileName} {owner : Pid} {handle : FileHandle}
    (opening : Opening store name owner (some (store', handle)))
    (few : ∀ {id entry}, store.linked? name = some (id, entry) → entry.openCount + 1 < wordCount)
    (accounts : store.Accounts held) : store'.Accounts (handle.link :: held) := by
  cases opening with
  | opened linked change =>
    have live := live_of_linked? linked
    refine accounts.hold change ?_ rfl ?_
    · rw [FileHandle.atStart, openCountOf_of_live live, Nat.mod_eq_of_lt (few linked)]
    · intro entry' live'
      rw [FileHandle.atStart, live] at live'
      cases live'
      rfl

/-- Removing a name gives no link up. -/
theorem Removing.accounts {name : FileName} {unlinking : Unlinking}
    (removing : Removing store name (some (store', unlinking)))
    (accounts : store.Accounts held) : store'.Accounts held := by
  cases removing with
  | pending linked _ change =>
    have live := live_of_linked? linked
    refine accounts.keep change ?_ ?_
    · rw [openCountOf_of_live live, Option.elim_some]
    · intro entry entry' live' same
      rw [live] at live'
      cases live'
      cases same
      rfl
  | freed linked unheld change =>
    refine accounts.keep change ?_ nofun
    rw [openCountOf_of_live (live_of_linked? linked), unheld, Option.elim_none]
  | dangling => exact ⟨accounts.count_eq, accounts.shared⟩

/-- What the contents are does not matter. -/
theorem Accounts.withData {data : List Bytes} (accounts : store.Accounts held) :
    Accounts { store with data } held := ⟨accounts.count_eq, accounts.shared⟩

/-- Writing gives no link up. -/
theorem accounts_write (accounts : store.Accounts held) (handle : FileHandle) (bytes : Bytes) :
    (store.write handle bytes).1.Accounts held := accounts.withData

/-- A release that met a live entry with an open handle. -/
def Release.IsClean : Release → Prop
  | stale _ => False
  | unheld _ => False
  | kept => True
  | freed _ => True

/-- Releasing a held link meets an entry with an open handle, and gives up one link. -/
theorem Releasing.accounts {release : Release} {data : Nat}
    (releasing : Releasing store id store' release)
    (accounts : store.Accounts ((id, data) :: held)) :
    release.IsClean ∧ store'.Accounts held := by
  obtain ⟨entry, live, -, positive⟩ := accounts.live List.mem_cons_self
  have own : store.openCountOf id = (held.map Prod.fst).count id + 1 := by
    rw [accounts.count_eq, List.map_cons, List.count_cons_self]
  have others : ∀ {other}, other ≠ id →
      store.openCountOf other = (held.map Prod.fst).count other := by
    intro other apart
    rw [accounts.count_eq, List.map_cons, List.count_cons_of_ne (Ne.symm apart)]
  have shared : ∀ link ∈ held, ∀ entry, store.entry? link.1 = some entry → entry.data = link.2 :=
    fun link member => accounts.shared link (List.mem_cons_of_mem _ member)
  cases releasing with
  | stale dead =>
    rw [live] at dead
    cases dead
  | unheld live' zero =>
    rw [live] at live'
    cases live'
    omega
  | kept live' _ _ change =>
    rw [openCountOf_of_live live'] at own
    refine ⟨trivial, ⟨?_, ?_⟩⟩
    · intro other
      rw [change.openCountOf]
      split
      · rename_i same
        rw [Option.elim_some, same]
        simp only
        omega
      · exact others ‹_›
    · intro link member entry' left
      rw [change.entry?_eq] at left
      split at left
      · rename_i same
        cases left
        have before := shared link member _ (same ▸ live')
        exact before
      · exact shared link member entry' left
  | freed live' one _ change =>
    rw [openCountOf_of_live live'] at own
    refine ⟨trivial, ⟨?_, ?_⟩⟩
    · intro other
      rw [change.openCountOf]
      split
      · rename_i same
        rw [Option.elim_none, same]
        omega
      · exact others ‹_›
    · intro link member entry' left
      rw [change.entry?_eq] at left
      split at left
      · cases left
      · exact shared link member entry' left

/-- Releasing all handles of a process gives up all its links. -/
theorem releaseAll_accounts {handles : List FileHandle} (wellFormed : store.WellFormed)
    (accounts : store.Accounts (handles.map FileHandle.link ++ held)) :
    (∀ release ∈ (store.releaseAll handles).2, release.IsClean) ∧
      (store.releaseAll handles).1.WellFormed ∧ (store.releaseAll handles).1.Accounts held := by
  induction handles generalizing store with
  | nil => exact ⟨(fun _ member => nomatch member), wellFormed, accounts⟩
  | cons handle rest ih =>
    have first := releasing wellFormed.arranged handle.id
    obtain ⟨clean, accounts'⟩ := first.accounts accounts
    obtain ⟨others, wellFormed', accounts''⟩ := ih (first.wellFormed wellFormed) accounts'
    refine ⟨?_, wellFormed', accounts''⟩
    intro release member
    rcases List.mem_cons.1 member with rfl | member
    · exact clean
    · exact others release member

/-- Without an open handle the live entries are the linked ones. -/
theorem size_eq_names_length (wellFormed : store.WellFormed) (accounts : store.Accounts []) :
    store.size = store.names.length := by
  have linked : ∀ {id entry}, store.entry? id = some entry → entry.unlinked = false := by
    intro id entry live
    have unheld := accounts.count_eq id
    rw [openCountOf_of_live live, List.map_nil, List.count_nil] at unheld
    cases unlinked : entry.unlinked with
    | false => rfl
    | true =>
      have positive := wellFormed.held live unlinked
      omega
  have same : (store.liveIds.map FileId.index).Perm (store.names.map Prod.snd) := by
    rw [List.perm_ext_iff_of_nodup (nodup_liveIds_index store) wellFormed.nodup_names_index]
    intro index
    simp only [List.mem_map, mem_liveIds, Option.ne_none_iff_exists']
    constructor
    · rintro ⟨id, ⟨entry, live⟩, rfl⟩
      exact ⟨(entry.name, id.index),
        wellFormed.mem_names.2 ⟨id, entry, live, rfl, rfl, linked live⟩, rfl⟩
    · rintro ⟨⟨name, _⟩, listed, rfl⟩
      obtain ⟨id, entry, live, sameSlot, _⟩ := wellFormed.mem_names.1 listed
      exact ⟨id, ⟨entry, live⟩, sameSlot⟩
  have length := same.length_eq
  rw [List.length_map, List.length_map] at length
  rw [size, wellFormed.arranged.live_eq, length]

end FileStore

end SyscallKernel
