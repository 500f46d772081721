import SyscallKernel.Proofs.File.Accounting
import SyscallKernel.Proofs.File.Patches
import SyscallKernel.Proofs.File.Releases

/-!
# What becomes of the links that are held

Clients of the file store hold links to its entries: they obtain one when they open a file, they
give some up, and they read and write through the others. Whatever becomes of the links, the store
stays in order and every link shares contents that are there. The store counts the links that
are held as long as every slot has an index of 32 bits and 32 bits can count the links on a file.
-/

namespace SyscallKernel.FileStore

variable {store store' : FileStore} {links links' others : List (FileId × Nat)}
  {releases : List Release}

/-- What can become of a store and of the links that are held, and what was released. -/
inductive Handling (store : FileStore) (links : List (FileId × Nat)) :
    List Release → FileStore → List (FileId × Nat) → Prop where
  /-- Contents are read or written. -/
  | moved {data : List Bytes} {links' : List (FileId × Nat)}
    (size : data.length = store.data.length) (same : links.Perm links') :
    Handling store links [] { store with data } links'
  /-- A file is created or emptied, and opened; or there is no room for it. -/
  | created {name : FileName} {owner : Pid} {store' : FileStore} {creation : Creation}
    {links' : List (FileId × Nat)} (creating : Creating store name owner store' creation)
    (same : (creation.handle?.toList.map FileHandle.link ++ links).Perm links') :
    Handling store links [] store' links'
  /-- A file is opened. -/
  | opened {name : FileName} {owner : Pid} {store' : FileStore} {handle : FileHandle}
    {links' : List (FileId × Nat)} (opening : Opening store name owner (some (store', handle)))
    (same : (handle.link :: links).Perm links') : Handling store links [] store' links'
  /-- A name is removed. -/
  | removed {name : FileName} {store' : FileStore} {unlinking : Unlinking}
    {links' : List (FileId × Nat)} (removing : Removing store name (some (store', unlinking)))
    (same : links.Perm links') : Handling store links [] store' links'
  /-- Some links are given up. -/
  | released (gone : List FileHandle) {links' : List (FileId × Nat)}
    (split : links.Perm (gone.map FileHandle.link ++ links')) :
    Handling store links (store.releaseAll gone).2 (store.releaseAll gone).1 links'

/-- Every link shares contents that are there. -/
def Shares (store : FileStore) (links : List (FileId × Nat)) : Prop :=
  ∀ link ∈ links, link.2 < store.data.length

/-- The store is well formed and counts the links that are held. -/
structure Ledger (store : FileStore) (links : List (FileId × Nat)) : Prop where
  /-- The store is well formed. -/
  wellFormed : store.WellFormed
  /-- It counts every link once. -/
  accounts : store.Accounts links

/-- The numbers of 32 bits suffice for the slots and for the links on each file. -/
structure Fits (store : FileStore) (links : List (FileId × Nat)) : Prop where
  /-- Every slot has an index. -/
  indexed : store.Indexed
  /-- The links on a file can be counted. -/
  count_lt : ∀ id, (links.map Prod.fst).count id < wordCount

theorem Ledger.perm (ledger : store.Ledger links) (same : links.Perm links') :
    store.Ledger links' := ⟨ledger.wellFormed, ledger.accounts.perm same⟩

/-- A handle that is held refers to a live entry and shares the contents of that entry: it reads
and writes them, and those of no other entry. -/
theorem Ledger.designates {handle : FileHandle} (ledger : store.Ledger links)
    (held : handle.link ∈ links) :
    ∃ entry contents, store.entry? handle.id = some entry ∧ entry.data = handle.data ∧
      store.data[entry.data]? = some contents ∧
      (∀ count, (store.read handle count).1 =
        Contents.readAt contents handle.offset count) ∧
      ∀ bytes id, FileStore.entry? (store.write handle bytes).1 id = store.entry? id ∧
        ∀ other, store.entry? id = some other →
          (store.write handle bytes).1.data[other.data]? =
            if id = handle.id then some (Contents.writeAt contents handle.offset bytes)
            else store.data[other.data]? := by
  obtain ⟨entry, live, same, -⟩ := ledger.accounts.live held
  have live : store.entry? handle.id = some entry := live
  have same : entry.data = handle.data := same
  obtain ⟨contents, shared⟩ : ∃ contents, store.data[entry.data]? = some contents :=
    ⟨_, List.getElem?_eq_getElem (ledger.wellFormed.data_lt live)⟩
  have own : store.data[handle.data]? = some contents := same ▸ shared
  refine ⟨entry, contents, live, same, shared, fun count => ?_, fun bytes id => ⟨rfl, ?_⟩⟩
  · rw [read, FileStore.contents, List.getD_eq_getElem?_getD, own, Option.getD_some]
  · intro other live'
    split
    · rename_i alike
      rw [alike, live] at live'
      cases live'
      rw [same]
      exact data_write_self _ bytes own
    · rename_i apart
      refine data_write_other _ handle bytes fun alike => apart ?_
      exact ledger.wellFormed.data_inj live' live (alike.trans same.symm)

/-- Few links can be counted. -/
theorem Fits.of_length_lt (indexed : store.Indexed) (few : links.length < wordCount) :
    store.Fits links where
  indexed := indexed
  count_lt id := by
    refine Nat.lt_of_le_of_lt List.count_le_length ?_
    rw [List.length_map]
    exact few

theorem Fits.perm (fits : store.Fits links) (same : links.Perm links') : store.Fits links' where
  indexed := fits.indexed
  count_lt id := (same.map Prod.fst).count_eq id ▸ fits.count_lt id

/-- One more link on an entry can be counted if the links can be counted that there are then. -/
theorem Ledger.openCount_succ_lt {link : FileId × Nat} {entry : FileEntry}
    (ledger : store.Ledger links) (live : store.entry? link.1 = some entry)
    (fits : store'.Fits links') (same : (link :: links).Perm links') :
    entry.openCount + 1 < wordCount := by
  have counted := ledger.accounts.count_eq link.1
  rw [openCountOf_of_live live] at counted
  have all := fits.count_lt link.1
  rw [← (same.map Prod.fst).count_eq, List.map_cons, List.count_cons_self] at all
  omega

namespace Handling

/-- Nothing happens. -/
theorem idle (store : FileStore) (links : List (FileId × Nat)) :
    Handling store links [] store links := .moved rfl (.refl _)

/-- The order in which links are held afterwards does not matter. -/
theorem perm {links'' : List (FileId × Nat)}
    (handling : Handling store links releases store' links')
    (same : links'.Perm links'') : Handling store links releases store' links'' := by
  cases handling with
  | moved size before => exact .moved size (before.trans same)
  | created creating before => exact .created creating (before.trans same)
  | opened opening before => exact .opened opening (before.trans same)
  | removed removing before => exact .removed removing (before.trans same)
  | released gone split => exact .released gone (split.trans (same.append_left _))

/-- Links that others hold are left alone. -/
theorem frame (handling : Handling store links releases store' links')
    (others : List (FileId × Nat)) :
    Handling store (links ++ others) releases store' (links' ++ others) := by
  cases handling with
  | moved size same => exact .moved size (same.append_right others)
  | created creating same =>
    refine .created creating ?_
    rw [← List.append_assoc]
    exact same.append_right others
  | opened opening same => exact .opened opening (same.append_right others)
  | removed removing same => exact .removed removing (same.append_right others)
  | released gone split =>
    refine .released gone ?_
    rw [← List.append_assoc]
    exact split.append_right others

/-- The store stays in order. -/
theorem regular (handling : Handling store links releases store' links')
    (regular : store.Regular) : store'.Regular := by
  cases handling with
  | moved size same => exact regular.withData size
  | created creating same => exact creating.regular regular
  | opened opening same => exact opening.regular regular
  | removed removing same => exact removing.regular regular
  | released gone split => exact (released_releaseAll regular gone).regular

/-- Every link goes on sharing contents that are there. -/
theorem shares (handling : Handling store links releases store' links')
    (regular : store.Regular) (shares : store.Shares links) : store'.Shares links' := by
  intro link member
  cases handling with
  | moved size same => exact size ▸ shares link (same.mem_iff.2 member)
  | created creating same =>
    have among := same.mem_iff.2 member
    cases creating with
    | truncated linked change data =>
      rw [data, List.length_set]
      rcases List.mem_cons.1 among with rfl | old
      · exact regular.data_lt (live_of_linked? linked)
      · exact shares link old
    | created unlinked room fresh issued_eq change data =>
      rw [data, List.length_append, List.length_singleton]
      rcases List.mem_cons.1 among with rfl | old
      · exact Nat.lt_succ_self _
      · exact Nat.lt_succ_of_lt (shares link old)
    | full => exact shares link among
  | opened opening same =>
    have among := same.mem_iff.2 member
    cases opening with
    | opened linked change data =>
      rw [data]
      rcases List.mem_cons.1 among with rfl | old
      · exact regular.data_lt (live_of_linked? linked)
      · exact shares link old
  | removed removing same => exact removing.data_eq ▸ shares link (same.mem_iff.2 member)
  | released gone split =>
    rw [(released_releaseAll regular gone).data]
    exact shares link (split.mem_iff.2 (List.mem_append_right _ member))

/-- As long as the numbers of 32 bits suffice the store counts the links that are held, and every
link that is given up is released from an entry that counts it. -/
theorem ledger (handling : Handling store links releases store' links')
    (ledger : store.Ledger links) (fits : store'.Fits links') :
    store'.Ledger links' ∧ ∀ release ∈ releases, release.IsClean := by
  have wellFormed := ledger.wellFormed
  have accounts := ledger.accounts
  have nothing : ∀ release ∈ ([] : List Release), release.IsClean := fun _ member => nomatch member
  cases handling with
  | moved size same =>
    exact ⟨⟨wellFormed.withData size, (accounts.perm same).withData⟩, nothing⟩
  | created creating same =>
    refine ⟨⟨creating.wellFormed wellFormed fits.indexed, ?_⟩, nothing⟩
    refine (creating.accounts fits.indexed ?_ accounts).perm same
    intro id entry linked
    cases creating with
    | truncated linked' =>
      rw [linked] at linked'
      cases linked'
      exact ledger.openCount_succ_lt (live_of_linked? linked) fits same
    | created unlinked => rw [linked] at unlinked; cases unlinked
    | full unlinked => rw [linked] at unlinked; cases unlinked
  | opened opening same =>
    refine ⟨⟨opening.wellFormed wellFormed, (opening.accounts ?_ accounts).perm same⟩, nothing⟩
    intro id entry linked
    cases opening with
    | opened linked' =>
      rw [linked] at linked'
      cases linked'
      exact ledger.openCount_succ_lt (live_of_linked? linked) fits same
  | removed removing same =>
    exact ⟨⟨removing.wellFormed wellFormed, (removing.accounts accounts).perm same⟩, nothing⟩
  | released gone split =>
    obtain ⟨clean, wellFormed', accounts'⟩ := releaseAll_accounts wellFormed (accounts.perm split)
    exact ⟨⟨wellFormed', accounts'⟩, clean⟩

end Handling

end SyscallKernel.FileStore
