import SyscallKernel.Proofs.File.Accounting
import SyscallKernel.Proofs.File.Objects

/-!
# The file store refines the object store

Each live slot stands for the object whose contents its entry shares. A slot that is used
again stands for another object from then on, and nothing that a client can see reveals it:
the answers to every list of calls are those of the object store, as long as there are no
more files, and no more handles on one of them, than 32 bits can tell apart and count.
-/

namespace SyscallKernel

/-- Looking up in a list whose values were mapped. -/
theorem lookup_map_values {α β γ : Type} [BEq α] (f : β → γ) (entries : List (α × β)) (key : α) :
    (entries.map fun entry => (entry.1, f entry.2)).lookup key = (entries.lookup key).map f := by
  induction entries with
  | nil => rfl
  | cons first rest ih =>
    obtain ⟨name, value⟩ := first
    simp only [List.map_cons, List.lookup_cons]
    split
    · rfl
    · exact ih

/-- An entry found under a key that occurs once can be moved to the front. -/
theorem perm_cons_filter_of_lookup {α : Type} {entries : List (Nat × α)} {n : Nat} {value : α}
    (distinct : (entries.map Prod.fst).Nodup) (found : entries.lookup n = some value) :
    entries.Perm ((n, value) :: entries.filter fun entry => entry.1 ≠ n) := by
  induction entries with
  | nil => cases found
  | cons first rest ih =>
    obtain ⟨key, held⟩ := first
    obtain ⟨absent, distinct⟩ := List.nodup_cons.1 distinct
    rw [List.lookup_cons] at found
    by_cases same : n = key
    · subst same
      simp only [beq_self_eq_true, Option.some.injEq] at found
      subst found
      have kept : rest.filter (fun entry => entry.1 ≠ n) = rest := by
        rw [List.filter_eq_self]
        intro entry member
        rw [decide_eq_true_eq]
        intro equal
        subst equal
        exact absent (List.mem_map.2 ⟨entry, member, rfl⟩)
      simp only [List.filter_cons, ne_eq, not_true_eq_false, decide_false, Bool.false_eq_true,
        if_false]
      simp only [ne_eq] at kept
      rw [kept]
    · simp only [beq_eq_false_iff_ne.2 same] at found
      have apart : key ≠ n := Ne.symm same
      simp only [List.filter_cons, ne_eq, apart, not_false_eq_true, decide_true, if_true]
      exact ((ih distinct found).cons (key, held)).trans (.swap _ _ _)

namespace ObjectStore

/-- Putting data byte by byte is the zero extension followed by an overlay. -/
theorem patched_eq_writeAt (contents : Bytes) (offset : Nat) (data : Bytes) :
    patched contents offset data = Contents.writeAt contents offset data := by
  refine List.ext_getElem? fun i => ?_
  rw [patched, Contents.getElem?_writeAt, List.getElem?_map]
  rcases Nat.lt_or_ge i (max contents.length (offset + data.length)) with within | past
  · rw [List.getElem?_range within, Option.map_some]
    by_cases covered : offset ≤ i ∧ i < offset + data.length
    · have inData : i - offset < data.length := by omega
      rw [if_pos covered, if_pos covered, List.getD_eq_getElem?_getD,
        List.getElem?_eq_getElem inData, Option.getD_some]
    · rw [if_neg covered, if_neg covered]
      split
      · rename_i old
        rw [List.getD_eq_getElem?_getD, List.getElem?_eq_getElem old, Option.getD_some]
      · rename_i new
        rw [List.getD_eq_getElem?_getD, List.getElem?_eq_none (Nat.le_of_not_lt new),
          Option.getD_none, if_pos (by omega)]
  · rw [List.getElem?_eq_none (by rwa [List.length_range]), Option.map_none, if_neg (by omega),
      if_neg (by omega), if_neg (by omega)]

end ObjectStore

namespace FileStore

variable {store store' : FileStore} {id : FileId} {entry : FileEntry}

/-- The contents that the entry in a slot shares; 0 for an empty slot. -/
def dataAt (store : FileStore) (index : Nat) : Nat :=
  (store.slotEntry? index).elim 0 fun found => found.2.data

theorem dataAt_of_live (live : store.entry? id = some entry) :
    store.dataAt id.index = entry.data := by
  rw [dataAt, slotEntry?_eq_some_iff.2 ⟨rfl, live⟩, Option.elim_some]

/-- A change leaves every other slot alone. -/
theorem Change.dataAt_of_ne {new : Option FileEntry} {names : List (FileName × Nat)} {index : Nat}
    (change : Change store id new names store') (apart : index ≠ id.index) :
    store'.dataAt index = store.dataAt index := by
  have same : store'.slotEntry? index = store.slotEntry? index := by
    refine Option.ext fun ⟨other, entry⟩ => ?_
    rw [slotEntry?_eq_some_iff, slotEntry?_eq_some_iff]
    refine and_congr_right fun slot => ?_
    rw [change.entry?_eq, if_neg]
    rintro rfl
    exact apart slot.symm
  rw [dataAt, dataAt, same]

/-- A change of an entry that goes on sharing the same contents leaves all slots alone. -/
theorem Change.dataAt_eq {new : FileEntry} {names : List (FileName × Nat)}
    (change : Change store id (some new) names store') (live : store.entry? id = some entry)
    (same : new.data = entry.data) (index : Nat) : store'.dataAt index = store.dataAt index := by
  by_cases own : index = id.index
  · have live' := change.entry?_eq id
    rw [if_pos rfl] at live'
    rw [own, dataAt_of_live live, dataAt_of_live live', same]
  · exact change.dataAt_of_ne own

/-- A change leaves the names alone that lead elsewhere. -/
theorem Change.map_dataAt {new : Option FileEntry} {names links : List (FileName × Nat)}
    (change : Change store id new names store') (apart : ∀ link ∈ links, link.2 ≠ id.index) :
    (links.map fun link => (link.1, store'.dataAt link.2)) =
      links.map fun link => (link.1, store.dataAt link.2) :=
  List.map_congr_left fun link listed => by rw [change.dataAt_of_ne (apart link listed)]

end FileStore

/-- What a client knows of a handle. -/
def FileHandle.onObject (handle : FileHandle) : ObjectHandle :=
  ⟨handle.data, handle.offset, handle.owner⟩

variable {session : FileSession} {model : ObjectStore}

/-- A file session and an object store that a client cannot tell apart. -/
structure Refines (session : FileSession) (model : ObjectStore) : Prop where
  /-- The file store is well formed. -/
  wellFormed : session.store.WellFormed
  /-- It counts the handles of the session. -/
  accounts : session.store.Accounts (session.handles.map fun held => held.2.link)
  /-- Handles have different numbers. -/
  numbers_nodup : (session.handles.map Prod.fst).Nodup
  /-- The next number was not used. -/
  numbers_lt : ∀ held ∈ session.handles, held.1 < session.nextHandle
  /-- The objects are the contents of the files. -/
  objects : model.objects = session.store.data
  /-- Both have the same capacity. -/
  capacity : model.capacity = session.store.capacity
  /-- Names lead to the objects of their slots. -/
  links : model.links = session.store.names.map fun link => (link.1, session.store.dataAt link.2)
  /-- Handles are on the objects whose contents they share. -/
  handles : model.handles = session.handles.map fun held => (held.1, held.2.onObject)
  /-- Both number handles alike. -/
  nextHandle : model.nextHandle = session.nextHandle

namespace Refines

/-- A new session refines a new object store. -/
theorem new (capacity : Nat) : Refines (FileSession.new capacity) (ObjectStore.new capacity) where
  wellFormed := FileStore.wellFormed_empty capacity
  accounts := FileStore.accounts_empty capacity
  numbers_nodup := List.nodup_nil
  numbers_lt _ member := nomatch member
  objects := rfl
  capacity := rfl
  links := rfl
  handles := rfl
  nextHandle := rfl

/-- A name leads to the object of its entry. -/
theorem lookup_links (refines : Refines session model) (name : FileName) :
    model.links.lookup name = (session.store.linked? name).map fun found => found.2.data := by
  rw [refines.links, lookup_map_values session.store.dataAt]
  cases linked : session.store.linked? name with
  | none =>
    have unlisted := refines.wellFormed.linked?_eq_none_iff.1 linked
    rw [FileStore.indexOf?] at unlisted
    rw [unlisted]
    rfl
  | some found =>
    obtain ⟨id, entry⟩ := found
    obtain ⟨live, facts⟩ := refines.wellFormed.linked?_eq_some_iff.1 linked
    have listed : session.store.indexOf? name = some id.index := by
      rw [refines.wellFormed.indexOf?_eq_some_iff, refines.wellFormed.mem_names]
      exact ⟨id, entry, live, rfl, facts⟩
    rw [FileStore.indexOf?] at listed
    rw [listed, Option.map_some, Option.map_some, FileStore.dataAt_of_live live]

/-- A handle of the session is a handle on the object whose contents it shares. -/
theorem lookup_handles (refines : Refines session model) (n : Nat) :
    model.handles.lookup n = (session.handles.lookup n).map FileHandle.onObject := by
  rw [refines.handles]
  exact lookup_map_values _ _ n

/-- The bytes of an object are the contents at its place. -/
theorem contents_eq (refines : Refines session model) (object : Nat) :
    model.contents object = session.store.contents object := by
  rw [ObjectStore.contents, refines.objects]
  rfl

/-- An entry records as many open handles as its object has. -/
theorem handleCount_eq (refines : Refines session model) {id : FileId} {entry : FileEntry}
    (live : session.store.entry? id = some entry) :
    model.handleCount entry.data = entry.openCount := by
  have counted := refines.accounts.count_eq id
  rw [FileStore.openCountOf_of_live live] at counted
  rw [ObjectStore.handleCount, refines.handles, List.countP_map, counted, List.map_map, List.count,
    List.countP_map]
  refine List.countP_congr ?_
  intro held member
  simp only [Function.comp_apply, FileHandle.onObject, FileHandle.link, decide_eq_true_eq,
    beq_iff_eq]
  obtain ⟨entry', live', shared, -⟩ := refines.accounts.live
    (List.mem_map.2 ⟨held, member, rfl⟩)
  constructor
  · intro sameObject
    exact refines.wellFormed.data_inj live' live (shared.trans sameObject)
  · intro equal
    have same : held.2.link.1 = id := equal
    rw [same, live] at live'
    cases live'
    exact shared.symm

/-- There are as many files as live entries. -/
theorem size_eq (refines : Refines session model) : model.size = session.store.size := by
  have regular := refines.wellFormed.toRegular
  have dataOf : ∀ {id entry}, session.store.entry? id = some entry →
      session.store.dataAt id.index = entry.data := FileStore.dataAt_of_live
  have distinct : (session.store.liveIds.map fun id => session.store.dataAt id.index).Nodup := by
    refine List.pairwise_map.2 ((FileStore.nodup_liveIds _).imp_of_mem ?_)
    intro first second member member' apart same
    obtain ⟨entry, live⟩ := Option.ne_none_iff_exists'.1 (FileStore.mem_liveIds.1 member)
    obtain ⟨entry', live'⟩ := Option.ne_none_iff_exists'.1 (FileStore.mem_liveIds.1 member')
    rw [dataOf live, dataOf live'] at same
    exact apart (regular.data_inj live live' same)
  have distinct' : model.reachable.Nodup := List.nodup_range.sublist List.filter_sublist
  have same : model.reachable.Perm
      (session.store.liveIds.map fun id => session.store.dataAt id.index) := by
    rw [List.perm_ext_iff_of_nodup distinct' distinct]
    intro object
    simp only [List.mem_map, FileStore.mem_liveIds, Option.ne_none_iff_exists',
      ObjectStore.reachable, List.mem_filter, List.mem_range, Bool.or_eq_true, decide_eq_true_eq]
    constructor
    · rintro ⟨_, linked | held⟩
      · rw [ObjectStore.isLinked, refines.links, List.any_eq_true] at linked
        obtain ⟨link, member, sameObject⟩ := linked
        obtain ⟨⟨name, index⟩, listed, rfl⟩ := List.mem_map.1 member
        obtain ⟨id, entry, live, sameSlot, _⟩ := refines.wellFormed.mem_names.1 listed
        refine ⟨id, ⟨entry, live⟩, ?_⟩
        rw [sameSlot]
        exact of_decide_eq_true sameObject
      · rw [ObjectStore.handleCount, List.countP_pos_iff] at held
        obtain ⟨held, member, sameObject⟩ := held
        rw [refines.handles] at member
        obtain ⟨held', member', rfl⟩ := List.mem_map.1 member
        obtain ⟨entry, live, shared, -⟩ :=
          refines.accounts.live (List.mem_map.2 ⟨held', member', rfl⟩)
        refine ⟨held'.2.id, ⟨entry, live⟩, ?_⟩
        exact (dataOf live).trans (shared.trans (of_decide_eq_true sameObject))
    · rintro ⟨id, ⟨entry, live⟩, rfl⟩
      rw [dataOf live, refines.objects]
      refine ⟨regular.data_lt live, ?_⟩
      cases unlinked : entry.unlinked with
      | false =>
        refine .inl ?_
        rw [ObjectStore.isLinked, refines.links, List.any_eq_true]
        refine ⟨(entry.name, session.store.dataAt id.index),
          List.mem_map.2 ⟨(entry.name, id.index), ?_, rfl⟩, decide_eq_true (dataOf live)⟩
        exact refines.wellFormed.mem_names.2 ⟨id, entry, live, rfl, rfl, unlinked⟩
      | true =>
        refine .inr ?_
        rw [refines.handleCount_eq live]
        exact refines.wellFormed.held live unlinked
  rw [ObjectStore.size, same.length_eq, List.length_map, FileStore.size,
    refines.wellFormed.arranged.live_eq]

end Refines

end SyscallKernel
