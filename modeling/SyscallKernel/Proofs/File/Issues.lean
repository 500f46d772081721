import Mathlib.Algebra.Group.Nat.Defs
import Mathlib.Data.List.Induction
import Mathlib.Data.Set.Operations
import Mathlib.Order.Bounds.Defs
import SyscallKernel.Proofs.File.Events

/-!
# References are issued once

Entries are numbered in the order in which they are made, and this numbering is read off the calls
and their answers alone: a name that leads nowhere leads to a new entry once a file is opened under
it, and to the same entry until it is removed. As long as no slot and no generation has gone round,
two references that were ever given out are the same exactly if they were given out for the same
entry, and one that has become stale designates nothing ever again. Arena, free list and count of
live entries agree whatever happens, and the names agree with them while slots have indices.
-/

namespace SyscallKernel

/-! ### The entries that were made -/

/-- What the events so far tell about the entries. -/
structure Roll where
  /-- The number of the entry that a name leads to. -/
  entryOf? : FileName → Option Nat
  /-- The number of entries made. -/
  made : Nat
  /-- The references given out, the latest first, each with the number of its entry. -/
  issued : List (Nat × FileId)

namespace Roll

/-- Nothing has happened. -/
def empty : Roll := ⟨fun _ => none, 0, []⟩

/-- Enters a reference to an entry. -/
def issue (roll : Roll) (number : Nat) (id : FileId) : Roll :=
  { roll with issued := (number, id) :: roll.issued }

/-- Enters a new entry under a name. -/
def make (roll : Roll) (name : FileName) : Roll :=
  { roll with
    entryOf? := fun other => if other = name then some roll.made else roll.entryOf? other
    made := roll.made + 1 }

/-- Enters an event. -/
def record (roll : Roll) : FileEvent → Roll
  | .opened name id =>
    match roll.entryOf? name with
    | some number => roll.issue number id
    | none => (roll.make name).issue roll.made id
  | .removed name =>
    { roll with entryOf? := fun other => if other = name then none else roll.entryOf? other }

/-- Each entry has one reference, and each reference one entry. -/
def IsPaired (roll : Roll) : Prop :=
  ∀ first ∈ roll.issued, ∀ second ∈ roll.issued, first.2 = second.2 ↔ first.1 = second.1

/-- Enters what an operation and its answer tell. -/
def note (roll : Roll) (entry : FileAction × FileAnswer) : Roll :=
  (FileEvent.of? entry).elim roll roll.record

variable {roll : Roll} {number : Nat} {id : FileId}

theorem mem_issued_issue {issue : Nat × FileId} :
    issue ∈ (roll.issue number id).issued ↔ issue = (number, id) ∨ issue ∈ roll.issued :=
  List.mem_cons

/-- A new entry with a new reference keeps entries and references paired. -/
theorem IsPaired.issue (paired : roll.IsPaired)
    (fresh : ∀ issue ∈ roll.issued, issue.2 ≠ id ∧ issue.1 ≠ number) :
    (roll.issue number id).IsPaired := by
  intro first entered second entered'
  rcases mem_issued_issue.1 entered with rfl | before <;>
    rcases mem_issued_issue.1 entered' with rfl | before'
  · exact iff_of_true rfl rfl
  · have apart := fresh second before'
    exact iff_of_false apart.1.symm apart.2.symm
  · have apart := fresh first before
    exact iff_of_false apart.1 apart.2
  · exact paired first before second before'

end Roll

namespace FileStore

variable {store store' : FileStore} {roll : Roll} {event : Option FileEvent}

/-- The references given out have 32 bits. -/
theorem Numbered.narrow {id : FileId} (numbered : store.Numbered) (issued : store.HasIssued id) :
    id.index < wordCount ∧ id.generation < wordCount := by
  obtain ⟨slot, found, issued⟩ := issued
  have slots := numbered.indexed
  have within := (List.getElem?_eq_some_iff.1 found).1
  have low := numbered.freed_lt slot (List.mem_of_getElem? found)
  have reached : id.generation ≤ slot.freed := by
    rcases issued with earlier | ⟨current, -⟩
    · exact Nat.le_of_lt earlier
    · exact Nat.le_of_eq current
  rw [Indexed] at slots
  omega

/-! ### What clients know about the store -/

/-- A store and what the events so far tell about its entries. -/
structure Enrolled (store : FileStore) (roll : Roll) : Prop where
  /-- A name leads to the reference that was given out for the entry under it. -/
  entryOf?_iff : ∀ name number, roll.entryOf? name = some number ↔
    ∃ id, store.Links name id ∧ (number, id) ∈ roll.issued
  /-- Slots have given out the references that clients know. -/
  hasIssued_iff : ∀ id, store.HasIssued id ↔ ∃ number, (number, id) ∈ roll.issued
  /-- The entries made are numbered from zero. -/
  number_lt : ∀ issue ∈ roll.issued, issue.1 < roll.made
  /-- Each entry has one reference, and each reference one entry. -/
  paired : roll.IsPaired

theorem enrolled_empty (capacity : Nat) : (empty capacity).Enrolled .empty where
  entryOf?_iff name number := by
    simp only [Roll.empty, reduceCtorEq, List.not_mem_nil, and_false, exists_false]
  hasIssued_iff id := by
    simp only [HasIssued, empty, List.getElem?_nil, reduceCtorEq, false_and, exists_false,
      Roll.empty, List.not_mem_nil]
  number_lt _ member := nomatch member
  paired _ member := nomatch member

namespace Enrolled

/-- Nothing is new where no entry is made, no reference is given out and no name is moved. -/
theorem settles (enrolled : store.Enrolled roll) (settles : Settles store store') :
    store'.Enrolled roll where
  entryOf?_iff name number := by
    rw [enrolled.entryOf?_iff]
    simp only [settles.links_iff]
  hasIssued_iff id := (settles.hasIssued_iff id).trans (enrolled.hasIssued_iff id)
  number_lt := enrolled.number_lt
  paired := enrolled.paired

/-- A reference can be given out again for the same entry. -/
theorem reissue {number : Nat} {id : FileId} (enrolled : store.Enrolled roll)
    (member : (number, id) ∈ roll.issued) : store.Enrolled (roll.issue number id) := by
  have same : ∀ issue, issue ∈ (roll.issue number id).issued ↔ issue ∈ roll.issued := by
    intro issue
    rw [Roll.mem_issued_issue, or_iff_right_of_imp]
    rintro rfl
    exact member
  constructor
  case entryOf?_iff =>
    simp only [same]
    exact enrolled.entryOf?_iff
  case hasIssued_iff =>
    simp only [same]
    exact enrolled.hasIssued_iff
  case number_lt => exact fun issue entered => enrolled.number_lt issue ((same issue).1 entered)
  case paired =>
    intro first entered second entered'
    exact enrolled.paired first ((same first).1 entered) second ((same second).1 entered')

/-- A new entry has a new number, and its reference is new. -/
theorem make {name : FileName} {id : FileId} (enrolled : store.Enrolled roll)
    (numbered : store.Numbered) (unlinked : ∀ other, ¬ store.Links name other)
    (takes : Takes store id store')
    (links_iff : ∀ name' other, store'.Links name' other ↔
      (name' = name ∧ other = id) ∨ store.Links name' other) :
    store'.Enrolled ((roll.make name).issue roll.made id) := by
  have unissued : ∀ number, (number, id) ∉ roll.issued := fun number entered =>
    takes.unissued ((enrolled.hasIssued_iff id).2 ⟨number, entered⟩)
  have entered_iff : ∀ number other,
      (number, other) ∈ ((roll.make name).issue roll.made id).issued ↔
        (number = roll.made ∧ other = id) ∨ (number, other) ∈ roll.issued := by
    intro number other
    rw [Roll.mem_issued_issue, Prod.mk.injEq]
    rfl
  constructor
  case entryOf?_iff =>
    intro name' number
    simp only [entered_iff, links_iff]
    by_cases own : name' = name
    · subst own
      simp only [Roll.issue, Roll.make, if_true, Option.some.injEq, true_and, unlinked, or_false,
        exists_eq_left, and_true, unissued]
      exact eq_comm
    · have before : ∀ other, store.Links name' other → other ≠ id := by
        rintro other links rfl
        exact takes.unissued (numbered.hasIssued_of_links links)
      simp only [Roll.issue, Roll.make, own, if_false, false_and, false_or,
        enrolled.entryOf?_iff]
      refine exists_congr fun other => and_congr_right fun links => ?_
      simp only [before other links, and_false, false_or]
  case hasIssued_iff =>
    intro other
    simp only [takes.hasIssued_iff, entered_iff, enrolled.hasIssued_iff, exists_or,
      exists_eq_left]
  case number_lt =>
    intro issue entered
    rcases Roll.mem_issued_issue.1 entered with rfl | before
    · exact Nat.lt_succ_self _
    · exact Nat.lt_succ_of_lt (enrolled.number_lt issue before)
  case paired =>
    have earlier : (roll.make name).IsPaired := enrolled.paired
    refine earlier.issue fun issue before => ⟨?_, Nat.ne_of_lt (enrolled.number_lt issue before)⟩
    rintro rfl
    exact unissued issue.1 before

/-- A name that is removed leads nowhere any more. -/
theorem remove {name : FileName} (enrolled : store.Enrolled roll) (carries : Carries store store')
    (links_iff : ∀ name' id, store'.Links name' id ↔ store.Links name' id ∧ name' ≠ name) :
    store'.Enrolled (roll.record (.removed name)) where
  entryOf?_iff name' number := by
    simp only [Roll.record, links_iff]
    split
    · rename_i own
      simp [own]
    · rename_i other
      simp [other, enrolled.entryOf?_iff]
  hasIssued_iff id := (carries.hasIssued_iff id).trans (enrolled.hasIssued_iff id)
  number_lt := enrolled.number_lt
  paired := enrolled.paired

/-- Every event is entered as it happens. -/
theorem of_happens (enrolled : store.Enrolled roll) (numbered : store.Numbered)
    (happens : store.Happens event store') : store'.Enrolled (event.elim roll roll.record) := by
  cases happens with
  | quiet settles => exact enrolled.settles settles
  | @reopened name id _ links settles =>
    obtain ⟨number, member⟩ := (enrolled.hasIssued_iff id).1 (numbered.hasIssued_of_links links)
    have known : roll.entryOf? name = some number :=
      (enrolled.entryOf?_iff name number).2 ⟨id, links, member⟩
    rw [Option.elim_some, Roll.record, known]
    exact (enrolled.reissue member).settles settles
  | @made name id _ unlinked takes links_iff =>
    have unknown : roll.entryOf? name = none := by
      rw [Option.eq_none_iff_forall_ne_some]
      intro number known
      obtain ⟨other, links, -⟩ := (enrolled.entryOf?_iff name number).1 known
      exact unlinked other links
    rw [Option.elim_some, Roll.record, unknown]
    exact enrolled.make numbered unlinked takes links_iff
  | removed carries links_iff => exact enrolled.remove carries links_iff

end Enrolled

/-! ### The store after an operation -/

/-- A stale reference that was given out stays stale, whatever happens. -/
theorem Happens.stale (happens : store.Happens event store') {id : FileId}
    (issued : store.HasIssued id) (dead : store.entry? id = none) :
    store'.HasIssued id ∧ store'.entry? id = none := by
  have carried : ∀ {store'}, Carries store store' → store'.HasIssued id ∧ store'.entry? id = none :=
    fun carries => ⟨(carries.hasIssued_iff id).2 issued, carries.stale id dead⟩
  cases happens with
  | quiet settles => exact carried settles.toCarries
  | reopened links settles => exact carried settles.toCarries
  | made unlinked takes =>
    refine ⟨(takes.hasIssued_iff id).2 (.inr issued), takes.stale id ?_ dead⟩
    rintro rfl
    exact takes.unissued issued
  | removed carries => exact carried carries

/-- Arena, free list and count of a store that tell the same story. -/
structure Tidy (store : FileStore) : Prop where
  /-- The live entries are counted. -/
  live_eq : store.live = store.arena.countP fun slot => slot.entry.isSome
  /-- No slot is listed twice as empty. -/
  free_nodup : store.free.Nodup
  /-- Exactly the empty slots are listed. -/
  mem_free : ∀ index, index ∈ store.free ↔
    ∃ slot, store.arena[index]? = some slot ∧ slot.entry = none

theorem Arranged.tidy (arranged : store.Arranged) : store.Tidy where
  live_eq := arranged.live_eq.trans store.length_liveIds_eq_countP
  free_nodup := arranged.free_nodup
  mem_free _ := arranged.mem_free

/-- Names and entries of a store that tell the same story. -/
structure Named (store : FileStore) : Prop where
  /-- A name leads to the slot of the entry that has it and was not unlinked, and to every such
  entry its name leads. -/
  indexOf?_iff : ∀ name index, store.indexOf? name = some index ↔
    ∃ slot entry, store.arena[index]? = some slot ∧ slot.entry = some entry ∧
      entry.name = name ∧ entry.unlinked = false
  /-- No name is listed twice. -/
  names_nodup : (store.names.map Prod.fst).Nodup
  /-- Different names lead to different slots. -/
  slots_nodup : (store.names.map Prod.snd).Nodup
  /-- An unlinked entry has an open handle. -/
  held : ∀ slot ∈ store.arena, ∀ entry, slot.entry = some entry → entry.unlinked = true →
    0 < entry.openCount

theorem WellFormed.named (wellFormed : store.WellFormed) : store.Named where
  indexOf?_iff name index := by
    rw [wellFormed.indexOf?_eq_some_iff, wellFormed.mem_names]
    constructor
    · rintro ⟨id, entry, live, rfl, facts⟩
      obtain ⟨slot, found, -, held⟩ := entry?_eq_some_iff.1 live
      exact ⟨slot, entry, found, held, facts⟩
    · rintro ⟨slot, entry, found, held, facts⟩
      exact ⟨⟨index, slot.generation⟩, entry, entry?_eq_some_iff.2 ⟨slot, found, rfl, held⟩, rfl,
        facts⟩
  names_nodup := wellFormed.names_nodup
  slots_nodup := wellFormed.nodup_names_index
  held slot member entry holds unlinked := by
    obtain ⟨index, found⟩ := List.mem_iff_getElem?.1 member
    have live : store.entry? ⟨index, slot.generation⟩ = some entry :=
      entry?_eq_some_iff.2 ⟨slot, found, rfl, holds⟩
    exact wellFormed.held live unlinked

end FileStore

namespace FileSession

/-- What the calls and answers so far tell about the entries. -/
def roll (capacity : Nat) (actions : List FileAction) : Roll :=
  (Session.transcript step (new capacity) actions).foldl Roll.note .empty

/-- Another operation makes slots and frees them as the store does. -/
theorem grows_reached (capacity : Nat) (actions : List FileAction) (action : FileAction) :
    (reached capacity actions).store.Grows (reached capacity (actions ++ [action])).store :=
  (stepping_reached capacity actions action).grows (orderly_reached capacity actions).regular

/-- While slots have indices the store is well formed. -/
theorem wellFormed_reached {capacity : Nat} {actions : List FileAction}
    (indexed : (reached capacity actions).store.Indexed) :
    (reached capacity actions).store.WellFormed := by
  induction actions using List.reverseRecOn with
  | nil => exact FileStore.wellFormed_empty capacity
  | append_singleton actions action ih =>
    have before := Nat.le_trans (grows_reached capacity actions action).length_le indexed
    exact wellFormed_of_stepping (ih before) (stepping_reached capacity actions action) indexed

/-- As long as numbers do not go round, the calls and answers tell what is in the store. -/
theorem enrolled_reached {capacity : Nat} {actions : List FileAction}
    (numbered : (reached capacity actions).store.Numbered) :
    (reached capacity actions).store.Enrolled (roll capacity actions) := by
  have preserved : ∀ (session : FileSession) (roll : Roll) (action : FileAction),
      session.Orderly [] ∧ (session.store.Numbered →
        session.store.WellFormed ∧ session.store.Enrolled roll) →
      (session.step action).1.Orderly [] ∧ ((session.step action).1.store.Numbered →
        (session.step action).1.store.WellFormed ∧
        (session.step action).1.store.Enrolled (roll.note (action, (session.step action).2))) := by
    rintro session roll action ⟨orderly, known⟩
    have stepping := stepping orderly.regular.arranged action
    refine ⟨orderly.of_stepping stepping, fun numbered' => ?_⟩
    have numbered := (stepping.grows orderly.regular).numbered numbered'
    obtain ⟨wellFormed, enrolled⟩ := known numbered
    exact ⟨wellFormed_of_stepping wellFormed stepping numbered'.indexed,
      enrolled.of_happens numbered (happens wellFormed numbered action numbered'.indexed)⟩
  exact ((Session.note_induction preserved ⟨Orderly.new capacity, fun _ =>
    ⟨FileStore.wellFormed_empty capacity, FileStore.enrolled_empty capacity⟩⟩ actions).2
      numbered).2

theorem capacity_reached (capacity : Nat) (actions : List FileAction) :
    (reached capacity actions).store.capacity = capacity := by
  induction actions using List.reverseRecOn with
  | nil => rfl
  | append_singleton actions action ih =>
    exact (grows_reached capacity actions action).capacity.trans ih

/-- A stale reference that was given out designates nothing ever again, as long as numbers do not
go round. -/
theorem stale_reached {capacity : Nat} {actions : List FileAction} {id : FileId}
    (issued : (reached capacity actions).store.HasIssued id)
    (dead : (reached capacity actions).store.entry? id = none) (later : List FileAction)
    (numbered : (reached capacity (actions ++ later)).store.Numbered) :
    (reached capacity (actions ++ later)).store.HasIssued id ∧
      (reached capacity (actions ++ later)).store.entry? id = none := by
  induction later using List.reverseRecOn with
  | nil =>
    rw [List.append_nil]
    exact ⟨issued, dead⟩
  | append_singleton later action ih =>
    rw [← List.append_assoc] at numbered ⊢
    have before := (grows_reached capacity (actions ++ later) action).numbered numbered
    obtain ⟨issued', dead'⟩ := ih before
    rw [reached_append] at numbered ⊢
    exact (happens (wellFormed_reached before.indexed) before action numbered.indexed).stale
      issued' dead'

/-- There are never fewer slots than before. -/
theorem length_arena_le_of_append (capacity : Nat) (actions later : List FileAction) :
    (reached capacity actions).store.arena.length ≤
      (reached capacity (actions ++ later)).store.arena.length := by
  induction later using List.reverseRecOn with
  | nil => exact Nat.le_of_eq (by rw [List.append_nil])
  | append_singleton later action ih =>
    rw [← List.append_assoc]
    exact Nat.le_trans ih (grows_reached capacity (actions ++ later) action).length_le

/-- Once all slots were taken. -/
theorem exists_full (capacity : Nat) (actions : List FileAction) :
    ∃ done later, done ++ later = actions ∧
      (reached capacity done).store.live = (reached capacity actions).store.arena.length := by
  induction actions using List.reverseRecOn with
  | nil => exact ⟨[], [], rfl, rfl⟩
  | append_singleton actions action ih =>
    rcases (grows_reached capacity actions action).length_arena with same | ⟨-, full⟩
    · obtain ⟨done, later, rfl, full⟩ := ih
      exact ⟨done, later ++ [action], (List.append_assoc ..).symm, full.trans same.symm⟩
    · exact ⟨_, [], List.append_nil _, full⟩

theorem live_le_reached (capacity : Nat) (actions : List FileAction) :
    (reached capacity actions).store.live ≤ capacity := by
  have room := (orderly_reached capacity actions).regular.live_le
  rwa [capacity_reached] at room

/-- There are as many slots as there were live entries at one time, and never more. -/
theorem isGreatest_length_arena (capacity : Nat) (actions : List FileAction) :
    IsGreatest (Set.range fun time => (reached capacity (actions.take time)).store.live)
      (reached capacity actions).store.arena.length := by
  constructor
  · obtain ⟨done, later, split, full⟩ := exists_full capacity actions
    have taken : actions.take done.length = done := by rw [← split, List.take_left]
    refine ⟨done.length, ?_⟩
    simp only [taken]
    exact full
  · rintro _ ⟨time, rfl⟩
    have slots := (orderly_reached capacity (actions.take time)).regular.arranged.length_arena
    have grown := length_arena_le_of_append capacity (actions.take time) (actions.drop time)
    rw [List.take_append_drop] at grown
    exact Nat.le_trans (Nat.le.intro slots.symm) grown

theorem length_arena_le_reached (capacity : Nat) (actions : List FileAction) :
    (reached capacity actions).store.arena.length ≤ capacity := by
  obtain ⟨time, full⟩ := (isGreatest_length_arena capacity actions).1
  exact full ▸ live_le_reached capacity (actions.take time)

/-- A session whose store issues no reference twice. -/
structure KeepsReferences (capacity : Nat) (actions : List FileAction) : Prop where
  /-- A name leads to the reference that was given out for the entry under it. -/
  linked?_iff : ∀ name number, (roll capacity actions).entryOf? name = some number ↔
    ∃ id entry, (reached capacity actions).store.linked? name = some (id, entry) ∧
      (number, id) ∈ (roll capacity actions).issued
  /-- A reference that designates an entry was given out for it. -/
  issued : ∀ id entry, (reached capacity actions).store.entry? id = some entry →
    ∃ number, (number, id) ∈ (roll capacity actions).issued
  /-- The references given out have 32 bits for the slot and 32 for the generation. -/
  narrow : ∀ issue ∈ (roll capacity actions).issued,
    issue.2.index < wordCount ∧ issue.2.generation < wordCount
  /-- Each entry ever made has one reference, and each reference ever given out one entry. -/
  paired : (roll capacity actions).IsPaired
  /-- Once the entry is gone, its reference designates nothing as long as numbers do not go
  round. -/
  stale : ∀ issue ∈ (roll capacity actions).issued,
    (reached capacity actions).store.entry? issue.2 = none →
    ∀ later, (reached capacity (actions ++ later)).store.Numbered →
      (reached capacity (actions ++ later)).store.entry? issue.2 = none

/-- A session whose store keeps its representation in order and, as far as 32 bits can tell slots
and generations apart, its names and its references. -/
structure KeepsArena (capacity : Nat) (actions : List FileAction) : Prop where
  /-- Arena, free list and count agree. -/
  tidy : (reached capacity actions).store.Tidy
  /-- There is room for the live entries. -/
  live_le : (reached capacity actions).store.live ≤ capacity
  /-- There is room for the slots. -/
  length_le : (reached capacity actions).store.arena.length ≤ capacity
  /-- There are as many slots as there were live entries at one time, and no more. -/
  length_greatest : IsGreatest
    (Set.range fun time => (reached capacity (actions.take time)).store.live)
    (reached capacity actions).store.arena.length
  /-- The names agree with the arena while every slot has an index of 32 bits. -/
  named : (reached capacity actions).store.Indexed → (reached capacity actions).store.Named
  /-- No reference is issued for two entries while no generation has gone round either. -/
  references : (reached capacity actions).store.Numbered → KeepsReferences capacity actions

end FileSession

end SyscallKernel
