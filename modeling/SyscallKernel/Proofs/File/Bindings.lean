import SyscallKernel.Proofs.File.Descriptors

/-!
# Descriptor tables as partial maps

A descriptor table is a partial map from the descriptors that can be given out to handles, beside
two console slots that are there until the table is cleared. A handle is bound to the least
descriptor that is not bound, so none is refused before all of them are.
-/

namespace SyscallKernel

/-- A descriptor that can be given out. -/
abbrev UserFd := { fd : Fd // fd.isReserved = false }

/-- The descriptor, if it can be given out. -/
def Fd.user? (fd : Fd) : Option UserFd :=
  if user : fd.isReserved = false then some ⟨fd, user⟩ else none

theorem Fd.user?_of_user {fd : Fd} (user : fd.isReserved = false) :
    fd.user? = some ⟨fd, user⟩ := dif_pos user

theorem Fd.user?_of_reserved {fd : Fd} (reserved : fd.isReserved = true) : fd.user? = none :=
  dif_neg (Bool.not_eq_false _ ▸ reserved)

/-- The descriptors that can be given out, in ascending order. -/
def UserFd.all : List UserFd := (List.finRange maxOpenFiles).filterMap Fd.user?

/-- Fourteen descriptors can be given out. -/
theorem UserFd.length_all : all.length = 14 := by decide

/-- A partial map from descriptors to handles. -/
structure Bindings where
  /-- The console slots are there. -/
  console : Bool
  /-- The handle bound to a descriptor. -/
  handle? : UserFd → Option FileHandle

namespace Bindings

/-- Nothing is bound. -/
def new : Bindings := ⟨true, fun _ => none⟩

/-- Nothing is bound, and the console slots are gone. -/
def cleared : Bindings := ⟨false, fun _ => none⟩

/-- Binds a descriptor to a handle, or to none. -/
def bind (map : Bindings) (fd : Fd) (handle : Option FileHandle) : Bindings :=
  { map with handle? := fun other => if other.val = fd then handle else map.handle? other }

/-- What a descriptor refers to. -/
def file? (map : Bindings) (fd : Fd) : Option OpenFile :=
  if user : fd.isReserved = false then (map.handle? ⟨fd, user⟩).map .file
  else if map.console then some (if fd = Fd.stdin then .stdin else .stdout)
  else none

/-- The descriptors that are not bound, in ascending order. -/
def unbound (map : Bindings) : List UserFd :=
  UserFd.all.filter fun fd => (map.handle? fd).isNone

/-- The number of descriptors that are bound. -/
def size (map : Bindings) : Nat := UserFd.all.countP fun fd => (map.handle? fd).isSome

/-- The handles that descriptors are bound to, in ascending order of the descriptors. -/
def handles (map : Bindings) : List FileHandle := UserFd.all.filterMap map.handle?

/-- Binds the least descriptor that is not bound, unless all are. -/
def allocate (map : Bindings) (handle : FileHandle) : Option (Bindings × Fd) :=
  map.unbound.head?.map fun fd => (map.bind fd.val (some handle), fd.val)

/-- Takes the handle away that a descriptor is bound to. -/
def release (map : Bindings) (fd : Fd) : Option (Bindings × FileHandle) :=
  (fd.user?.bind map.handle?).map fun handle => (map.bind fd none, handle)

theorem file?_of_user (map : Bindings) {fd : Fd} (user : fd.isReserved = false) :
    map.file? fd = (map.handle? ⟨fd, user⟩).map .file := dif_pos user

/-- A console slot refers to the console, if it is there. -/
theorem file?_of_reserved (map : Bindings) {fd : Fd} (reserved : fd.isReserved = true) :
    map.file? fd = if map.console then some (if fd = Fd.stdin then .stdin else .stdout) else none :=
  dif_neg (Bool.not_eq_false _ ▸ reserved)

theorem handle?_bind (map : Bindings) (fd : Fd) (handle : Option FileHandle) (other : UserFd) :
    (map.bind fd handle).handle? other = if other.val = fd then handle else map.handle? other :=
  rfl

/-- As many handles are bound as descriptors. -/
theorem length_handles (map : Bindings) : map.handles.length = map.size :=
  List.length_filterMap_eq_countP

/-- A descriptor is not bound exactly if fewer than all are. -/
theorem unbound_eq_nil_iff (map : Bindings) : map.unbound = [] ↔ map.size = 14 := by
  rw [unbound, size, List.filter_eq_nil_iff, ← UserFd.length_all, List.countP_eq_length]
  simp only [Option.isNone_iff_eq_none, Option.isSome_iff_ne_none, ne_eq]

end Bindings

namespace DescriptorTable

variable {table table' : DescriptorTable} {map : Bindings} {fd : Fd} {handle : FileHandle}

/-- A table that refers to what a partial map says. -/
def Shows (table : DescriptorTable) (map : Bindings) : Prop :=
  ∀ fd, table.resolve? fd = map.file? fd

theorem shows_new : new.Shows .new := by
  unfold Shows
  decide

theorem shows_cleared : cleared.Shows .cleared := by
  intro fd
  rw [resolve?_cleared, Bindings.file?]
  split <;> rfl

/-- The slots are what the descriptors refer to, one after the other. -/
theorem toList_slots (table : DescriptorTable) :
    table.slots.toList = (List.finRange maxOpenFiles).map table.resolve? := by
  refine List.ext_getElem ?_ fun i within within' => ?_
  · rw [Vector.length_toList, List.length_map, List.length_finRange]
  · rw [List.getElem_map, List.getElem_finRange, resolve?, Vector.getElem_toList]
    rfl

/-- The lowest empty slot is empty, and no lower one that can be given out is. -/
theorem lowestFree?_eq_some_iff :
    table.lowestFree? = some fd ↔ fd.isReserved = false ∧ table.resolve? fd = none ∧
      ∀ other < fd, other.isReserved = false → table.resolve? other ≠ none := by
  have entry : ∀ (other : Fd) (within : other.val < (List.finRange maxOpenFiles).length),
      (List.finRange maxOpenFiles)[other.val] = other := fun _ _ => List.getElem_finRange _
  have listed : ∀ other : Fd, other.val < (List.finRange maxOpenFiles).length := by
    intro other
    rw [List.length_finRange]
    exact other.isLt
  rw [lowestFree?, List.find?_eq_some_iff_getElem, Bool.and_eq_true, Bool.not_eq_true',
    Option.isNone_iff_eq_none, and_assoc]
  refine and_congr_right fun _ => and_congr_right fun _ => ?_
  constructor
  · rintro ⟨i, within, same, occupied⟩ other below user free
    have place : i = fd.val := by
      rw [← same, List.getElem_finRange]
      rfl
    subst place
    have taken := occupied other.val below
    rw [entry, user, free] at taken
    cases taken
  · intro occupied
    refine ⟨fd.val, listed fd, entry fd _, ?_⟩
    intro i below
    have bound : i < maxOpenFiles := Nat.lt_trans below fd.isLt
    rw [entry ⟨i, bound⟩ (listed ⟨i, bound⟩), Bool.not_eq_true', Bool.and_eq_false_iff,
      Bool.not_eq_false', Option.isNone_eq_false_iff, Option.isSome_iff_ne_none]
    exact (Bool.eq_false_or_eq_true _).imp id fun user => occupied ⟨i, bound⟩ below user

namespace Shows

/-- A descriptor that can be given out refers to the handle it is bound to. -/
theorem resolve?_user (shows : table.Shows map) (user : fd.isReserved = false) :
    table.resolve? fd = (map.handle? ⟨fd, user⟩).map .file :=
  (shows fd).trans (map.file?_of_user user)

/-- A console slot refers to no handle. -/
theorem resolve?_reserved (shows : table.Shows map) (reserved : fd.isReserved = true) :
    table.resolve? fd ≠ some (.file handle) := by
  rw [shows fd, map.file?_of_reserved reserved]
  split
  · split <;> exact nofun
  · exact nofun

/-- Binding a descriptor is assigning its slot. -/
theorem assign (shows : table.Shows map) (user : fd.isReserved = false)
    (handle : Option FileHandle) :
    (table.assign fd (handle.map .file)).Shows (map.bind fd handle) := by
  intro other
  rw [resolve?_assign]
  by_cases same : fd = other
  · subst same
    rw [if_pos rfl, Bindings.file?_of_user _ user, Bindings.handle?_bind, if_pos rfl]
  · rw [if_neg same, shows other]
    rcases Bool.eq_false_or_eq_true other.isReserved with reserved | user'
    · rw [map.file?_of_reserved reserved, Bindings.file?_of_reserved _ reserved, Bindings.bind]
    · rw [map.file?_of_user user', Bindings.file?_of_user _ user', Bindings.handle?_bind,
        if_neg (Ne.symm same)]

/-- The lowest empty slot is that of the least descriptor that is not bound. -/
theorem lowestFree?_eq (shows : table.Shows map) :
    table.lowestFree? = map.unbound.head?.map Subtype.val := by
  have same : (fun fd : Fd => !fd.isReserved && (table.resolve? fd).isNone) =
      fun fd => (Fd.user? fd).any fun fd => (map.handle? fd).isNone := by
    funext fd
    rcases Bool.eq_false_or_eq_true fd.isReserved with reserved | user
    · rw [Fd.user?_of_reserved reserved, reserved]
      rfl
    · rw [Fd.user?_of_user user, user, shows.resolve?_user user, Option.isNone_map]
      rfl
  rw [Bindings.unbound, List.head?_filter, UserFd.all, List.find?_filterMap, lowestFree?, same]
  cases found : (List.finRange maxOpenFiles).find? fun fd =>
      (Fd.user? fd).any fun fd => (map.handle? fd).isNone with
  | none => rfl
  | some fd =>
    have free := List.find?_some found
    rcases Bool.eq_false_or_eq_true fd.isReserved with reserved | user
    · rw [Fd.user?_of_reserved reserved] at free
      cases free
    · rw [Option.bind_some, Fd.user?_of_user user, Option.map_some]

/-- The handles in the table are those that descriptors are bound to. -/
theorem handles_eq (shows : table.Shows map) : table.handles = map.handles := by
  rw [handles, toList_slots, List.filterMap_map, Bindings.handles, UserFd.all,
    List.filterMap_filterMap]
  refine congrArg (fun f => List.filterMap f _) (funext fun fd => ?_)
  rw [Function.comp_apply]
  rcases Bool.eq_false_or_eq_true fd.isReserved with reserved | user
  · rw [Fd.user?_of_reserved reserved, Option.bind_none, shows fd, map.file?_of_reserved reserved]
    split
    · split <;> rfl
    · rfl
  · rw [Fd.user?_of_user user, Option.bind_some, shows.resolve?_user user]
    cases map.handle? _ <;> rfl

/-- As many handles are open as descriptors are bound. -/
theorem openCount_eq (shows : table.Shows map) : table.openCount = map.size := by
  rw [openCount, shows.handles_eq, map.length_handles]

/-- A slot is free exactly if a descriptor is not bound. -/
theorem hasFree_eq (shows : table.Shows map) : table.hasFree = !map.unbound.isEmpty := by
  rw [hasFree, shows.lowestFree?_eq, Option.isSome_map]
  cases map.unbound <;> rfl

/-- A handle is installed as it is bound. -/
theorem allocate (shows : table.Shows map) (handle : FileHandle) :
    (table.allocate handle = none ∧ map.allocate handle = none) ∨
      ∃ fd, fd.isReserved = false ∧
        table.allocate handle = some (table.assign fd (some (.file handle)), fd) ∧
        map.allocate handle = some (map.bind fd (some handle), fd) := by
  rw [DescriptorTable.allocate, shows.lowestFree?_eq, Bindings.allocate]
  cases map.unbound.head? with
  | none => exact .inl ⟨rfl, rfl⟩
  | some fd => exact .inr ⟨fd.val, fd.property, rfl, rfl⟩

/-- A handle is handed back as it is taken away. -/
theorem release (shows : table.Shows map) (fd : Fd) :
    (table.release fd = none ∧ map.release fd = none) ∨
      ∃ handle, fd.isReserved = false ∧ table.release fd = some (table.assign fd none, handle) ∧
        map.release fd = some (map.bind fd none, handle) := by
  rw [Bindings.release, DescriptorTable.release]
  rcases Bool.eq_false_or_eq_true fd.isReserved with reserved | user
  · rw [Fd.user?_of_reserved reserved, if_pos reserved]
    exact .inl ⟨rfl, rfl⟩
  · rw [Fd.user?_of_user user, if_neg (Bool.eq_false_iff.1 user), shows.resolve?_user user,
      Option.bind_some]
    cases map.handle? ⟨fd, user⟩ with
    | none => exact .inl ⟨rfl, rfl⟩
    | some handle => exact .inr ⟨handle, user, rfl, rfl⟩

/-- A handle is refused exactly if all fourteen descriptors are bound. -/
theorem allocate_eq_none_iff (shows : table.Shows map) (handle : FileHandle) :
    table.allocate handle = none ↔ table.openCount = 14 := by
  rw [shows.openCount_eq, ← map.unbound_eq_nil_iff, ← List.head?_eq_none_iff,
    DescriptorTable.allocate, shows.lowestFree?_eq]
  cases map.unbound.head? with
  | none => simp
  | some fd => simp

/-- A descriptor is not released exactly if it cannot be given out or is not bound. -/
theorem release_eq_none_iff (shows : table.Shows map) (fd : Fd) :
    table.release fd = none ↔ fd.isReserved = true ∨ table.resolve? fd = none := by
  rcases Bool.eq_false_or_eq_true fd.isReserved with reserved | user
  · rw [DescriptorTable.release, if_pos reserved]
    exact ⟨fun _ => .inl reserved, fun _ => rfl⟩
  · rw [DescriptorTable.release, if_neg (Bool.eq_false_iff.1 user), shows.resolve?_user user, user]
    cases map.handle? ⟨fd, user⟩ with
    | none => simp
    | some handle => simp

end Shows

/-- A handle that is installed in the lowest empty slot. -/
structure Installs (table : DescriptorTable) (handle : FileHandle) (table' : DescriptorTable)
    (fd : Fd) : Prop where
  /-- The slot can be given out. -/
  user : fd.isReserved = false
  /-- It was empty. -/
  vacant : table.resolve? fd = none
  /-- No lower one that can be given out was. -/
  least : ∀ other < fd, other.isReserved = false → table.resolve? other ≠ none
  /-- The handle is in it. -/
  holds : table'.resolve? fd = some (.file handle)
  /-- All other slots are as before. -/
  others : ∀ other, other ≠ fd → table'.resolve? other = table.resolve? other

theorem installs_of_allocate (installed : table.allocate handle = some (table', fd)) :
    table.Installs handle table' fd := by
  obtain ⟨free, rfl⟩ := allocate_eq_some_iff.1 installed
  obtain ⟨user, vacant, least⟩ := lowestFree?_eq_some_iff.1 free
  refine ⟨user, vacant, least, ?_, fun other apart => ?_⟩
  · rw [resolve?_assign, if_pos rfl]
  · rw [resolve?_assign, if_neg (Ne.symm apart)]

/-- A handle that is handed back from its slot. -/
structure HandsBack (table : DescriptorTable) (fd : Fd) (table' : DescriptorTable)
    (handle : FileHandle) : Prop where
  /-- The slot can be given out. -/
  user : fd.isReserved = false
  /-- The handle was in it. -/
  held : table.resolve? fd = some (.file handle)
  /-- It is empty. -/
  vacant : table'.resolve? fd = none
  /-- All other slots are as before. -/
  others : ∀ other, other ≠ fd → table'.resolve? other = table.resolve? other

theorem handsBack_of_release (released : table.release fd = some (table', handle)) :
    table.HandsBack fd table' handle := by
  obtain ⟨user, held, rfl⟩ := release_eq_some_iff.1 released
  refine ⟨user, held, ?_, fun other apart => ?_⟩
  · rw [resolve?_assign, if_pos rfl]
  · rw [resolve?_assign, if_neg (Ne.symm apart)]

end DescriptorTable

end SyscallKernel
