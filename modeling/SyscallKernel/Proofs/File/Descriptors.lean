import SyscallKernel.File.Descriptor

/-!
# The handles in a descriptor table

Every operation on a table puts one handle in, takes one out or replaces one. All
are assignments to one slot, and an assignment leaves the handles of the other
slots alone.
-/

namespace SyscallKernel.DescriptorTable

variable {table table' : DescriptorTable} {fd : Fd} {handle : FileHandle}

/-- The handle in a slot, as a list. -/
def slotHandles (slot : Option OpenFile) : List FileHandle := (slot.bind OpenFile.handle?).toList

/-- An assignment exchanges the handle of one slot for another. -/
theorem handles_assign (table : DescriptorTable) (fd : Fd) (file : Option OpenFile) :
    ∃ before after, table.handles = before ++ slotHandles (table.resolve? fd) ++ after ∧
      (table.assign fd file).handles = before ++ slotHandles file ++ after := by
  have within : fd.val < table.slots.toList.length := by
    rw [Vector.length_toList]
    exact fd.isLt
  have slot : table.slots.toList[fd.val] = table.resolve? fd := by
    rw [resolve?, Vector.getElem_toList]
    rfl
  have split : table.slots.toList =
      table.slots.toList.take fd.val ++ table.resolve? fd :: table.slots.toList.drop (fd.val + 1) := by
    rw [← slot, List.getElem_cons_drop, List.take_append_drop]
  have single : ∀ (file : Option OpenFile) (rest : List (Option OpenFile)),
      (file :: rest).filterMap (fun slot => slot.bind OpenFile.handle?) =
        slotHandles file ++ rest.filterMap fun slot => slot.bind OpenFile.handle? := by
    intro file rest
    rw [List.filterMap_cons, slotHandles]
    cases file.bind OpenFile.handle? <;> rfl
  refine ⟨(table.slots.toList.take fd.val).filterMap fun slot => slot.bind OpenFile.handle?,
    (table.slots.toList.drop (fd.val + 1)).filterMap fun slot => slot.bind OpenFile.handle?, ?_, ?_⟩
  · rw [handles, List.append_assoc, ← single, ← List.filterMap_append, ← split]
  · have changed : (table.assign fd file).slots.toList =
        table.slots.toList.take fd.val ++ file :: table.slots.toList.drop (fd.val + 1) := by
      rw [assign]
      simp only [Vector.toList_set]
      rw [List.set_eq_take_append_cons_drop, if_pos within]
    rw [handles, changed, List.append_assoc, ← single, ← List.filterMap_append]

/-- A handle behind a descriptor is in the table. -/
theorem mem_handles_of_resolve? (found : table.resolve? fd = some (.file handle)) :
    handle ∈ table.handles := by
  obtain ⟨before, after, old, -⟩ := handles_assign table fd none
  rw [old, found]
  exact List.mem_append_left _ (List.mem_append_right _ (List.mem_singleton.2 rfl))

/-- A new table has no handle. -/
theorem handles_new : new.handles = [] := by decide

/-- A cleared table has no handle. -/
theorem handles_cleared : cleared.handles = [] := by decide

/-- A handle is installed in the lowest empty slot. -/
theorem allocate_eq_some_iff :
    table.allocate handle = some (table', fd) ↔
      table.lowestFree? = some fd ∧ table' = table.assign fd (some (.file handle)) := by
  rw [allocate]
  cases table.lowestFree? with
  | none => simp only [reduceCtorEq, false_and]
  | some free =>
    simp only [Option.some.injEq, Prod.mk.injEq]
    constructor
    · rintro ⟨rfl, rfl⟩
      exact ⟨rfl, rfl⟩
    · rintro ⟨rfl, rfl⟩
      exact ⟨rfl, rfl⟩

/-- Only a slot with a handle that is not a console slot is released. -/
theorem release_eq_some_iff :
    table.release fd = some (table', handle) ↔
      fd.isReserved = false ∧ table.resolve? fd = some (.file handle) ∧
        table' = table.assign fd none := by
  rw [release]
  cases fd.isReserved with
  | true => simp only [if_true, reduceCtorEq, Bool.true_eq_false, false_and]
  | false =>
    simp only [Bool.false_eq_true, if_false, true_and]
    split
    · rename_i found
      simp only [Option.some.injEq, Prod.mk.injEq, found, OpenFile.file.injEq]
      exact and_comm.trans (and_congr_right fun _ => eq_comm)
    · rename_i other
      simp only [reduceCtorEq, false_iff, not_and]
      intro found
      exact absurd found (other handle)

/-- Installing a handle adds it. -/
theorem handles_allocate (installed : table.allocate handle = some (table', fd)) :
    table'.handles.Perm (handle :: table.handles) := by
  obtain ⟨found, rfl⟩ := allocate_eq_some_iff.1 installed
  obtain ⟨before, after, old, new⟩ := handles_assign table fd (some (.file handle))
  rw [(resolve?_of_lowestFree? found).2] at old
  rw [old, new]
  simp only [slotHandles, Option.bind_none, Option.toList_none, List.append_nil,
    Option.bind_some, OpenFile.handle?, Option.toList_some, List.append_assoc,
    List.singleton_append]
  exact List.perm_middle

/-- A free slot is one that a handle can be installed in. -/
theorem hasFree_iff (table : DescriptorTable) (handle : FileHandle) :
    table.hasFree = true ↔ table.allocate handle ≠ none := by
  rw [hasFree, DescriptorTable.allocate]
  cases table.lowestFree? with
  | none => simp
  | some fd => simp

/-- Releasing a descriptor takes its handle out. -/
theorem handles_release (released : table.release fd = some (table', handle)) :
    table.handles.Perm (handle :: table'.handles) := by
  obtain ⟨-, found, rfl⟩ := release_eq_some_iff.1 released
  obtain ⟨before, after, old, new⟩ := handles_assign table fd none
  rw [found] at old
  rw [old, new]
  simp only [slotHandles, Option.bind_none, Option.toList_none, List.append_nil,
    Option.bind_some, OpenFile.handle?, Option.toList_some, List.append_assoc,
    List.singleton_append]
  exact List.perm_middle

/-- Moving the cursor of an open file changes nothing else about the handles. -/
theorem handles_assign_moved {β : Type} {file file' : OpenFile} (view : FileHandle → β)
    (found : table.resolve? fd = some file)
    (same : file'.handle?.map view = file.handle?.map view) :
    (table.assign fd (some file')).handles.map view = table.handles.map view := by
  obtain ⟨before, after, old, new⟩ := handles_assign table fd (some file')
  rw [old, new, found]
  simp only [List.map_append, slotHandles, Option.bind_some]
  congr 2
  cases stored : file.handle? with
  | none =>
    rw [stored, Option.map_none, Option.map_eq_none_iff] at same
    rw [same]
  | some handle =>
    rw [stored, Option.map_some, Option.map_eq_some_iff] at same
    obtain ⟨handle', stored', view'⟩ := same
    rw [stored']
    simp only [Option.toList_some, List.map_cons, view', List.map_nil]

end SyscallKernel.DescriptorTable
