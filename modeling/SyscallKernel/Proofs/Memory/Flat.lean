import SyscallKernel.Proofs.Memory.Contents
import SyscallKernel.Proofs.Memory.Mirrors

/-!
# Flat memory

What paged memory stands for: one byte string from address zero on, and the flags of each page.
A check looks at the bytes one after another, a read takes a piece of the byte string, and a
write lays its data over it. Paged memory read as a flat one answers every operation as the
flat one does.
-/

namespace SyscallKernel

/-- A byte string with rights for each page. -/
structure FlatMemory where
  /-- The bytes, from address zero on. -/
  bytes : Bytes
  /-- The flags of the pages. -/
  flags : List PageFlags
  deriving DecidableEq

namespace FlatMemory

/-- Zero bytes for `count` valid and writable pages. -/
def zeros (count : Nat) : FlatMemory :=
  ⟨List.replicate (count * pageSize) 0, List.replicate count .fresh⟩

/-- What speaks against an access to the byte at an address. -/
def refusal? (memory : FlatMemory) (kind : AccessKind) (address : Nat) : Option FaultKind :=
  match memory.flags[address / pageSize]? with
  | none => some .unmapped
  | some flags => flags.refusal? kind

/-- Checks a range byte by byte. -/
def checkRange (memory : FlatMemory) (addr : UserAddr) (len : Nat) (kind : AccessKind) :
    Except Fault Unit := checkBytes (memory.refusal? kind) addr len

/-- The memory after bytes were laid over it. -/
def put (memory : FlatMemory) (start : Nat) (data : Bytes) : FlatMemory where
  bytes := memory.bytes.overlay start data
  flags := memory.flags.mapIdx fun n flags =>
    if Touches start data.length n then { flags with used := true, dirty := true } else flags

/-- Reads a piece of the byte string. -/
def readBytes (memory : FlatMemory) (addr : UserAddr) (len : Nat) : Except Fault Bytes :=
  (memory.checkRange addr len .read).map fun () => (memory.bytes.drop addr.value).take len

/-- Lays bytes over the byte string, if an access of some kind is granted. -/
def storeAs (memory : FlatMemory) (kind : AccessKind) (addr : UserAddr) (data : Bytes) :
    Except Fault FlatMemory :=
  (memory.checkRange addr data.length kind).map fun () => memory.put addr.value data

instance : AddressSpace FlatMemory where
  checkRange := checkRange
  readBytes := readBytes
  writeBytes memory := memory.storeAs .write

/-- The memory after an operation, and the answer. -/
def run (memory : FlatMemory) : PagedAction → FlatMemory × MemoryAnswer
  | .space action => action.run memory
  | .protect n =>
    ({ memory with flags := memory.flags.modify n fun flags => { flags with readOnly := true } },
      .done)
  | .unmap n =>
    ({ memory with flags := memory.flags.modify n fun flags => { flags with valid := false } },
      .done)
  | .load addr data => SpaceAction.afterStore memory (memory.storeAs .read addr data)
  | .flags n => (memory, .flags memory.flags[n]?)
  | .allFlags => (memory, .allFlags memory.flags)
  | .pages => (memory, .number memory.flags.length)

end FlatMemory

/-! ### Paged memory as a flat one -/

namespace PagedMemory

variable {memory : PagedMemory} {kind : AccessKind} {addr : UserAddr} {len : Nat} {data : Bytes}

/-- The flat memory that pages stand for. -/
def flatten (memory : PagedMemory) : FlatMemory :=
  ⟨memory.pages.flatMap Page.frame, memory.pages.map Page.flags⟩

theorem flatten_ofPageCount (count : Nat) : (ofPageCount count).flatten = .zeros count := by
  have frames : ∀ count, (List.replicate count Page.zero).flatMap Page.frame =
      List.replicate (count * pageSize) 0 := by
    intro count
    induction count with
    | zero => rw [Nat.zero_mul]; rfl
    | succ count ih =>
      rw [List.replicate_succ, List.flatMap_cons, ih, Nat.add_one_mul, Nat.add_comm,
        ← List.replicate_append_replicate]
      rfl
  rw [flatten, ofPageCount, frames, List.map_replicate]
  rfl

/-- The byte string has the bytes of the pages. -/
theorem getElem?_flatten (memory : PagedMemory) (address : Nat) :
    memory.flatten.bytes[address]? = memory.byte? address := by
  obtain ⟨pages⟩ := memory
  rw [flatten, byte?]
  induction pages generalizing address with
  | nil => rfl
  | cons page rest ih =>
    simp only [List.flatMap_cons, List.getElem?_append, page.length_frame] at ih ⊢
    split
    · rename_i within
      exact (byteIn?_of_lt within).symm
    · rename_i beyond
      rw [byteIn?_of_le (Nat.le_of_not_lt beyond), ih]

theorem length_flatten (memory : PagedMemory) :
    memory.flatten.bytes.length = memory.pages.length * pageSize := by
  obtain ⟨pages⟩ := memory
  rw [flatten]
  induction pages with
  | nil => rw [List.length_nil, Nat.zero_mul]; rfl
  | cons page rest ih =>
    simp only [List.flatMap_cons, List.length_append, page.length_frame, List.length_cons,
      Nat.add_one_mul] at ih ⊢
    omega

theorem getElem?_flags_flatten (memory : PagedMemory) (n : Nat) :
    memory.flatten.flags[n]? = memory.flags? n := List.getElem?_map

/-- The same bytes are refused. -/
theorem checkRange_flatten (memory : PagedMemory) (addr : UserAddr) (len : Nat)
    (kind : AccessKind) :
    memory.flatten.checkRange addr len kind = memory.checkRange addr len kind := by
  rw [FlatMemory.checkRange, checkRange_eq_checkBytes]
  congr 1
  funext address
  rw [FlatMemory.refusal?, getElem?_flags_flatten, flags?, refusalIn?]
  cases memory.pages[address / pageSize]? <;> rfl

/-- A granted range is a piece of the byte string. -/
theorem readBytes_flatten (memory : PagedMemory) (addr : UserAddr) (len : Nat) :
    memory.flatten.readBytes addr len = memory.readBytes addr len := by
  rw [FlatMemory.readBytes, checkRange_flatten]
  cases checked : memory.checkRange addr len .read with
  | error fault => rw [readBytes, checked]; rfl
  | ok done =>
    refine (readBytes_eq_ok_iff.2 ⟨checked, ?_, fun i within => ?_⟩).symm
    · rw [List.length_take, List.length_drop, length_flatten]
      rcases Nat.eq_zero_or_pos len with rfl | nonempty
      · exact Nat.zero_min _
      · have last := lt_of_allows (checkRange_eq_ok_iff.1 checked (len - 1) (by omega)).2
        omega
    · rw [List.length_take] at within
      rw [List.getElem?_take, if_pos (by omega), List.getElem?_drop, getElem?_flatten]

/-- A store lays its data over the byte string. -/
theorem flatten_store (checked : memory.checkRange addr data.length kind = .ok ()) :
    (memory.store addr data).flatten = memory.flatten.put addr.value data := by
  have allowed := fun i within => (checkRange_eq_ok_iff.1 checked i within).2
  have overlaid := overlaid_store allowed
  have bytes : (memory.store addr data).flatten.bytes =
      memory.flatten.bytes.overlay addr.value data := by
    refine List.ext_getElem? fun address => ?_
    have inside : addr.value ≤ address ∧ address < addr.value + data.length →
        address < memory.pages.length * pageSize := by
      rintro ⟨behind, before⟩
      obtain ⟨i, rfl⟩ := Nat.exists_eq_add_of_le behind
      exact lt_of_allows (allowed i (by omega))
    rw [getElem?_flatten, overlaid.byte?_eq, Bytes.getElem?_overlay, length_flatten,
      getElem?_flatten]
    simp only [and_iff_right_of_imp inside]
  have flags : (memory.store addr data).flatten.flags = (memory.flatten.put addr.value data).flags := by
    refine List.ext_getElem? fun n => ?_
    rw [getElem?_flags_flatten, flags?_store, FlatMemory.put, List.getElem?_mapIdx,
      getElem?_flags_flatten]
    rfl
  rw [FlatMemory.put, ← bytes]
  rw [FlatMemory.put] at flags
  simp only at flags
  rw [← flags]

/-- A store with some rights does the same. -/
theorem storeAs_flatten (memory : PagedMemory) (kind : AccessKind) (addr : UserAddr)
    (data : Bytes) :
    memory.flatten.storeAs kind addr data =
      ((memory.checkRange addr data.length kind).map fun () => memory.store addr data).map
        flatten := by
  rw [FlatMemory.storeAs, checkRange_flatten]
  cases checked : memory.checkRange addr data.length kind with
  | error fault => rfl
  | ok done => rw [Except.map, Except.map, Except.map, flatten_store checked]

theorem writeBytes_eq (memory : PagedMemory) (addr : UserAddr) (data : Bytes) :
    memory.writeBytes addr data =
      (memory.checkRange addr data.length .write).map fun () => memory.store addr data := by
  rw [writeBytes]
  cases memory.checkRange addr data.length .write <;> rfl

theorem load_eq (memory : PagedMemory) (addr : UserAddr) (data : Bytes) :
    memory.load addr data =
      (memory.checkRange addr data.length .read).map fun () => memory.store addr data := by
  rw [load]
  cases memory.checkRange addr data.length .read <;> rfl

/-- Paged memory read as a flat one is an address space like it. -/
theorem mirrors_flatten : AddressSpace.Mirrors flatten where
  checkRange := checkRange_flatten
  readBytes := readBytes_flatten
  writeBytes memory addr data := by
    refine (storeAs_flatten memory .write addr data).trans ?_
    rw [← writeBytes_eq]
    rfl

/-- A change of the flags of one page leaves the byte string alone. -/
theorem flatten_modify (memory : PagedMemory) (n : Nat) (change : Page → Page)
    (changeFlags : PageFlags → PageFlags) (frame : ∀ page, (change page).frame = page.frame)
    (flags : ∀ page, (change page).flags = changeFlags page.flags) :
    (PagedMemory.mk (memory.pages.modify n change)).flatten =
      { memory.flatten with flags := memory.flatten.flags.modify n changeFlags } := by
  have frames : (memory.pages.modify n change).map Page.frame = memory.pages.map Page.frame := by
    refine List.ext_getElem? fun other => ?_
    rw [List.getElem?_map, List.getElem?_modify, List.getElem?_map]
    cases memory.pages[other]? with
    | none => rfl
    | some page =>
      simp only [Option.map_eq_map, Option.map_some]
      split
      · rw [frame]
      · rfl
  have marks : (memory.pages.modify n change).map Page.flags =
      (memory.pages.map Page.flags).modify n changeFlags := by
    refine List.ext_getElem? fun other => ?_
    rw [List.getElem?_map, List.getElem?_modify, List.getElem?_modify, List.getElem?_map]
    cases memory.pages[other]? with
    | none => rfl
    | some page =>
      simp only [Option.map_eq_map, Option.map_some]
      split
      · rw [flags]
      · rfl
  rw [flatten, flatten, List.flatMap_def, List.flatMap_def, frames, marks]

/-- Every operation on paged memory is the operation on the flat memory that it stands for. -/
theorem run_flatten (memory : PagedMemory) (action : PagedAction) :
    memory.flatten.run action = ((action.run memory).1.flatten, (action.run memory).2) := by
  cases action with
  | space action => exact mirrors_flatten.run memory action
  | protect n =>
    have same := memory.flatten_modify n Page.protect
      (fun flags => { flags with readOnly := true }) (fun _ => rfl) fun _ => rfl
    exact congrArg (·, _) same.symm
  | unmap n =>
    have same := memory.flatten_modify n Page.invalidate
      (fun flags => { flags with valid := false }) (fun _ => rfl) fun _ => rfl
    exact congrArg (·, _) same.symm
  | load addr data =>
    rw [FlatMemory.run, storeAs_flatten, ← load_eq]
    exact SpaceAction.afterStore_map flatten memory _
  | flags n => rw [FlatMemory.run, getElem?_flags_flatten]; rfl
  | allFlags => rfl
  | pages => rw [FlatMemory.run, flatten, List.length_map]; rfl

end PagedMemory

end SyscallKernel
