import SyscallKernel.Proofs.File.Patches
import SyscallKernel.Proofs.Kernel.FileReads

/-!
# Calls that write an open file

A call that writes an open file moves page by page, each page read again from the buffer and
written where the one before it ended. What it comes to is one plain write of the buffer at the
cursor: the bytes stand there, all others stay, and a gap that a truncation has left before the
cursor is filled with zero bytes. A buffer that may not be read over its whole length is refused
before anything moves, and a call that has nothing to write does not look at its buffer.
-/

namespace SyscallKernel

variable {σ : Type}

/-- A turn has written some bytes to an open file. -/
structure Step.Patches (kernel : Kernel) (caller : UserProcess σ) (fd : Fd) (handle : FileHandle)
    (contents data : Bytes) (turn : Turn σ) : Prop where
  /-- The call returns the number of bytes. -/
  counts : turn.Counts data
  /-- The contents that the handle shares were patched at the cursor. -/
  contents : ∃ contents', Contents.Patched contents handle.offset data contents' ∧
    turn.kernel.files.data[handle.data]? = some contents'
  /-- The contents of no other file have changed. -/
  others : ∀ other, other ≠ handle.data →
    turn.kernel.files.data[other]? = kernel.files.data[other]?
  /-- Nothing of the kernel but contents has changed: all entries and names are as before. -/
  kernel_eq : turn.kernel =
    { kernel with files := { kernel.files with data := turn.kernel.files.data } }
  /-- The cursor stands behind the bytes, and nothing else of the caller has changed: its memory
  is as before. -/
  caller_eq : turn.caller =
    { caller with
      files := caller.files.assign fd (some (.file (handle.advance data.length))) }
  /-- No process was started. -/
  child_eq : turn.child = none

/-- What a call to write an open file comes to, in terms of the contents of the file. -/
structure Step.WritesPlainly (kernel : Kernel) (caller : UserProcess σ) (memory : PagedMemory)
    (args : Registers) (fd : Fd) (handle : FileHandle) (contents : Bytes) (turn : Turn σ) :
    Prop where
  /-- A buffer above the null address, all of which may be read, is written at the cursor. -/
  stored : ∀ count, args.a2.toNat? = some count → 0 < count →
    ∀ start, args.a1.toNat? = some start → 0 < start →
      ∀ data : Bytes, data.length = count → memory.view.Holds start data →
        turn.Patches kernel caller fd handle contents data
  /-- A call that has nothing to write writes nothing, wherever its buffer is. -/
  empty : args.a2.toNat? = some 0 →
    turn.value = .finished (.returned 0) ∧ turn.LeavesNoTrace kernel caller
  /-- Any other buffer is refused, and neither the contents nor the cursor change. -/
  refused : ∀ count, args.a2.toNat? = some count → 0 < count →
    (∀ start, args.a1.toNat? = some start → 0 < start → ¬ memory.view.Covers start count) →
      turn.value = .finished (.returned SysError.sentinel) ∧ turn.LeavesNoTrace kernel caller ∧
        .note (.callFailed caller.pid Syscall.write.number .badAddress) ∈ turn.effects

variable [AddressSpace σ] {E : PagedMemory.Embedding σ} {memory : PagedMemory} {kernel : Kernel}
  {caller : UserProcess σ} {args : Registers} {fd : Fd} {handle : FileHandle} {contents : Bytes}

/-- A transfer into an open file writes in one go what stands in the buffer. -/
theorem Transfer.writeFrom_file {buffer : UserAddr} {done remaining : Nat} (files : FileStore)
    (console : ConsoleDevice) (handle : FileHandle)
    (allowed : memory.AllowsPart .read buffer done (done + remaining)) (wanted : 0 < remaining) :
    ∃ data, data.length = remaining ∧ memory.Shows (buffer.value + done) data ∧
      writeFrom ⟨files, console, .file handle, E.embed memory⟩ buffer done remaining =
        (⟨(files.write handle data).1, console, .file (handle.advance data.length),
          E.embed memory⟩, .ok (done + data.length)) := by
  induction remaining using Nat.strongRecOn generalizing files handle done with
  | ind remaining ih =>
    have page : 0 < pageSize := by decide
    obtain ⟨chunk, length, shows, loaded⟩ := exists_shows_of_loadAt (E := E) files console
      (.file handle) allowed (by omega : 0 < min remaining pageSize) (by omega)
    -- A file takes all that it is given.
    have given : put ⟨files, console, .file handle, E.embed memory⟩ chunk =
        (chunk.length, ⟨(files.write handle chunk).1, console,
          .file (handle.advance chunk.length), E.embed memory⟩) := by
      simp only [put, FileStore.write_snd]
    rw [writeFrom, dif_neg (Nat.ne_of_gt wanted)]
    simp only [loaded, given, length, Nat.lt_irrefl, if_false]
    rcases Nat.eq_zero_or_pos (remaining - min remaining pageSize) with last | more
    · rw [last, writeFrom, dif_pos rfl]
      exact ⟨chunk, by omega, shows, by rw [length]⟩
    · have rest := allowed.behind (Nat.min_le_left remaining pageSize)
      obtain ⟨data, count, later, moved⟩ := ih (remaining - min remaining pageSize) (by omega)
        (files.write handle chunk).1 (handle.advance (min remaining pageSize)) rest more
      refine ⟨chunk ++ data, ?_, ?_, ?_⟩
      · rw [List.length_append, length, count]
        omega
      · rw [← Nat.add_assoc, ← length] at later
        exact shows.append later
      · rw [moved, ← length, FileStore.write_write, FileHandle.advance_advance,
          List.length_append, Nat.add_assoc]

/-- Writing a buffer that is offered to an open file. -/
theorem Service.write_file (kernel : Kernel) (paged : caller.memory = E.embed memory) {count : Nat}
    (offers : caller.Offers args .read count) (wanted : 0 < count) (fd : Fd)
    (handle : FileHandle) :
    ∃ data, data.length = count ∧ memory.Shows (UserAddr.ofBuffer args.a1).value data ∧
      write kernel caller fd (.file handle) (.ofBuffer args.a1) count =
        ⟨{ kernel with files := (kernel.files.write handle data).1 },
          { caller with
            files := caller.files.assign fd (some (.file (handle.advance data.length))) },
          [], none, .answered (Register.ofNat data.length)⟩ := by
  have allowed := Request.allowsPart_of_offers paged offers
  rw [← Nat.zero_add count] at allowed
  obtain ⟨data, length, shows, moved⟩ :=
    Transfer.writeFrom_file (E := E) kernel.files kernel.console handle allowed wanted
  refine ⟨data, length, shows, ?_⟩
  rw [write, paged, moved]
  simp only [settle, Nat.zero_add, ← paged]

namespace Kernel

/-- A call to write an open file comes to one plain write of its buffer. -/
theorem writesPlainly_dispatch (engine : Engine σ) (up : kernel.isHalted = false)
    (live : caller.terminated = false) (paged : caller.memory = E.embed memory)
    (named : Fd.ofRegister? args.a0 = some fd)
    (found : caller.files.resolve? fd = some (.file handle)) (granted : handle.access.writes = true)
    (shared : kernel.files.data[handle.data]? = some contents) :
    (kernel.dispatch engine caller Syscall.write.number args).WritesPlainly kernel caller memory
      args fd handle contents := by
  have formed : ∀ {count}, caller.Offers args .read count →
      Request.ofCall kernel.config caller args .write =
        .ok (.write fd (.file handle) (.ofBuffer args.a1) count) := by
    intro count offers
    rw [Request.ofCall, Request.transferArguments_of_offers offers named found granted]
    rfl
  constructor
  case stored =>
    intro count held positive start placed above data length holds
    have value := UserAddr.value_ofBuffer placed
    rw [← value] at placed above holds
    have covers := length ▸ holds.covers
    have checked := PagedMemory.checkRange_read_eq_ok_iff.2 covers
    have fits := (Register.toInt_of_toNat? held).2
    have room := Argument.room_of_le fits
    have offers : caller.Offers args .read count := by
      refine ⟨live, held, ?_⟩
      rw [paged]
      exact (Argument.buffer_read_eq_ok_iff positive room).2 ⟨placed, above, covers⟩
    obtain ⟨written, length', shows, served⟩ :=
      Service.write_file kernel paged offers positive fd handle
    have same : written = data := by
      rw [← length'] at checked
      exact ((PagedMemory.shows_iff_holds checked).1 shows).unique holds (length'.trans length.symm)
    subst same
    rw [dispatch_of_request engine up live (formed offers), Request.perform, served,
      Step.conclude_answered rfl up]
    exact
      { counts := ⟨_, rfl, Register.toNat?_ofNat (length' ▸ fits)⟩
        contents := ⟨_, Contents.patched_writeAt _ _ _,
          FileStore.data_write_self kernel.files written shared⟩
        others := fun _ => FileStore.data_write_other kernel.files handle written
        kernel_eq := rfl
        caller_eq := rfl
        child_eq := rfl }
  case empty =>
    intro held
    have offers : caller.Offers args .read 0 := ⟨live, held, Argument.buffer_zero _ _ _⟩
    -- Nothing is moved, so the slot gets the handle back that it had.
    have same : caller.files.assign fd (some (.file handle)) = caller.files :=
      DescriptorTable.assign_of_resolve? found
    have served : Service.write kernel caller fd (.file handle) (.ofBuffer args.a1) 0 =
        ⟨kernel, caller, [], none, .answered 0⟩ := by
      rw [Service.write, Transfer.writeFrom, dif_pos rfl]
      simp only [Service.settle, same]
      rfl
    rw [dispatch_of_request engine up live (formed offers), Request.perform, served,
      Step.conclude_answered rfl up]
    exact ⟨rfl, rfl, rfl, rfl, fun effect member => ⟨_, List.mem_singleton.1 member⟩⟩
  case refused =>
    intro count held positive refuses
    have room := Argument.room_of_le (Register.toInt_of_toNat? held).2
    have unfit : Argument.buffer caller.memory args.a1 count .read = .error .badAddress := by
      rw [paged]
      exact Argument.buffer_read_of_not_covers positive room refuses
    have malformed : Request.ofCall kernel.config caller args .write = .error .badAddress := by
      rw [Request.ofCall,
        Request.transferArguments_of_buffer_error held named found granted unfit]
      rfl
    exact refuses_dispatch engine up live malformed

end Kernel

end SyscallKernel
