import SyscallKernel.Proofs.Kernel.Pointers

/-!
# Calls that read an open file

A call that reads an open file moves page by page, each page checked again. What it comes to
is one plain read of the contents: it takes what is there from the cursor on, as far as it is
wanted, and lays it over the buffer. A buffer that may not be written over its whole length is
refused before anything moves, and a call that wants nothing does not look at its buffer.
-/

namespace SyscallKernel

variable {σ : Type}

namespace PagedMemory

variable {memory : PagedMemory} {start count : Nat}

/-- The byte at an address lies in a valid page that is not read-only. -/
def IsWritable (memory : PagedMemory) (address : Nat) : Prop :=
  ∃ page, memory.pages[address / pageSize]? = some page ∧ page.flags.valid = true ∧
    page.flags.readOnly = false

/-- A buffer lies above the null address, and each of its bytes may be written. -/
def Accepts (memory : PagedMemory) (start count : Nat) : Prop :=
  0 < start ∧ ∀ i < count, memory.IsWritable (start + i)

/-- A valid page that is not read-only is one that may be written. -/
theorem allows_write_iff {address : Nat} :
    memory.Allows .write address ↔ memory.IsWritable address := by
  unfold Allows refusalIn? IsWritable
  cases memory.pages[address / pageSize]? with
  | none => simp only [Option.elim_none, reduceCtorEq, false_and, exists_false]
  | some page =>
    obtain ⟨⟨valid, readOnly, used, dirty⟩, frame, filled⟩ := page
    cases valid <;> cases readOnly <;>
      simp [PageFlags.refusal?]

end PagedMemory

namespace Argument

variable [AddressSpace σ] {E : PagedMemory.Embedding σ} {memory : PagedMemory} {raw : Register}
  {start count : Nat}

omit [AddressSpace σ] in
/-- A check of a buffer that a register leads to succeeds if each byte may be written. -/
theorem checkRange_write_ofBuffer (held : raw.toNat? = some start)
    (room : Pid.limit + count < addressCount) :
    memory.checkRange (.ofBuffer raw) count .write = .ok () ↔
      ∀ i < count, memory.IsWritable (start + i) := by
  rw [checkRange_ofBuffer held room]
  exact forall_congr' fun i => imp_congr_right fun _ => PagedMemory.allows_write_iff

/-- A buffer that accepts its length is found. -/
theorem buffer_of_accepts (held : raw.toNat? = some start) (fits : count ≤ Pid.limit)
    (accepts : memory.Accepts start count) :
    buffer (E.embed memory) raw count .write = .ok (.ofBuffer raw) := by
  rcases Nat.eq_zero_or_pos count with rfl | nonempty
  · exact buffer_zero _ _ _
  · rw [buffer_eq_ok_iff nonempty (room_of_le fits), UserAddr.value_ofBuffer held]
    exact ⟨held, accepts.1, fun i within => PagedMemory.allows_write_iff.2 (accepts.2 i within)⟩

/-- A buffer that does not, and one whose register is negative, is a bad address. -/
theorem buffer_of_not_accepts (nonempty : 0 < count) (fits : count ≤ Pid.limit)
    (refuses : ∀ start, raw.toNat? = some start → ¬ memory.Accepts start count) :
    buffer (E.embed memory) raw count .write = .error .badAddress := by
  refine buffer_of_not_found fun addr found => ?_
  obtain ⟨held, above, allowed⟩ := (buffer_eq_ok_iff nonempty (room_of_le fits)).1 found
  exact refuses addr.value held
    ⟨above, fun i within => PagedMemory.allows_write_iff.1 (allowed i within)⟩

end Argument

namespace Request

variable [AddressSpace σ] {caller : UserProcess σ} {args : Registers} {allowed : Access → Bool}
  {kind : AccessKind} {fd : Fd} {file : OpenFile} {count : Nat}

/-- A buffer that is refused is what a transfer is refused for. -/
theorem transferArguments_of_buffer_error (held : args.a2.toNat? = some count)
    (named : Fd.ofRegister? args.a0 = some fd) (found : caller.files.resolve? fd = some file)
    (granted : allowed file.access = true) {error : SysError}
    (refused : Argument.buffer caller.memory args.a1 count kind = .error error) :
    transferArguments caller allowed kind args = .error error := by
  have length := count_eq_ok_iff.2 held
  have descriptor := descriptor_eq_ok_iff.2 named
  simp only [transferArguments, length, descriptor, bind, Except.bind, found, granted, if_true,
    refused]

end Request

/-! ### Reads -/

/-- A turn has filled the start of a buffer from an open file. -/
structure Step.Fills [AddressSpace σ] (E : PagedMemory.Embedding σ) (kernel : Kernel)
    (caller : UserProcess σ) (memory : PagedMemory) (fd : Fd) (handle : FileHandle) (start : Nat)
    (data : Bytes) (turn : Turn σ) : Prop where
  /-- The call returns the number of bytes. -/
  counts : turn.Counts data
  /-- No contents, no other file and nothing else of the kernel have changed. -/
  kernel_eq : turn.kernel = kernel
  /-- The bytes were laid over the buffer, the cursor stands behind them, and nothing else of
  the caller has changed. -/
  caller_eq : ∃ memory', memory.Overlaid start data memory' ∧
    turn.caller =
      { caller with
        files := caller.files.assign fd (some (.file (handle.advance data.length)))
        memory := E.embed memory' }
  /-- No process was started. -/
  child_eq : turn.child = none

/-- What a call to read an open file comes to, in terms of the contents of the file. -/
structure Step.ReadsPlainly [AddressSpace σ] (E : PagedMemory.Embedding σ) (kernel : Kernel)
    (caller : UserProcess σ) (memory : PagedMemory) (args : Registers) (fd : Fd)
    (handle : FileHandle) (contents : Bytes) (turn : Turn σ) : Prop where
  /-- A buffer that may be written takes what the contents hold from the cursor on, as far as
  it is wanted. -/
  filled : ∀ count, args.a2.toNat? = some count → 0 < count →
    ∀ start, args.a1.toNat? = some start → memory.Accepts start count →
      ∃ data, data.length = min count (contents.length - handle.offset) ∧
        (∀ i < data.length, data[i]? = contents[handle.offset + i]?) ∧
        turn.Fills E kernel caller memory fd handle start data
  /-- A call that wants nothing gets nothing, wherever its buffer is. -/
  empty : args.a2.toNat? = some 0 →
    turn.value = .finished (.returned 0) ∧ turn.LeavesNoTrace kernel caller
  /-- Any other buffer is refused, and the cursor stays. -/
  refused : ∀ count, args.a2.toNat? = some count → 0 < count →
    (∀ start, args.a1.toNat? = some start → ¬ memory.Accepts start count) →
      turn.value = .finished (.returned SysError.sentinel) ∧ turn.LeavesNoTrace kernel caller ∧
        .note (.callFailed caller.pid Syscall.read.number .badAddress) ∈ turn.effects

variable [AddressSpace σ] {E : PagedMemory.Embedding σ} {memory : PagedMemory} {kernel : Kernel}
  {caller : UserProcess σ} {args : Registers} {fd : Fd} {handle : FileHandle} {wanted : Nat}

/-- Reading an open file into a buffer that is offered. -/
theorem Service.read_file (kernel : Kernel) (paged : caller.memory = E.embed memory)
    (offers : caller.Offers args .write wanted) (fd : Fd) (handle : FileHandle) :
    ∃ memory', memory.Overlaid (UserAddr.ofBuffer args.a1).value
        (kernel.files.read handle wanted).1 memory' ∧
      read kernel caller fd (.file handle) (.ofBuffer args.a1) wanted =
        ⟨kernel,
          { caller with
            files := caller.files.assign fd
              (some (.file (handle.advance (kernel.files.read handle wanted).1.length)))
            memory := E.embed memory' },
          [], none, .answered (Register.ofNat (kernel.files.read handle wanted).1.length)⟩ := by
  have allowed := Request.allowsPart_of_offers paged offers
  rw [← Nat.zero_add wanted] at allowed
  obtain ⟨memory', overlaid, moved⟩ :=
    Transfer.readInto_eq (E := E) kernel.files kernel.console (.file handle) allowed
  refine ⟨memory', overlaid, ?_⟩
  rw [read, paged, moved]
  simp only [settle, Transfer.fetchAll, FileStore.read, Nat.zero_add]

namespace Kernel

/-- A call with a buffer that is offered fills its start. -/
theorem fills_dispatch_read (engine : Engine σ) (up : kernel.isHalted = false)
    (paged : caller.memory = E.embed memory) (offers : caller.Offers args .write wanted)
    (named : Fd.ofRegister? args.a0 = some fd)
    (found : caller.files.resolve? fd = some (.file handle)) (granted : handle.access.reads = true) :
    (kernel.dispatch engine caller Syscall.read.number args).Fills E kernel caller memory fd handle
      (UserAddr.ofBuffer args.a1).value (kernel.files.read handle wanted).1 := by
  have formed : Request.ofCall kernel.config caller args .read =
      .ok (.read fd (.file handle) (.ofBuffer args.a1) wanted) := by
    rw [Request.ofCall, Request.transferArguments_of_offers offers named found granted]
    rfl
  obtain ⟨memory', overlaid, served⟩ := Service.read_file kernel paged offers fd handle
  have few : (kernel.files.read handle wanted).1.length ≤ wanted := List.length_take_le _ _
  have fits := Nat.le_trans few (Register.toInt_of_toNat? offers.length).2
  rw [dispatch_of_request engine up offers.live formed, Request.perform, served,
    Step.conclude_answered rfl up]
  exact
    { counts := ⟨_, rfl, Register.toNat?_ofNat fits⟩
      kernel_eq := rfl
      caller_eq := ⟨memory', overlaid, rfl⟩
      child_eq := rfl }

/-- A call to read an open file comes to one plain read of its contents. -/
theorem readsPlainly_dispatch (engine : Engine σ) (up : kernel.isHalted = false)
    (live : caller.terminated = false) (paged : caller.memory = E.embed memory)
    (named : Fd.ofRegister? args.a0 = some fd)
    (found : caller.files.resolve? fd = some (.file handle)) (granted : handle.access.reads = true) :
    (kernel.dispatch engine caller Syscall.read.number args).ReadsPlainly E kernel caller memory
      args fd handle (kernel.files.contents handle.data) := by
  constructor
  case filled =>
    intro count held positive start placed accepts
    have fits := (Register.toInt_of_toNat? held).2
    have offers : caller.Offers args .write count :=
      ⟨live, held, by rw [paged, Argument.buffer_of_accepts placed fits accepts]⟩
    have fills := fills_dispatch_read engine up paged offers named found granted
    rw [UserAddr.value_ofBuffer placed] at fills
    refine ⟨_, Contents.length_readAt _ _ _, fun i within => ?_, fills⟩
    rw [Contents.length_readAt] at within
    rw [Contents.readAt, List.getElem?_take, if_pos (by omega), List.getElem?_drop]
  case empty =>
    intro held
    have offers : caller.Offers args .write 0 := ⟨live, held, Argument.buffer_zero _ _ _⟩
    have formed : Request.ofCall kernel.config caller args .read =
        .ok (.read fd (.file handle) (.ofBuffer args.a1) 0) := by
      rw [Request.ofCall, Request.transferArguments_of_offers offers named found granted]
      rfl
    -- Nothing is moved, so the slot gets the handle back that it had.
    have same : caller.files.assign fd (some (.file handle)) = caller.files :=
      DescriptorTable.assign_of_resolve? found
    have served : Service.read kernel caller fd (.file handle) (.ofBuffer args.a1) 0 =
        ⟨kernel, caller, [], none, .answered 0⟩ := by
      rw [Service.read, Transfer.readInto, dif_pos rfl]
      simp only [Service.settle, same]
      rfl
    rw [dispatch_of_request engine up live formed, Request.perform, served,
      Step.conclude_answered rfl up]
    exact ⟨rfl, rfl, rfl, rfl, fun effect member => ⟨_, List.mem_singleton.1 member⟩⟩
  case refused =>
    intro count held positive refuses
    have fits := (Register.toInt_of_toNat? held).2
    have unfit : Argument.buffer caller.memory args.a1 count .write = .error .badAddress := by
      rw [paged]
      exact Argument.buffer_of_not_accepts positive fits refuses
    have malformed : Request.ofCall kernel.config caller args .read = .error .badAddress := by
      rw [Request.ofCall,
        Request.transferArguments_of_buffer_error held named found granted unfit]
      rfl
    exact refuses_dispatch engine up live malformed

end Kernel

end SyscallKernel
