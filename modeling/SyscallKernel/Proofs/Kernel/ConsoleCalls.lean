import SyscallKernel.Proofs.Kernel.Standstill
import SyscallKernel.Proofs.Kernel.Streams

/-!
# Calls that read or write the console

A call that reads the console input or writes its output does nothing if the machine has
halted or its registers do not offer a buffer. Otherwise it moves what one transfer moves,
says how many bytes these were, and changes nothing but the console and, if it reads, the
bytes of the buffer that it filled.
-/

namespace SyscallKernel

variable {σ : Type}

theorem Register.toNat?_ofNat {n : Nat} (fits : n ≤ Pid.limit) : (ofNat n).toNat? = some n := by
  have same := toInt_ofNat fits
  rw [toNat?, if_neg, ← Int32.toNat_toInt, same]
  · rfl
  · rw [Int32.lt_iff_toInt_lt, Int32.toInt_zero, same]
    omega

/-- Assigning a descriptor what it refers to changes nothing. -/
theorem DescriptorTable.assign_of_resolve? {table : DescriptorTable} {fd : Fd}
    {file : Option OpenFile} (found : table.resolve? fd = file) : table.assign fd file = table := by
  subst found
  rw [assign, resolve?]
  exact congrArg DescriptorTable.mk (Vector.set_getElem_self fd.isLt)

/-- The address of a buffer: the one that its register names, or null if it names none. -/
def UserAddr.ofBuffer (raw : Register) : UserAddr := (ofRegister? raw).getD .null

namespace Step

/-- On a running machine a service that answers returns its answer. -/
theorem conclude_answered {step : Step σ Outcome} {value : Register}
    (answered : step.value = .answered value) (up : step.kernel.isHalted = false) (number : Nat) :
    step.conclude number = { step with value := .finished (.returned value) } := by
  simp only [conclude, answered, up, Bool.false_eq_true, if_false]

/-- On a running machine a call that is refused at once returns the sentinel. -/
theorem conclude_failed {kernel : Kernel} {caller : UserProcess σ} (up : kernel.isHalted = false)
    (error : SysError) (number : Nat) :
    (still kernel caller (.failed error)).conclude number =
      ⟨kernel, caller, [.note (.callFailed caller.pid number error)], none,
        .finished (.returned SysError.sentinel)⟩ := by
  simp only [conclude, still, up, Bool.false_eq_true, if_false, List.nil_append]
  rfl

end Step

variable [AddressSpace σ] {kernel : Kernel} {caller : UserProcess σ} {args : Registers}
  {kind : AccessKind} {wanted : Nat}

/-- A buffer that was found is the one its register names. -/
theorem Argument.buffer_eq {memory : σ} {raw : Register} {len : Nat} {buffer : UserAddr}
    (found : Argument.buffer memory raw len kind = .ok buffer) : buffer = .ofBuffer raw := by
  unfold Argument.buffer at found
  split at found
  · cases found
    rfl
  · split at found
    · cases found
    · rename_i named
      split at found
      · cases found
      · cases found
        rw [Argument.pointer?, Option.filter_eq_some_iff] at named
        rw [UserAddr.ofBuffer, named.1]
        rfl

/-- A live caller offers a buffer in its registers, all of which may be accessed. -/
structure UserProcess.Offers (caller : UserProcess σ) (args : Registers) (kind : AccessKind)
    (wanted : Nat) : Prop where
  /-- The caller was not torn down. -/
  live : caller.terminated = false
  /-- The length of the buffer is not negative. -/
  length : args.a2.toNat? = some wanted
  /-- The buffer may be accessed over its length. -/
  buffer : Argument.buffer caller.memory args.a1 wanted kind = .ok (.ofBuffer args.a1)

namespace Request

variable {allowed : Access → Bool} {fd : Fd} {file : OpenFile}

/-- A buffer that is offered for a descriptor makes a transfer. -/
theorem transferArguments_of_offers (offers : caller.Offers args kind wanted)
    (named : Fd.ofRegister? args.a0 = some fd) (found : caller.files.resolve? fd = some file)
    (granted : allowed file.access = true) :
    transferArguments caller allowed kind args = .ok (fd, file, .ofBuffer args.a1, wanted) :=
  transferArguments_eq_ok_iff.2 ⟨offers.length, named, found, granted, offers.buffer⟩

/-- A transfer has a buffer that was offered. -/
theorem offers_of_transferArguments {buffer : UserAddr} (live : caller.terminated = false)
    (formed : transferArguments caller allowed kind args = .ok (fd, file, buffer, wanted)) :
    caller.Offers args kind wanted := by
  obtain ⟨held, -, -, -, checked⟩ := transferArguments_eq_ok_iff.1 formed
  exact ⟨live, held, Argument.buffer_eq checked ▸ checked⟩

/-- A buffer in paged memory that is offered may be accessed. -/
theorem allowsPart_of_offers {E : PagedMemory.Embedding σ} {memory : PagedMemory}
    (paged : caller.memory = E.embed memory) (offers : caller.Offers args kind wanted) :
    memory.AllowsPart kind (.ofBuffer args.a1) 0 wanted := by
  have checked := checkRange_of_buffer offers.buffer
  rw [paged, E.checkRange_embed] at checked
  exact PagedMemory.allowsPart_of_checkRange checked

end Request

namespace Step

/-- The first bytes of a buffer in user memory, as many as a call says it has moved; none
if it does not return a number. -/
def moved (turn : Turn σ) (memory : σ) (place : Register) : Bytes :=
  match turn.value with
  | .finished (.returned value) =>
    (value.toNat?.bind fun count =>
      (AddressSpace.readBytes memory (.ofBuffer place) count).toOption).getD []
  | _ => []

/-- What a transfer comes to: it does nothing on a machine that has halted or without a
buffer that is offered, and else moves what is wanted in some way. -/
inductive Transfers (kernel : Kernel) (caller : UserProcess σ) (args : Registers)
    (kind : AccessKind) (moves : Nat → Turn σ → Prop) (turn : Turn σ) : Prop where
  /-- The machine has halted. -/
  | halted (down : kernel.isHalted = true) (value : turn.value = .finished .halted)
    (traceless : turn.LeavesNoTrace kernel caller)
  /-- No buffer is offered. -/
  | refused (up : kernel.isHalted = false) (bare : ∀ wanted, ¬ caller.Offers args kind wanted)
    (value : turn.value = .finished (.returned SysError.sentinel))
    (traceless : turn.LeavesNoTrace kernel caller)
  /-- Bytes are moved through the buffer. -/
  | moved (up : kernel.isHalted = false) (wanted : Nat) (offers : caller.Offers args kind wanted)
    (done : moves wanted turn)

/-- A turn returns the number of some bytes. -/
def Counts (data : Bytes) (turn : Turn σ) : Prop :=
  ∃ value, turn.value = .finished (.returned value) ∧ value.toNat? = some data.length

/-- A turn has taken bytes from the console input into a buffer in paged memory. -/
structure Receives (E : PagedMemory.Embedding σ) (kernel : Kernel) (caller : UserProcess σ)
    (memory : PagedMemory) (args : Registers) (data : Bytes) (turn : Turn σ) : Prop where
  /-- The call returns their number. -/
  counts : turn.Counts data
  /-- They were the next of the input. -/
  head : data <+: kernel.console.buffer.input
  /-- They are gone from the input, and nothing else of the kernel has changed. -/
  kernel_eq : turn.kernel = { kernel with console := kernel.console.drain data.length }
  /-- They were laid over the buffer, and nothing else of the caller has changed. -/
  caller_eq : ∃ memory', turn.caller = { caller with memory := E.embed memory' } ∧
    memory.Overlaid (UserAddr.ofBuffer args.a1).value data memory' ∧
    memory'.readBytes (.ofBuffer args.a1) data.length = .ok data
  /-- No process was started. -/
  child_eq : turn.child = none

/-- A turn has added bytes of a buffer in paged memory to the console output. -/
structure Sends (kernel : Kernel) (caller : UserProcess σ) (memory : PagedMemory)
    (args : Registers) (data : Bytes) (turn : Turn σ) : Prop where
  /-- The call returns their number. -/
  counts : turn.Counts data
  /-- They are the first of the buffer. -/
  head : memory.readBytes (.ofBuffer args.a1) data.length = .ok data
  /-- They were added to the output, and nothing else of the kernel has changed. -/
  kernel_eq : turn.kernel = { kernel with console := kernel.console.emit data }
  /-- The caller has not changed. -/
  caller_eq : turn.caller = caller
  /-- No process was started. -/
  child_eq : turn.child = none

/-- What a call moved is what it counted, if that stands at the start of the buffer. -/
theorem moved_of_counts {turn : Turn σ} {memory : σ} {place : Register} {data : Bytes}
    (counts : turn.Counts data)
    (stands : AddressSpace.readBytes memory (.ofBuffer place) data.length = .ok data) :
    turn.moved memory place = data := by
  obtain ⟨value, returned, count⟩ := counts
  rw [moved, returned]
  simp only [count, Option.bind_some, stands]
  rfl

/-- A call that was refused has moved nothing. -/
theorem moved_of_refused {turn : Turn σ}
    (refused : turn.value = .finished (.returned SysError.sentinel)) (memory : σ)
    (place : Register) : turn.moved memory place = [] := by
  rw [moved, refused]
  rfl

/-- A call that found the machine halted has moved nothing. -/
theorem moved_of_halted {turn : Turn σ} (halted : turn.value = .finished .halted) (memory : σ)
    (place : Register) : turn.moved memory place = [] := by
  rw [moved, halted]

end Step

variable {E : PagedMemory.Embedding σ} {memory : PagedMemory}

namespace Service

/-- Reading the console into a buffer that is offered. -/
theorem read_stdin (kernel : Kernel) (paged : caller.memory = E.embed memory)
    (offers : caller.Offers args .write wanted)
    (wired : caller.files.resolve? Fd.stdin = some .stdin) :
    ∃ memory',
      memory.Overlaid (UserAddr.ofBuffer args.a1).value (kernel.console.supply wanted) memory' ∧
      read kernel caller Fd.stdin .stdin (.ofBuffer args.a1) wanted =
        ⟨{ kernel with console := kernel.console.drain (kernel.console.supply wanted).length },
          { caller with memory := E.embed memory' }, [], none,
          .answered (Register.ofNat (kernel.console.supply wanted).length)⟩ := by
  have allowed := Request.allowsPart_of_offers paged offers
  rw [← Nat.zero_add wanted] at allowed
  obtain ⟨memory', overlaid, moved⟩ :=
    Transfer.readInto_stdin (E := E) kernel.files kernel.console allowed
  refine ⟨memory', overlaid, ?_⟩
  rw [read, paged, moved]
  simp only [settle, DescriptorTable.assign_of_resolve? wired, Nat.zero_add]

/-- Writing a buffer that is offered to the console. -/
theorem write_stdout (kernel : Kernel) (paged : caller.memory = E.embed memory)
    (offers : caller.Offers args .read wanted)
    (wired : caller.files.resolve? Fd.stdout = some .stdout) :
    ∃ data, data.length = ConsoleDevice.reach kernel.console.writeLimit wanted ∧
      memory.Shows (UserAddr.ofBuffer args.a1).value data ∧
      write kernel caller Fd.stdout .stdout (.ofBuffer args.a1) wanted =
        ⟨{ kernel with console := kernel.console.emit data }, caller, [], none,
          .answered (Register.ofNat data.length)⟩ := by
  have allowed := Request.allowsPart_of_offers paged offers
  rw [← Nat.zero_add wanted] at allowed
  obtain ⟨data, length, shows, moved⟩ :=
    Transfer.writeFrom_stdout (E := E) kernel.files kernel.console allowed
  refine ⟨data, length, shows, ?_⟩
  rw [write, paged, moved]
  simp only [settle, DescriptorTable.assign_of_resolve? wired, Nat.zero_add, ← paged]

end Service

namespace Kernel

/-- On a running machine a call of a live process whose registers make no request is refused,
reported, and leaves no trace. -/
theorem refuses_dispatch (engine : Engine σ) (up : kernel.isHalted = false)
    (live : caller.terminated = false) {call : Syscall} {error : SysError}
    (malformed : Request.ofCall kernel.config caller args call = .error error) :
    (kernel.dispatch engine caller call.number args).value =
        .finished (.returned SysError.sentinel) ∧
      (kernel.dispatch engine caller call.number args).LeavesNoTrace kernel caller ∧
      .note (.callFailed caller.pid call.number error) ∈
        (kernel.dispatch engine caller call.number args).effects := by
  rw [dispatch_of_malformed engine up live malformed, Step.conclude_failed up]
  refine ⟨rfl, ⟨rfl, rfl, rfl, fun effect member => ?_⟩, ?_⟩
  · rcases List.mem_cons.1 member with rfl | later
    · exact ⟨_, rfl⟩
    · exact ⟨_, List.mem_singleton.1 later⟩
  · exact List.mem_cons_of_mem _ (List.mem_singleton.2 rfl)

/-- A call that moves bytes is a transfer if its registers are those of a buffer that is
offered, and only then. -/
theorem transfers_dispatch (engine : Engine σ) {call : Syscall} {moves : Nat → Turn σ → Prop}
    (formed : kernel.isHalted = false → ∀ wanted, caller.Offers args kind wanted → ∃ request,
      Request.ofCall kernel.config caller args call = .ok request ∧
        moves wanted ((request.perform engine kernel caller call.number).after
          [.note (.called caller.pid call.number args)]))
    (offered : caller.terminated = false → ∀ request,
      Request.ofCall kernel.config caller args call = .ok request →
        ∃ wanted, caller.Offers args kind wanted) :
    (kernel.dispatch engine caller call.number args).Transfers kernel caller args kind moves := by
  cases up : kernel.isHalted with
  | true =>
    rw [dispatch_of_isHalted up]
    exact .halted up rfl (Step.leavesNoTrace_still kernel caller _)
  | false =>
    cases live : caller.terminated with
    | true =>
      rw [dispatch_of_terminated engine up live]
      refine .refused up (fun wanted offers => ?_) rfl
        ((Step.leavesNoTrace_still kernel caller _).after_note _)
      rw [offers.live] at live
      cases live
    | false =>
      cases made : Request.ofCall kernel.config caller args call with
      | error error =>
        obtain ⟨value, traceless, -⟩ := refuses_dispatch engine up live made
        refine .refused up (fun wanted offers => ?_) value traceless
        obtain ⟨request, made', -⟩ := formed up wanted offers
        rw [made] at made'
        cases made'
      | ok request =>
        rw [dispatch_of_request engine up live made]
        obtain ⟨wanted, offers⟩ := offered live request made
        obtain ⟨same, made', moved⟩ := formed up wanted offers
        rw [made] at made'
        cases made'
        exact .moved up wanted offers moved

/-- A call that reads the console takes what one transfer takes, if a buffer is offered. -/
theorem transfers_dispatch_read (engine : Engine σ) (paged : caller.memory = E.embed memory)
    (wired : caller.terminated = false → caller.files.resolve? Fd.stdin = some .stdin)
    (input : args.a0 = 0) :
    (kernel.dispatch engine caller Syscall.read.number args).Transfers kernel caller args .write
      fun wanted turn =>
        turn.Receives E kernel caller memory args (kernel.console.supply wanted) := by
  refine transfers_dispatch engine (fun up wanted offers => ?_) ?_
  · have named : Fd.ofRegister? args.a0 = some Fd.stdin := by
      rw [input]
      decide
    have wired := wired offers.live
    refine ⟨.read Fd.stdin .stdin (.ofBuffer args.a1) wanted, ?_, ?_⟩
    · rw [Request.ofCall, Request.transferArguments_of_offers offers named wired rfl]
      rfl
    · obtain ⟨memory', overlaid, served⟩ := Service.read_stdin kernel paged offers wired
      have few := kernel.console.length_supply_le wanted
      have fits := Nat.le_trans few (Register.toInt_of_toNat? offers.length).2
      have allowed := (Request.allowsPart_of_offers paged offers).overlaid overlaid
      rw [Request.perform, served, Step.conclude_answered rfl up]
      exact
        { counts := ⟨_, rfl, Register.toNat?_ofNat fits⟩
          head := List.take_prefix _ _
          kernel_eq := rfl
          caller_eq :=
            ⟨memory', rfl, overlaid, PagedMemory.readBytes_of_shows allowed few overlaid.shows⟩
          child_eq := rfl }
  · intro live request made
    obtain ⟨⟨fd, file, buffer, wanted⟩, found, -⟩ := Request.exists_ok_of_map made
    exact ⟨wanted, Request.offers_of_transferArguments live found⟩

/-- A call that writes the console adds what one transfer adds, if a buffer is offered. -/
theorem transfers_dispatch_write (engine : Engine σ) (paged : caller.memory = E.embed memory)
    (wired : caller.terminated = false → caller.files.resolve? Fd.stdout = some .stdout)
    (output : args.a0 = 1) :
    (kernel.dispatch engine caller Syscall.write.number args).Transfers kernel caller args .read
      fun wanted turn =>
        ∃ data, data.length = ConsoleDevice.reach kernel.console.writeLimit wanted ∧
          turn.Sends kernel caller memory args data := by
  refine transfers_dispatch engine (fun up wanted offers => ?_) ?_
  · have named : Fd.ofRegister? args.a0 = some Fd.stdout := by
      rw [output]
      decide
    have wired := wired offers.live
    refine ⟨.write Fd.stdout .stdout (.ofBuffer args.a1) wanted, ?_, ?_⟩
    · rw [Request.ofCall, Request.transferArguments_of_offers offers named wired rfl]
      rfl
    · obtain ⟨data, length, shows, served⟩ := Service.write_stdout kernel paged offers wired
      have few : data.length ≤ wanted := length ▸ ConsoleDevice.reach_le _ wanted
      have fits := Nat.le_trans few (Register.toInt_of_toNat? offers.length).2
      have allowed := Request.allowsPart_of_offers paged offers
      refine ⟨data, length, ?_⟩
      rw [Request.perform, served, Step.conclude_answered rfl up]
      exact
        { counts := ⟨_, rfl, Register.toNat?_ofNat fits⟩
          head := PagedMemory.readBytes_of_shows allowed few shows
          kernel_eq := rfl
          caller_eq := rfl
          child_eq := rfl }
  · intro live request made
    obtain ⟨⟨fd, file, buffer, wanted⟩, found, -⟩ := Request.exists_ok_of_map made
    exact ⟨wanted, Request.offers_of_transferArguments live found⟩

end Kernel

namespace Step

variable {turn : Turn σ}

/-- A transfer ends its call, and starts nobody. -/
theorem Transfers.ends {moves : Nat → Turn σ → Prop}
    (transfers : turn.Transfers kernel caller args kind moves)
    (counts : ∀ wanted, moves wanted turn → (∃ data, turn.Counts data) ∧ turn.child = none) :
    (∃ completion, turn.value = .finished completion) ∧ turn.child = none := by
  cases transfers with
  | halted _ value traceless => exact ⟨⟨_, value⟩, traceless.child⟩
  | refused _ _ value traceless => exact ⟨⟨_, value⟩, traceless.child⟩
  | moved _ wanted _ done =>
    obtain ⟨⟨data, value, returned, -⟩, alone⟩ := counts wanted done
    exact ⟨⟨_, returned⟩, alone⟩

/-- What a call has received was the head of the input, and the rest is still there. -/
theorem Transfers.received {supply : Nat → Bytes}
    (transfers : turn.Transfers kernel caller args .write fun wanted turn =>
      turn.Receives E kernel caller memory args (supply wanted)) :
    turn.moved turn.caller.memory args.a1 ++ turn.kernel.console.buffer.input =
        kernel.console.buffer.input ∧
      turn.kernel.console.buffer.output = kernel.console.buffer.output := by
  cases transfers with
  | halted _ value traceless =>
    rw [moved_of_halted value, traceless.kernel]
    exact ⟨rfl, rfl⟩
  | refused _ _ value traceless =>
    rw [moved_of_refused value, traceless.kernel]
    exact ⟨rfl, rfl⟩
  | moved _ wanted _ done =>
    obtain ⟨memory', sameCaller, -, stands⟩ := done.caller_eq
    have received : turn.moved turn.caller.memory args.a1 = supply wanted := by
      refine moved_of_counts done.counts ?_
      rw [sameCaller, E.readBytes_embed, stands]
    rw [received, done.kernel_eq]
    exact ⟨List.prefix_iff_eq_append.1 done.head, rfl⟩

/-- What a call has sent was added to the output. -/
theorem Transfers.sent {count : Nat → Nat} (paged : caller.memory = E.embed memory)
    (transfers : turn.Transfers kernel caller args .read fun wanted turn =>
      ∃ data, data.length = count wanted ∧ turn.Sends kernel caller memory args data) :
    turn.kernel.console.buffer.output =
        kernel.console.buffer.output ++ turn.moved caller.memory args.a1 ∧
      turn.kernel.console.buffer.input = kernel.console.buffer.input := by
  cases transfers with
  | halted _ value traceless =>
    rw [moved_of_halted value, traceless.kernel, List.append_nil]
    exact ⟨rfl, rfl⟩
  | refused _ _ value traceless =>
    rw [moved_of_refused value, traceless.kernel, List.append_nil]
    exact ⟨rfl, rfl⟩
  | moved _ wanted _ done =>
    obtain ⟨data, -, sends⟩ := done
    have sent : turn.moved caller.memory args.a1 = data := by
      refine moved_of_counts sends.counts ?_
      rw [paged, E.readBytes_embed, sends.head]
    rw [sent, sends.kernel_eq]
    exact ⟨rfl, rfl⟩

end Step

end SyscallKernel
