import SyscallKernel.Proofs.Kernel.Cursors
import SyscallKernel.Proofs.Kernel.FileReads
import SyscallKernel.Proofs.Machine.Aftermath

/-!
# Reads of open files in a running machine

Whatever processes and memories do, a descriptor that refers to a file has a handle that
permits both directions and shares contents that are there. So every call to read it, in any world
that a run reaches, comes to one plain read of these contents.
-/

namespace SyscallKernel

variable {σ : Type} {kernel kernel' : Kernel} {effects : List Effect}
  {processes before after bystanders : List (UserProcess σ)}

/-- All handles of some processes permit both directions. -/
def PermitBoth (processes : List (UserProcess σ)) : Prop :=
  ∀ process ∈ processes, ∀ handle ∈ process.files.handles, handle.access = .readWrite

variable [AddressSpace σ]

namespace Kernel

/-- After an act every handle of those who took part follows the handles of one of them. -/
theorem Act.follows (act : kernel.Act before effects kernel' after)
    (stocked : Stocked kernel (before ++ bystanders)) :
    ∀ process ∈ after, ∀ handle ∈ process.files.handles,
      ∃ earlier ∈ before, handle.Follows kernel'.files earlier.files.handles := by
  intro process member handle held
  cases act with
  | rest console => cases member
  | halt pid => cases member
  | spawn engine parent image =>
    cases started : (kernel.spawn engine parent image).value with
    | error error =>
      rw [started] at member
      cases member
    | ok child =>
      rw [started] at member
      cases List.mem_singleton.1 member
      rw [handles_of_spawn started] at held
      cases held
  | turn engine caller memory number args =>
    have serves : kernel.Serves { caller with memory } := fun handle held =>
      stocked.data_lt List.mem_cons_self held
    have follows := follows_dispatch engine serves number args
    rcases List.mem_cons.1 member with rfl | child
    · exact ⟨caller, List.mem_cons_self, follows.caller handle held⟩
    · rw [follows.child process (Option.mem_toList.1 child)] at held
      cases held
  | poll _ caller child => exact ⟨process, member, .same held⟩
  | resume caller pending =>
    have follows := kernel.follows_resume caller pending
    rcases List.mem_cons.1 member with rfl | child
    · exact ⟨caller, List.mem_cons_self, follows.caller handle held⟩
    · rw [follows.child process (Option.mem_toList.1 child)] at held
      cases held
  | terminate process' how =>
    cases List.mem_singleton.1 member
    exact ⟨process', List.mem_cons_self, .same (mem_handles_of_terminate held)⟩
  | compute processes pid change =>
    obtain ⟨old, listed, rfl⟩ := List.mem_map.1 member
    refine ⟨old, listed, .same ?_⟩
    split at held
    · exact held
    · exact held

/-- No act takes a direction from a handle. -/
theorem Act.permitBoth (act : kernel.Act before effects kernel' after)
    (stocked : Stocked kernel (before ++ bystanders)) (both : PermitBoth (before ++ bystanders)) :
    PermitBoth (after ++ bystanders) := by
  intro process member handle held
  rcases List.mem_append.1 member with moved | stayed
  · obtain ⟨earlier, listed, follows⟩ := act.follows stocked process moved handle held
    exact follows.access (both earlier (List.mem_append_left _ listed))
  · exact both process (List.mem_append_right _ stayed) handle held

end Kernel

namespace World

variable {world : World σ} {log : List Effect} {engine : Engine σ} {config : Config}
  {console : ConsoleDevice}

/-- In every world all handles permit both directions. -/
theorem Run.permitBoth (run : Run engine config console log world) :
    PermitBoth world.processes := by
  have holds := @Run.holds σ _ _ _ (fun kernel processes => Stocked kernel processes ∧
    PermitBoth processes) engine config console ⟨Stocked.new config console, fun _ member =>
      nomatch member⟩
    (fun same inv => ⟨inv.1.perm same, fun process member =>
      inv.2 process (same.mem_iff.2 member)⟩)
    (fun act inv => ⟨act.stocked inv.1, act.permitBoth inv.1 inv.2⟩) run
  exact holds.2

/-- In every world a descriptor that refers to a file belongs to a live process, and its handle
permits both directions and shares contents that are there. -/
theorem Run.open_file (run : Run engine config console log world) {caller : UserProcess σ}
    (member : caller ∈ world.processes) {fd : Fd} {handle : FileHandle}
    (found : caller.files.resolve? fd = some (.file handle)) :
    caller.terminated = false ∧ handle.access = .readWrite ∧
      ∃ contents, world.machine.kernel.files.data[handle.data]? = some contents := by
  have held := DescriptorTable.mem_handles_of_resolve? found
  refine ⟨?_, run.permitBoth caller member handle held,
    _, List.getElem?_eq_getElem (run.stocked.data_lt member held)⟩
  cases torn : caller.terminated with
  | false => rfl
  | true =>
    rw [run.stocked.ended caller member torn] at held
    cases held

/-- In any world that a run reaches, unless the machine has halted, a call of any process to
read any open file comes to one plain read of the contents that its handle shares. -/
theorem Run.reads_plainly (run : Run engine config console log world)
    (up : world.machine.kernel.isHalted = false) (E : PagedMemory.Embedding σ)
    (caller : UserProcess σ) (member : caller ∈ world.processes) (memory : PagedMemory)
    (paged : caller.memory = E.embed memory) (args : Registers) (fd : Fd)
    (named : Fd.ofRegister? args.a0 = some fd) (handle : FileHandle)
    (found : caller.files.resolve? fd = some (.file handle)) :
    ∃ contents, world.machine.kernel.files.data[handle.data]? = some contents ∧
      (world.turn caller .read args).ReadsPlainly E world.machine.kernel caller memory args fd
        handle contents := by
  obtain ⟨live, both, contents, shared⟩ := run.open_file member found
  have granted : handle.access.reads = true := by
    rw [both]
    rfl
  have plainly := Kernel.readsPlainly_dispatch world.machine.engine up live paged named found granted
  rw [FileStore.contents, List.getD_eq_getElem?_getD, shared, Option.getD_some] at plainly
  exact ⟨contents, shared, plainly⟩

/-- A process whose memory names a file, with the bytes to put into it behind the name. -/
def scribbler : World ImageMemory :=
  { lonely with machine := lonely.machine.compute ⟨1⟩ scrawl }

/-- A process writes three bytes into a file, opens it again and reads two. It is refused a
buffer that runs past the end of its page, and then asks for more than is left and gets it. -/
theorem reads_plainly_what_is_left :
    ∃ log, ∃ world : World ImageMemory, Run paging {} narrow log world ∧
      world.machine.kernel.isHalted = false ∧ ∃ caller ∈ world.processes, ∃ handle,
        caller.files.resolve? ⟨3, by decide⟩ = some (.file handle) ∧ handle.offset = 2 ∧
        (∃ contents, world.machine.kernel.files.data[handle.data]? = some contents ∧
          (world.turn caller .read ⟨3, 64, 9, 0⟩).ReadsPlainly .image world.machine.kernel caller
            caller.memory.paged ⟨3, 64, 9, 0⟩ ⟨3, by decide⟩ handle contents) ∧
        (world.turn caller .read ⟨3, 64, 9, 0⟩).value = .finished (.returned 1) ∧
        (world.turn caller .read ⟨3, 1020, 9, 0⟩).value = .finished (.returned (-1)) := by
  have switchedOn : Run paging {} narrow [] _ := .start
  have rooted : Run paging {} narrow _ lonely := switchedOn.step (.spawn none idler)
  have typed : Run paging {} narrow _ scribbler := rooted.step (.compute ⟨1⟩ _)
  obtain ⟨_, made, alone⟩ := typed.call_returns [] [] ⟨rfl, rfl⟩ .create ⟨16, 0, 0, 0⟩
    (by decide +kernel : _ = Progress.finished (.returned 2)) (by decide +kernel)
  obtain ⟨_, filled, alone⟩ := made.call_returns [] [] alone .write ⟨2, 18, 3, 0⟩
    (by decide +kernel : _ = Progress.finished (.returned 3)) (by decide +kernel)
  obtain ⟨_, reopened, alone⟩ := filled.call_returns [] [] alone .openFile ⟨16, 0, 0, 0⟩
    (by decide +kernel : _ = Progress.finished (.returned 3)) (by decide +kernel)
  obtain ⟨_, started, alone⟩ := reopened.call_returns [] [] alone .read ⟨3, 64, 2, 0⟩
    (by decide +kernel : _ = Progress.finished (.returned 2)) (by decide +kernel)
  refine ⟨_, _, started, by decide +kernel, _,
    List.mem_append_left _ (List.mem_of_mem_head? (by rw [alone.1]; rfl)),
    ⟨⟨0, 0⟩, 0, 2, .readWrite, ⟨1⟩⟩, by decide +kernel, rfl, ?_, by decide +kernel,
    by decide +kernel⟩
  exact started.reads_plainly (by decide +kernel) .image _
    (List.mem_append_left _ (List.mem_of_mem_head? (by rw [alone.1]; rfl))) _
    (ImageMemory.eq_embed (by decide +kernel)) _ _ (by decide) _ (by decide +kernel)

end World

end SyscallKernel
