import SyscallKernel.Proofs.Kernel.FileWrites
import SyscallKernel.Proofs.Machine.FileReads

/-!
# Writes to open files in a running machine

Every call to write an open file, in any world that a run reaches, comes to one plain write of
its buffer at the cursor of its handle, however many pages the buffer spans and wherever the
contents end.
-/

namespace SyscallKernel.World

variable {σ : Type} [AddressSpace σ] {world : World σ} {log : List Effect} {engine : Engine σ}
  {config : Config} {console : ConsoleDevice}

/-- In any world that a run reaches, unless the machine has halted, a call of any process to
write any open file comes to one plain write to the contents that its handle shares. -/
theorem Run.writes_plainly (run : Run engine config console log world)
    (up : world.machine.kernel.isHalted = false) (E : PagedMemory.Embedding σ)
    (caller : UserProcess σ) (member : caller ∈ world.processes) (memory : PagedMemory)
    (paged : caller.memory = E.embed memory) (args : Registers) (fd : Fd)
    (named : Fd.ofRegister? args.a0 = some fd) (handle : FileHandle)
    (found : caller.files.resolve? fd = some (.file handle)) :
    ∃ contents, world.machine.kernel.files.data[handle.data]? = some contents ∧
      (world.turn caller .write args).WritesPlainly world.machine.kernel caller memory args fd
        handle contents := by
  obtain ⟨live, both, contents, shared⟩ := run.open_file member found
  have granted : handle.access.writes = true := by
    rw [both]
    rfl
  exact ⟨contents, shared, Kernel.writesPlainly_dispatch world.machine.engine up live paged named
    found granted shared⟩

/-- A process writes three bytes into a file and creates the file again, which empties it. What it
then writes through its old descriptor stands behind a gap of three zero bytes. It is refused a
buffer that runs past the end of its page. -/
theorem writes_plainly_behind_a_gap :
    ∃ log, ∃ world : World ImageMemory, Run paging {} narrow log world ∧
      world.machine.kernel.isHalted = false ∧ ∃ caller ∈ world.processes, ∃ handle,
        caller.files.resolve? ⟨2, by decide⟩ = some (.file handle) ∧ handle.offset = 3 ∧
        (∃ contents, world.machine.kernel.files.data[handle.data]? = some contents ∧
          (world.turn caller .write ⟨2, 18, 2, 0⟩).WritesPlainly world.machine.kernel caller
            caller.memory.paged ⟨2, 18, 2, 0⟩ ⟨2, by decide⟩ handle contents) ∧
        (world.turn caller .write ⟨2, 18, 2, 0⟩).value = .finished (.returned 2) ∧
        (world.turn caller .write ⟨2, 18, 2, 0⟩).kernel.files.contents handle.data =
          [0, 0, 0, 103, 104] ∧
        (world.turn caller .write ⟨2, 1020, 9, 0⟩).value = .finished (.returned (-1)) := by
  have switchedOn : Run paging {} narrow [] _ := .start
  have rooted : Run paging {} narrow _ lonely := switchedOn.step (.spawn none idler)
  have typed : Run paging {} narrow _ scribbler := rooted.step (.compute ⟨1⟩ _)
  obtain ⟨_, made, alone⟩ := typed.call_returns [] [] ⟨rfl, rfl⟩ .create ⟨16, 0, 0, 0⟩
    (by decide +kernel : _ = Progress.finished (.returned 2)) (by decide +kernel)
  obtain ⟨_, filled, alone⟩ := made.call_returns [] [] alone .write ⟨2, 18, 3, 0⟩
    (by decide +kernel : _ = Progress.finished (.returned 3)) (by decide +kernel)
  obtain ⟨_, emptied, alone⟩ := filled.call_returns [] [] alone .create ⟨16, 0, 0, 0⟩
    (by decide +kernel : _ = Progress.finished (.returned 3)) (by decide +kernel)
  refine ⟨_, _, emptied, by decide +kernel, _,
    List.mem_append_left _ (List.mem_of_mem_head? (by rw [alone.1]; rfl)),
    ⟨⟨0, 0⟩, 0, 3, .readWrite, ⟨1⟩⟩, by decide +kernel, rfl, ?_, by decide +kernel,
    by decide +kernel, by decide +kernel⟩
  exact emptied.writes_plainly (by decide +kernel) .image _
    (List.mem_append_left _ (List.mem_of_mem_head? (by rw [alone.1]; rfl))) _
    (ImageMemory.eq_embed (by decide +kernel)) _ _ (by decide) _ (by decide +kernel)

end SyscallKernel.World
