import SyscallKernel.Memory.Image
import SyscallKernel.Process.Program

/-!
# Program descriptions

A program is described by the memory it needs: a number of pages, bytes to load,
pages to protect and pages to leave out, and by what its process does first. A
library of described programs is an engine.
-/

namespace SyscallKernel

/-- The description of a program. -/
structure Program where
  /-- The number of pages. -/
  pages : Nat
  /-- The bytes to load, in order, each at its address. -/
  contents : List (UserAddr × Bytes)
  /-- The pages to mark read-only. -/
  protectedPages : List Nat
  /-- The pages to invalidate. -/
  missingPages : List Nat
  /-- Whether range checks of the memory are waived. -/
  waivesChecks : Bool
  /-- What the process does first. -/
  start : Start
  deriving DecidableEq

namespace Program

/-- Loads byte strings one after the other. -/
def loadAll (memory : PagedMemory) : List (UserAddr × Bytes) → Except Fault PagedMemory
  | [] => .ok memory
  | (addr, data) :: rest =>
    match memory.load addr data with
    | .error fault => .error fault
    | .ok memory => loadAll memory rest

/-- The memory of a new process. -/
def build (program : Program) : Except SysError ImageMemory :=
  match loadAll (.ofPageCount program.pages) program.contents with
  | .error fault => .error fault.toSysError
  | .ok loaded =>
    let guarded := program.protectedPages.foldl PagedMemory.protect loaded
    .ok ⟨program.missingPages.foldl PagedMemory.unmap guarded, program.waivesChecks⟩

end Program

/-- Programs by name. -/
abbrev ProgramLibrary := List (String × Program)

namespace ProgramLibrary

/-- The program an image names. -/
def find? (library : ProgramLibrary) (image : ProgramImage) : Option Program :=
  library.lookup image.name.text

/-- The engine that runs the programs of a library. -/
def engine (library : ProgramLibrary) : Engine ImageMemory where
  load image := (library.find? image).elim (.error .notFound) Program.build
  start image := (library.find? image).elim .park Program.start

end ProgramLibrary

end SyscallKernel
