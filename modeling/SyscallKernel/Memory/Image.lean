import SyscallKernel.Memory.Space

/-!
# The memory of a loaded program

Paged memory whose range checks may be waived. With the checks waived a transfer
can meet a fault half-way, after it has begun to move bytes; reads and stores
themselves still fault as they do in plain paged memory.
-/

namespace SyscallKernel

/-- Paged memory with a switch for its range checks. -/
structure ImageMemory where
  /-- The pages of the program. -/
  paged : PagedMemory
  /-- Whether range checks succeed without looking. -/
  waivesChecks : Bool
  deriving DecidableEq

instance : AddressSpace ImageMemory where
  checkRange memory addr len kind :=
    if memory.waivesChecks then .ok () else memory.paged.checkRange addr len kind
  readBytes memory addr len := memory.paged.readBytes addr len
  writeBytes memory addr data :=
    (memory.paged.writeBytes addr data).map fun paged => { memory with paged }

end SyscallKernel
