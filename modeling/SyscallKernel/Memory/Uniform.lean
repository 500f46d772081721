import SyscallKernel.Memory.Space

/-!
# Uniform memory

An address space in which all of the 64-bit range is mapped and every byte reads
the same. It has no pages, so it shows how strings behave when nothing but the
end of the address space can stop them.
-/

namespace SyscallKernel

/-- A memory in which every address holds the same byte; stores are discarded. -/
structure UniformMemory where
  /-- The byte at every address. -/
  byte : UInt8
  deriving DecidableEq, Repr

instance : AddressSpace UniformMemory where
  checkRange _ _ _ _ := .ok ()
  readBytes memory _ len := .ok (List.replicate len memory.byte)
  writeBytes memory _ _ := .ok memory

end SyscallKernel
