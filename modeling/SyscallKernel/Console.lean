import SyscallKernel.Bytes

/-!
# The console

A console buffer queues input and captures output. The device in front of it may
move fewer bytes per call than it is asked to; what it does not take stays with
the caller, and what it does not hand out stays queued. Other consoles may do
otherwise: all that the kernel asks of one are two operations.
-/

namespace SyscallKernel

/-- What the kernel asks of a console. -/
class Console (δ : Type) where
  /-- Hands out input, of which at most so many bytes are asked for. -/
  read : δ → Nat → Bytes × δ
  /-- Takes output, and says how many bytes of it were accepted. -/
  write : δ → Bytes → Nat × δ

/-- An in-memory console. -/
structure ConsoleBuffer where
  /-- The input not yet read, oldest byte first. -/
  input : Bytes
  /-- The output not yet taken, oldest byte first. -/
  output : Bytes
  deriving DecidableEq

namespace ConsoleBuffer

/-- A console without input or output. -/
def empty : ConsoleBuffer := ⟨[], []⟩

/-- Queues input. -/
def push (console : ConsoleBuffer) (data : Bytes) : ConsoleBuffer :=
  { console with input := console.input ++ data }

/-- Removes at most `count` bytes of queued input. -/
def read (console : ConsoleBuffer) (count : Nat) : Bytes × ConsoleBuffer :=
  (console.input.take count, { console with input := console.input.drop count })

/-- Appends to the captured output. -/
def write (console : ConsoleBuffer) (data : Bytes) : ConsoleBuffer :=
  { console with output := console.output ++ data }

/-- Removes the captured output. -/
def takeOutput (console : ConsoleBuffer) : Bytes × ConsoleBuffer :=
  (console.output, { console with output := [] })

end ConsoleBuffer

/-- A console device: a buffer, and how many bytes one call may move. -/
structure ConsoleDevice where
  /-- The buffer behind the device. -/
  buffer : ConsoleBuffer
  /-- The most bytes handed out per read; no bound if absent. -/
  readLimit : Option Nat
  /-- The most bytes taken per write; no bound if absent. -/
  writeLimit : Option Nat
  deriving DecidableEq

namespace ConsoleDevice

/-- A device without limits over an empty buffer. -/
def unlimited : ConsoleDevice := ⟨.empty, none, none⟩

/-- A number cut down to a limit, if there is one. -/
def cap (limit : Option Nat) (count : Nat) : Nat := limit.elim count (min count)

/-- Reads at most `count` bytes, and no more than the device hands out at once. -/
def read (device : ConsoleDevice) (count : Nat) : Bytes × ConsoleDevice :=
  let (bytes, buffer) := device.buffer.read (cap device.readLimit count)
  (bytes, { device with buffer })

/-- Writes as much of `data` as the device takes at once, and says how much. -/
def write (device : ConsoleDevice) (data : Bytes) : Nat × ConsoleDevice :=
  let accepted := data.take (cap device.writeLimit data.length)
  (accepted.length, { device with buffer := device.buffer.write accepted })

instance : Console ConsoleDevice := ⟨read, write⟩

end ConsoleDevice

end SyscallKernel
