import SyscallKernel.Bytes
import SyscallKernel.Memory.Fault

/-!
# Pages

A page owns a frame of `pageSize` bytes and four flags. An access is refused by
the flags alone, absence before protection; a store lays bytes over the frame and
marks the page used and dirty.
-/

namespace SyscallKernel

/-- The flags of a page-table entry. -/
structure PageFlags where
  /-- The entry maps a frame. -/
  valid : Bool
  /-- The frame may not be written by the user. -/
  readOnly : Bool
  /-- The page was accessed. -/
  used : Bool
  /-- The page was written. -/
  dirty : Bool
  deriving DecidableEq, Repr

namespace PageFlags

/-- The flags of a new page: valid and writable. -/
def fresh : PageFlags := ⟨true, false, false, false⟩

/-- The flags as a number: valid 1, read-only 2, used 4, dirty 8. -/
def bits (flags : PageFlags) : Nat :=
  flags.valid.toNat + 2 * flags.readOnly.toNat + 4 * flags.used.toNat + 8 * flags.dirty.toNat

/-- The flags after a store. -/
def stored (flags : PageFlags) : PageFlags := { flags with used := true, dirty := true }

/-- What speaks against an access, if anything does. -/
def refusal? (flags : PageFlags) (kind : AccessKind) : Option FaultKind :=
  if flags.valid = false then some .unmapped
  else if kind = .write ∧ flags.readOnly then some .readOnly
  else none

end PageFlags

/-- A page-table entry together with the frame it maps. -/
structure Page where
  /-- The flags of the entry. -/
  flags : PageFlags
  /-- The bytes of the frame. -/
  frame : Bytes
  /-- A frame fills a page. -/
  length_frame : frame.length = pageSize
  deriving DecidableEq

namespace Page

/-- A valid and writable page of zero bytes. -/
def zero : Page := ⟨.fresh, List.replicate pageSize 0, List.length_replicate⟩

/-- The page after `data` was stored from `offset` on; what does not fit is left out. -/
def store (page : Page) (offset : Nat) (data : Bytes) : Page where
  flags := page.flags.stored
  frame := page.frame.overlay offset data
  length_frame := by rw [Bytes.length_overlay, page.length_frame]

/-- At most `count` bytes of the page from `offset` on. -/
def fetch (page : Page) (offset count : Nat) : Bytes := (page.frame.drop offset).take count

/-- The page, marked read-only. -/
def protect (page : Page) : Page := { page with flags := { page.flags with readOnly := true } }

/-- The page, marked invalid. -/
def invalidate (page : Page) : Page := { page with flags := { page.flags with valid := false } }

@[simp] theorem length_fetch (page : Page) (offset count : Nat) :
    (page.fetch offset count).length = min count (pageSize - offset) := by
  simp [fetch, page.length_frame]

end Page

end SyscallKernel
