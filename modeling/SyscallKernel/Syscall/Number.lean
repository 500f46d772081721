/-!
# System calls and their numbers

The ten calls a user can make. Every other number is unknown; it still has a name
in the log.
-/

namespace SyscallKernel

/-- A system call. -/
inductive Syscall where
  /-- Halt the machine. -/
  | halt
  /-- End the caller. -/
  | exit
  /-- Start a program as a child of the caller. -/
  | exec
  /-- Wait for a child and reap it. -/
  | join
  /-- Create or empty a file and open it. -/
  | create
  /-- Open a file. -/
  | openFile
  /-- Read from a descriptor. -/
  | read
  /-- Write to a descriptor. -/
  | write
  /-- Close a descriptor. -/
  | close
  /-- Remove a file name. -/
  | unlink
  deriving DecidableEq, Repr

namespace Syscall

/-- All calls, in the order of their numbers. -/
def all : List Syscall :=
  [halt, exit, exec, join, create, openFile, read, write, close, unlink]

/-- The number of a call. -/
def number : Syscall → Nat
  | halt => 0
  | exit => 1
  | exec => 2
  | join => 3
  | create => 4
  | openFile => 5
  | read => 6
  | write => 7
  | close => 8
  | unlink => 9

/-- The call with a number. -/
def ofNumber? (n : Nat) : Option Syscall := all[n]?

/-- The name of a call in the log. -/
def name : Syscall → String
  | halt => "halt"
  | exit => "exit"
  | exec => "exec"
  | join => "join"
  | create => "creat"
  | openFile => "open"
  | read => "read"
  | write => "write"
  | close => "close"
  | unlink => "unlink"

/-- The name of a call number in the log. -/
def nameOfNumber (n : Nat) : String := (ofNumber? n).elim "unknown" name

/-- Numbering and its inverse agree. -/
theorem ofNumber?_eq_some_iff {n : Nat} {call : Syscall} :
    ofNumber? n = some call ↔ call.number = n := by
  constructor
  · intro h
    have hn : n < all.length := (List.getElem?_eq_some_iff.1 h).1
    match n, hn with
    | 0, _ | 1, _ | 2, _ | 3, _ | 4, _ | 5, _ | 6, _ | 7, _ | 8, _ | 9, _ =>
      cases h; rfl
    | n + 10, hn => exact absurd hn (by simp [all])
  · rintro rfl
    cases call <;> rfl

end Syscall

end SyscallKernel
