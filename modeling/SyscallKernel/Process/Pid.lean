import SyscallKernel.Register

/-!
# Process identifiers

Pids handed out by the kernel are positive and fit in a signed return register.
Pids that come from elsewhere are unsigned 32-bit numbers.
-/

namespace SyscallKernel

/-- A process identifier. -/
structure Pid where
  /-- The number of the process. -/
  number : Nat
  deriving DecidableEq, Repr

namespace Pid

/-- The largest pid handed out: it still fits in a return register. -/
def limit : Nat := 2147483647

/-- The pid a register names; only positive registers name one. -/
def ofRegister? (raw : Register) : Option Pid :=
  match raw.toNat? with
  | none => none
  | some 0 => none
  | some (n + 1) => some ⟨n + 1⟩

/-- The pid as a register; numbers past `limit` come out negative. -/
def toRegister (pid : Pid) : Register := Register.ofNat pid.number

/-- The pid to try after this one: pids go round after `limit`. -/
def next (pid : Pid) : Pid := if limit ≤ pid.number then ⟨1⟩ else ⟨pid.number + 1⟩

/-- The text of a pid. -/
def render (pid : Pid) : String := toString pid.number

/-- The debug text of a pid. -/
def describe (pid : Pid) : String := s!"Pid({pid.render})"

/-- The debug text of a pid that may be absent. -/
def describe? : Option Pid → String
  | none => "None"
  | some pid => s!"Some({pid.describe})"

/-- Two pids with the same number are the same. -/
@[ext] theorem ext {a b : Pid} (h : a.number = b.number) : a = b := by
  cases a; cases b; cases h; rfl

/-- The pid after a pid that fits in a register is positive and fits as well. -/
theorem next_mem (pid : Pid) : 1 ≤ pid.next.number ∧ pid.next.number ≤ limit := by
  unfold next
  split
  · exact ⟨Nat.le_refl 1, by decide⟩
  · exact ⟨Nat.le_add_left 1 _, Nat.lt_of_not_le ‹_›⟩

end Pid

end SyscallKernel
