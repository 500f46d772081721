import SyscallKernel.Kernel.State
import SyscallKernel.Process.User

/-!
# Turns of a call

A call runs in turns. A turn ends with the call finished or suspended in a join,
and leaves behind the kernel, the caller, what happened outside the tables, and
perhaps a process that was started.
-/

namespace SyscallKernel

/-- How the engine continues a caller. -/
inductive Completion where
  /-- Resume the caller with this value in its return register. -/
  | returned (value : Register)
  /-- The caller has ended. -/
  | exited
  /-- The machine has halted. -/
  | halted
  deriving DecidableEq, Repr

/-- A join that waits for its child: the child, and the place for its status. -/
structure PendingJoin where
  /-- The child waited for. -/
  child : Pid
  /-- Where the status goes, if anywhere. -/
  status : Option UserAddr
  deriving DecidableEq

/-- Where a call stands at the end of a turn. -/
inductive Progress where
  /-- The call is over. -/
  | finished (completion : Completion)
  /-- The caller is blocked until it is woken. -/
  | suspended (join : PendingJoin)
  deriving DecidableEq

/-- How performing a request went. -/
inductive Outcome where
  /-- The call returns a value. -/
  | answered (value : Register)
  /-- The call fails. -/
  | failed (error : SysError)
  /-- The call waits for a child. -/
  | waiting (join : PendingJoin)
  deriving DecidableEq

/-- What a part of a call leaves behind: the kernel, the caller, the effects in
order, a process it started, and a value. -/
structure Step (σ α : Type) where
  /-- The kernel afterwards. -/
  kernel : Kernel
  /-- The caller afterwards. -/
  caller : UserProcess σ
  /-- What happened outside the tables, in order. -/
  effects : List Effect
  /-- A process that was started. -/
  child : Option (UserProcess σ)
  /-- The answer. -/
  value : α

/-- A turn of a call. -/
abbrev Turn (σ : Type) := Step σ Progress

namespace Step

variable {σ α : Type}

/-- A step that changes nothing. -/
def still (kernel : Kernel) (caller : UserProcess σ) (value : α) : Step σ α :=
  ⟨kernel, caller, [], none, value⟩

/-- The step with effects put in front. -/
def after (effects : List Effect) (step : Step σ α) : Step σ α :=
  { step with effects := effects ++ step.effects }

/-- The end of a turn whose call may fail or wait. A halted machine resumes nobody;
an error is reported under the number of the call and becomes the sentinel. -/
def conclude (step : Step σ Outcome) (number : Nat) : Turn σ :=
  match step.value with
  | .waiting pending => { step with value := .suspended pending }
  | .answered value =>
    { step with value := .finished (if step.kernel.isHalted then .halted else .returned value) }
  | .failed error =>
    if step.kernel.isHalted then { step with value := .finished .halted }
    else
      { step with
        effects := step.effects ++ [.note (.callFailed step.caller.pid number error)]
        value := .finished (.returned error.returnValue) }

end Step

namespace Reaction

/-- A reaction of the kernel as a step of a caller. -/
def toStep {σ α : Type} (reaction : Reaction α) (caller : UserProcess σ) : Step σ α :=
  ⟨reaction.kernel, caller, reaction.effects, none, reaction.value⟩

end Reaction

end SyscallKernel
