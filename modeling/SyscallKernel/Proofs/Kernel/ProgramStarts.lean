import SyscallKernel.Proofs.Kernel.ArgumentVectors
import SyscallKernel.Proofs.Kernel.Deeds

/-!
# Calls that start a program

A call that starts a program hands the engine the name and the argument vector its registers
describe, and nothing else: the engine is asked about that one image, and either one child is
started from it or nothing is. Registers that describe no vector are refused for what is wrong
with them first, before the engine is asked at all.
-/

namespace SyscallKernel

variable {σ : Type}

/-- A death starts nothing. -/
theorem ProcessTable.starts_obituary (pid : Pid) (how : Termination) (wakes : List Pid) :
    Effect.starts (obituary pid how wakes) = [] := Effect.starts_note_wakes _ wakes

namespace Kernel

variable {engine engine' : Engine σ} {kernel : Kernel} {parent : Option Pid} {image : ProgramImage}

/-- What a new process does first starts nothing. -/
theorem starts_begin (kernel : Kernel) (process : UserProcess σ) (start : Start) :
    Effect.starts (kernel.begin process start).effects = [] := by
  rw [← Effect.starts_told]
  rcases kernel.begin_cases process start with ⟨-, silent⟩ | ⟨how, table, news, -, -, told⟩
  · rw [silent]
    rfl
  · rw [told, ProcessTable.starts_obituary]

/-- Spawning a program starts one process from its image, or nothing. -/
theorem spawn_cases (engine : Engine σ) (kernel : Kernel) (parent : Option Pid)
    (image : ProgramImage) :
    (∃ error, (kernel.spawn engine parent image).value = .error error ∧
        Effect.starts (kernel.spawn engine parent image).effects = []) ∨
      ∃ child, (kernel.spawn engine parent image).value = .ok child ∧
        Effect.starts (kernel.spawn engine parent image).effects = [(child.pid, image)] := by
  cases spawned : (kernel.spawn engine parent image).value with
  | error error =>
    refine .inl ⟨error, rfl, ?_⟩
    rw [spawn_of_error spawned]
    rfl
  | ok child =>
    refine .inr ⟨child, rfl, ?_⟩
    unfold spawn at spawned ⊢
    split at spawned
    · cases spawned
    · rename_i running
      rw [if_neg running]
      cases loaded : engine.load image with
      | error error =>
        simp only [loaded] at spawned
        cases spawned
      | ok memory =>
        simp only [loaded, registerProcess] at spawned ⊢
        cases registered : kernel.processes.register parent with
        | error error =>
          simp only [registered] at spawned
          cases spawned
        | ok enrolled =>
          simp only [registered] at spawned ⊢
          cases spawned
          rw [pid_begin, Effect.starts_append, starts_begin, List.append_nil]
          rfl

/-- A program that can be loaded is started if there is room for its process. -/
theorem spawn_of_loaded {memory : σ} {pid : Pid} (up : kernel.isHalted = false)
    (loaded : engine.load image = .ok memory)
    (room : (kernel.registerProcess parent).value = .ok pid) :
    ∃ child, child.pid = pid ∧ (kernel.spawn engine parent image).value = .ok child := by
  refine ⟨((kernel.registerProcess parent).kernel.begin (.fresh pid memory)
    (engine.start image)).value, pid_begin .., ?_⟩
  rw [spawn, up, if_neg Bool.false_ne_true]
  simp only [loaded, room]

/-- Of an engine nothing matters but what it makes of the image. -/
theorem spawn_congr (loads : engine'.load image = engine.load image)
    (begins : engine'.start image = engine.start image) :
    kernel.spawn engine' parent image = kernel.spawn engine parent image := by
  rw [spawn, spawn, loads, begins]

end Kernel

variable [AddressSpace σ]

/-- How registers are read as an argument vector. -/
structure PagedMemory.DecodesVector (E : PagedMemory.Embedding σ) (config : Config)
    (memory : PagedMemory) (argv argc : Register) : Prop where
  /-- They are read as the strings of the vector they describe. -/
  accepts : ∀ args, Argument.vector config (E.embed memory) argv argc = .ok args ↔
    memory.view.HoldsVector config argv argc args
  /-- They are refused for what is wrong with them first. -/
  refuses : ∀ error, Argument.vector config (E.embed memory) argv argc = .error error ↔
    memory.view.VectorFlaw config argv argc error

/-- The registers of a call describe a program: its name, and its argument vector. -/
structure UserProcess.Describes (caller : UserProcess σ) (view : ByteView) (config : Config)
    (args : Registers) (image : ProgramImage) : Prop where
  /-- One register leads to the name. -/
  name : Argument.fileName caller.memory args.a0 = .ok image.name
  /-- Two registers describe the arguments. -/
  args : view.HoldsVector config args.a2 args.a1 image.args

/-- What a call to start a program comes to. -/
structure Step.StartsProgram (engine : Engine σ) (kernel : Kernel) (caller : UserProcess σ)
    (view : ByteView) (args : Registers) (turn : Turn σ) : Prop where
  /-- It starts one child from the image that the registers describe, or nothing. -/
  only : turn.child = none ∧ Effect.starts turn.effects = [] ∨
    ∃ child image, turn.child = some child ∧ Effect.starts turn.effects = [(child.pid, image)] ∧
      caller.Describes view kernel.config args image
  /-- A program that the engine loads is started if there is room for its process. -/
  starts : kernel.isHalted = false → caller.terminated = false →
    ∀ image, caller.Describes view kernel.config args image →
      ∀ memory, engine.load image = .ok memory →
        ∀ pid, (kernel.registerProcess (some caller.pid)).value = .ok pid →
          Effect.starts turn.effects = [(pid, image)]
  /-- The engine is asked about that image only. -/
  asks : ∀ engine' : Engine σ,
    (∀ image, caller.Describes view kernel.config args image →
      engine'.load image = engine.load image ∧ engine'.start image = engine.start image) →
        kernel.dispatch engine' caller Syscall.exec.number args = turn
  /-- A name without a vector is refused for what is wrong with the vector first, and nothing
  happens. -/
  refused : kernel.isHalted = false → caller.terminated = false →
    ∀ name, Argument.fileName caller.memory args.a0 = .ok name →
      ∀ error, view.VectorFlaw kernel.config args.a2 args.a1 error →
        turn.value = .finished (.returned SysError.sentinel) ∧ turn.LeavesNoTrace kernel caller ∧
          .note (.callFailed caller.pid Syscall.exec.number error) ∈ turn.effects

variable {E : PagedMemory.Embedding σ} {memory : PagedMemory} {kernel : Kernel}
  {caller : UserProcess σ} {args : Registers} {image : ProgramImage}

namespace Request

/-- The registers of a call make an image exactly if they describe it. -/
theorem image_eq_ok_iff {config : Config} (paged : caller.memory = E.embed memory) :
    Request.image config caller.memory args = .ok image ↔
      caller.Describes memory.view config args image := by
  have vector_iff : ∀ strings, Argument.vector config caller.memory args.a2 args.a1 =
      .ok strings ↔ memory.view.HoldsVector config args.a2 args.a1 strings := by
    intro strings
    rw [paged]
    exact Argument.vector_eq_ok_iff
  unfold Request.image
  cases named : Argument.fileName caller.memory args.a0 with
  | error error =>
    simp only [bind, Except.bind, reduceCtorEq, false_iff]
    exact fun describes => nomatch named.symm.trans describes.name
  | ok name =>
    simp only [bind, Except.bind]
    cases read : Argument.vector config caller.memory args.a2 args.a1 with
    | error error =>
      simp only [reduceCtorEq, false_iff]
      exact fun describes => nomatch read.symm.trans ((vector_iff _).2 describes.args)
    | ok strings =>
      simp only [pure, Except.pure, Except.ok.injEq]
      constructor
      · rintro rfl
        exact ⟨named, (vector_iff strings).1 read⟩
      · intro describes
        have sameName := named.symm.trans describes.name
        have sameArgs := read.symm.trans ((vector_iff _).2 describes.args)
        cases sameName
        cases sameArgs
        rfl

/-- A call whose registers describe an image asks for it. -/
theorem ofCall_exec {config : Config} (paged : caller.memory = E.embed memory)
    (describes : caller.Describes memory.view config args image) :
    ofCall config caller args .exec = .ok (.exec image) := by
  rw [ofCall, (image_eq_ok_iff paged).2 describes]
  rfl

/-- A name without a vector makes no image, for what is wrong with the vector first. -/
theorem image_of_flaw {config : Config} {name : FileName} {error : SysError}
    (paged : caller.memory = E.embed memory)
    (named : Argument.fileName caller.memory args.a0 = .ok name)
    (flaw : memory.view.VectorFlaw config args.a2 args.a1 error) :
    Request.image config caller.memory args = .error error := by
  have refused := Argument.vector_of_flaw (E := E) flaw
  rw [← paged] at refused
  simp only [Request.image, named, refused, bind, Except.bind]

end Request

omit [AddressSpace σ] in
/-- The end of a turn starts nothing. -/
theorem Step.starts_conclude (step : Step σ Outcome) (number : Nat) :
    (step.conclude number).child = step.child ∧
      Effect.starts (step.conclude number).effects = Effect.starts step.effects := by
  unfold conclude
  split
  · exact ⟨rfl, rfl⟩
  · exact ⟨rfl, rfl⟩
  · split
    · exact ⟨rfl, rfl⟩
    · rw [Effect.starts_append]
      exact ⟨rfl, List.append_nil _⟩

namespace Kernel

/-- A call whose registers describe an image starts it if it can be spawned, and nothing else. -/
theorem dispatch_exec_cases (engine : Engine σ) (up : kernel.isHalted = false)
    (live : caller.terminated = false) (paged : caller.memory = E.embed memory)
    (describes : caller.Describes memory.view kernel.config args image) {turn : Turn σ}
    (reached : kernel.dispatch engine caller Syscall.exec.number args = turn) :
    ((∃ error, (kernel.spawn engine (some caller.pid) image).value = .error error) ∧
        turn.child = none ∧ Effect.starts turn.effects = []) ∨
      ∃ child, (kernel.spawn engine (some caller.pid) image).value = .ok child ∧
        turn.child = some child ∧ Effect.starts turn.effects = [(child.pid, image)] := by
  have formed := Request.ofCall_exec paged describes
  rw [dispatch_of_request engine up live formed, Request.perform] at reached
  obtain ⟨child, starts⟩ :=
    Step.starts_conclude (Service.exec engine kernel caller image) Syscall.exec.number
  have turnChild : turn.child = (Service.exec engine kernel caller image).child :=
    reached ▸ child
  have turnStarts : Effect.starts turn.effects =
      Effect.starts (Service.exec engine kernel caller image).effects := reached ▸ starts
  rw [turnChild, turnStarts, Service.exec]
  rcases kernel.spawn_cases engine (some caller.pid) image with
    ⟨error, spawned, starts⟩ | ⟨child, spawned, starts⟩
  · simp only [spawned]
    exact .inl ⟨⟨error, rfl⟩, rfl, starts⟩
  · simp only [spawned]
    exact .inr ⟨child, rfl, rfl, starts⟩

/-- A call either comes to nothing whatever the engine, or its registers describe an image. -/
theorem dispatch_exec_quiet_or_described (kernel : Kernel) (paged : caller.memory = E.embed memory)
    (args : Registers) :
    (∃ turn, (∀ engine, kernel.dispatch engine caller Syscall.exec.number args = turn) ∧
        turn.child = none ∧ Effect.starts turn.effects = []) ∨
      kernel.isHalted = false ∧ caller.terminated = false ∧
        ∃ image, caller.Describes memory.view kernel.config args image := by
  cases up : kernel.isHalted with
  | true => exact .inl ⟨_, fun engine => dispatch_of_isHalted up .., rfl, rfl⟩
  | false =>
    cases live : caller.terminated with
    | true => exact .inl ⟨_, fun engine => dispatch_of_terminated engine up live .., rfl, rfl⟩
    | false =>
      cases made : Request.image kernel.config caller.memory args with
      | ok image => exact .inr ⟨rfl, rfl, image, (Request.image_eq_ok_iff paged).1 made⟩
      | error error =>
        have malformed : Request.ofCall kernel.config caller args .exec = .error error := by
          rw [Request.ofCall, made]
          rfl
        refine .inl ⟨_, fun engine => dispatch_of_malformed engine up live malformed, ?_⟩
        rw [Step.conclude_failed up]
        exact ⟨rfl, rfl⟩

/-- A call to start a program reads its registers as the vector they describe, and hands the
engine that vector or starts nothing. -/
theorem startsProgram_dispatch (engine : Engine σ) (kernel : Kernel)
    (paged : caller.memory = E.embed memory) (args : Registers) :
    (∀ config argv argc, memory.DecodesVector E config argv argc) ∧
      (kernel.dispatch engine caller Syscall.exec.number args).StartsProgram engine kernel caller
        memory.view args := by
  refine ⟨fun config argv argc => ⟨fun _ => Argument.vector_eq_ok_iff,
    fun _ => Argument.vector_eq_error_iff⟩, ?_⟩
  constructor
  case only =>
    rcases dispatch_exec_quiet_or_described kernel paged args with
      ⟨turn, same, quiet⟩ | ⟨up, live, image, describes⟩
    · rw [same]
      exact .inl quiet
    · rcases dispatch_exec_cases engine up live paged describes rfl with
        ⟨-, quiet⟩ | ⟨child, -, started, starts⟩
      · exact .inl quiet
      · exact .inr ⟨child, image, started, starts, describes⟩
  case starts =>
    intro up live image describes memory' loaded pid room
    obtain ⟨child, rfl, spawned⟩ := spawn_of_loaded up loaded room
    rcases dispatch_exec_cases engine up live paged describes rfl with
      ⟨⟨error, refused⟩, -⟩ | ⟨child', spawned', -, starts⟩
    · cases spawned.symm.trans refused
    · have same := spawned.symm.trans spawned'
      cases same
      exact starts
  case asks =>
    intro engine' alike
    rcases dispatch_exec_quiet_or_described kernel paged args with
      ⟨turn, same, -⟩ | ⟨up, live, image, describes⟩
    · rw [same, same]
    · obtain ⟨loads, begins⟩ := alike image describes
      have formed := Request.ofCall_exec paged describes
      rw [dispatch_of_request engine up live formed, dispatch_of_request engine' up live formed,
        Request.perform, Request.perform, Service.exec, Service.exec, spawn_congr loads begins]
  case refused =>
    intro up live name named error flaw
    have malformed : Request.ofCall kernel.config caller args .exec = .error error := by
      rw [Request.ofCall, Request.image_of_flaw paged named flaw]
      rfl
    exact refuses_dispatch engine up live malformed

/-- Two pages of memory. The second begins with a name and a string, and has an array of three
pointers behind them: to the string, to the name, and to the terminator of the name. -/
def arguedMemory : PagedMemory :=
  ⟨[.zero, Page.zero.store 0 [102, 0, 104, 105, 0, 0, 0, 0, 2, 4, 0, 0, 0, 4, 0, 0, 1, 4, 0, 0]]⟩

/-- An engine that gives every program this memory. -/
def arguedEngine : Engine PagedMemory := ⟨fun _ => .ok arguedMemory, fun _ => .park⟩

/-- The engine gets the three strings in the order of their pointers, the last of them empty. -/
theorem startsProgram_with_three_arguments :
    (UserProcess.fresh ⟨1⟩ arguedMemory).memory = PagedMemory.Embedding.self.embed arguedMemory ∧
      ∃ name, name.bytes = [102] ∧
        Effect.starts (((Kernel.new {} .unlimited).registerProcess none).kernel.dispatch
          arguedEngine (.fresh ⟨1⟩ arguedMemory) Syscall.exec.number ⟨1024, 3, 1032, 0⟩).effects =
            [(⟨2⟩, ⟨name, [[104, 105], [102], []]⟩)] := by
  have paged : (UserProcess.fresh ⟨1⟩ arguedMemory).memory =
    PagedMemory.Embedding.self.embed arguedMemory := rfl
  obtain ⟨decodes, starts⟩ := startsProgram_dispatch arguedEngine
    ((Kernel.new {} .unlimited).registerProcess none).kernel paged ⟨1024, 3, 1032, 0⟩
  have named : Argument.fileName arguedMemory 1024 = .ok ⟨[102], by decide +kernel⟩ := by
    decide +kernel
  have holds := ((decodes {} 1032 3).accepts [[104, 105], [102], []]).1 (by decide +kernel)
  exact ⟨paged, ⟨[102], by decide +kernel⟩, rfl, starts.starts (by decide +kernel) rfl
    ⟨⟨[102], by decide +kernel⟩, [[104, 105], [102], []]⟩ ⟨named, holds⟩ arguedMemory rfl ⟨2⟩
    (by decide +kernel)⟩

end Kernel

end SyscallKernel
