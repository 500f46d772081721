import SyscallKernel.Proofs.File.Releases
import SyscallKernel.Proofs.Kernel.Consoles
import SyscallKernel.Proofs.Machine.Authority
import SyscallKernel.Proofs.Machine.JoinCalls
import SyscallKernel.Proofs.Process.Teardown

/-!
# Ending processes in any order

The same processes, ended in another order, leave the same process table, the same files and
the same answer to whether the machine has halted. The table is the one that the terminations
alone lead to, halted if nobody runs in it any more; the machine cannot have halted earlier,
for as long as one of the processes is still to be ended it runs.
-/

namespace SyscallKernel

variable {σ : Type}

namespace ProcessTable

variable {table table' : ProcessTable}

/-- The table, halted if nobody runs in it. -/
def closed (table : ProcessTable) : ProcessTable :=
  { table with isShutdown := table.isShutdown || !table.records.any ProcessRecord.isRunning }

/-- After a termination the table is halted if nobody runs any more. -/
theorem Ending.settled_eq_closed {pid : Pid} {how : Termination} {record : ProcessRecord}
    {news : TerminationNews} (ending : Ending table pid how record table' news)
    (wellFormed : table.WellFormed) : (table'.settled news).1 = table'.closed := by
  rw [ending.settled_eq wellFormed, closed, ← ending.last]

/-- A table in which somebody runs is not halted by that. -/
theorem closed_of_isRunning {pid : Pid} (running : table.isRunning pid = true) :
    table.closed = table := by
  obtain ⟨record, found, state⟩ := isRunning_iff.1 running
  have busy : table.records.any ProcessRecord.isRunning = true :=
    List.any_eq_true.2 ⟨record, List.mem_of_find?_eq_some found, ProcessRecord.isRunning_iff.2 state⟩
  rw [closed, busy, Bool.not_true, Bool.or_false]

end ProcessTable

/-- The terminations of those processes that were not torn down. -/
def deaths (ends : List (UserProcess σ × Termination)) : List (Pid × Termination) :=
  (ends.filter fun ending => !ending.1.terminated).map fun ending => (ending.1.pid, ending.2)

/-- The handles that some processes give up when they are ended. -/
def legacy (ends : List (UserProcess σ × Termination)) : List FileHandle :=
  ends.flatMap fun ending => if ending.1.terminated then [] else ending.1.files.handles

/-- The processes that are still to be ended are those that run. -/
theorem map_fst_deaths (ends : List (UserProcess σ × Termination)) :
    (deaths ends).map Prod.fst = roster (ends.map Prod.fst) := by
  induction ends with
  | nil => rfl
  | cons ending rest ih =>
    rw [List.map_cons, roster_cons, ← ih, UserProcess.roster, deaths, List.filter_cons]
    cases ending.1.terminated <;> rfl

namespace Kernel

variable {kernel : Kernel}

/-- The kernel after some processes were ended, one after the other. -/
def terminateAll (kernel : Kernel) : List (UserProcess σ × Termination) → Kernel
  | [] => kernel
  | (process, how) :: rest => (kernel.terminate process how).kernel.terminateAll rest

/-- Ending processes releases their handles. -/
theorem files_terminateAll (kernel : Kernel) (ends : List (UserProcess σ × Termination)) :
    (kernel.terminateAll ends).files = (kernel.files.releaseAll (legacy ends)).1 := by
  induction ends generalizing kernel with
  | nil => rfl
  | cons ending rest ih =>
    rw [legacy, List.flatMap_cons, FileStore.releaseAll_append]
    refine (ih _).trans ?_
    rw [files_terminate, legacy]
    split <;> rfl

/-- A process that runs is terminated, and the machine halts if it was the last. -/
theorem processes_terminate {process : UserProcess σ} (wellFormed : kernel.processes.WellFormed)
    (live : process.terminated = false)
    (running : kernel.processes.isRunning process.pid = true) (how : Termination) :
    (kernel.terminate process how).kernel.processes =
      (kernel.processes.ended process.pid how).closed := by
  have sameTable : (kernel.releaseHandles process.files.handles).kernel.processes =
      kernel.processes := rfl
  obtain ⟨news, result, record, ending⟩ := ProcessTable.exists_ending wellFormed running how
  rw [← ending.settled_eq_closed wellFormed]
  simp only [terminate, live, Bool.false_eq_true, if_false, recordTermination, sameTable, result]
  exact (processes_haltIfLast _ news).1

/-- Ending processes leaves the table that their terminations lead to, halted if nobody runs
in it. -/
theorem processes_terminateAll {ends : List (UserProcess σ × Termination)} {others : List Pid}
    (wellFormed : kernel.processes.WellFormed)
    (staffed : Staffed kernel.processes (roster (ends.map Prod.fst) ++ others)) :
    (kernel.terminateAll ends).processes =
      if deaths ends = [] then kernel.processes
      else (kernel.processes.terminateAll (deaths ends)).closed := by
  induction ends generalizing kernel with
  | nil => rfl
  | cons ending rest ih =>
    obtain ⟨process, how⟩ := ending
    rw [List.map_cons, roster_cons, List.append_assoc] at staffed
    cases torn : process.terminated with
    | true =>
      have nothing : kernel.terminate process how = kernel.answer process := if_pos torn
      have same : deaths ((process, how) :: rest) = deaths rest := by
        rw [deaths, List.filter_cons, torn]
        rfl
      have silent : process.roster = [] := if_pos torn
      rw [silent, List.nil_append] at staffed
      rw [same, terminateAll, nothing]
      exact ih wellFormed staffed
    | false =>
      have first : deaths ((process, how) :: rest) = (process.pid, how) :: deaths rest := by
        rw [deaths, List.filter_cons, torn]
        rfl
      have own : process.roster = [process.pid] := by
        rw [UserProcess.roster, torn]
        rfl
      have gone : (kernel.terminate process how).value.roster = [] := by
        rw [value_terminate, torn]
        rfl
      have running : kernel.processes.isRunning process.pid = true :=
        (staffed.mem_iff process.pid).1 (List.mem_append_left _ (own ▸ List.mem_cons_self))
      obtain ⟨history, conduct⟩ := kernel.conduct_terminate process how
      have staffed' := (conduct.staffed _ wellFormed staffed).1
      rw [gone, List.nil_append] at staffed'
      have left := ih (conduct.dealings.wellFormed wellFormed) staffed'
      rw [processes_terminate wellFormed torn running] at left staffed'
      rw [first, if_neg (List.cons_ne_nil _ _), ProcessTable.terminateAll]
      refine left.trans ?_
      cases pending : deaths rest with
      | nil => rfl
      | cons next later =>
        -- Whoever comes next runs still, so the machine has not halted.
        have goesOn : (kernel.processes.ended process.pid how).isRunning next.1 = true := by
          have member : next.1 ∈ roster (rest.map Prod.fst) := by
            rw [← map_fst_deaths, pending]
            exact List.mem_cons_self
          exact (staffed'.mem_iff next.1).1 (List.mem_append_left _ member)
        rw [if_neg (List.cons_ne_nil _ _), ProcessTable.closed_of_isRunning goesOn]

/-- Ending processes touches neither the limits nor the console. -/
theorem setting_terminateAll (kernel : Kernel) (ends : List (UserProcess σ × Termination)) :
    (kernel.terminateAll ends).setting = kernel.setting := by
  induction ends generalizing kernel with
  | nil => rfl
  | cons ending rest ih => exact (ih _).trans (kernel.setting_terminate ending.1 ending.2)

/-- Two kernels that nothing tells apart but the order of the empty slots of the file store. -/
structure Alike (first second : Kernel) : Prop where
  /-- The limits are the same. -/
  config : first.config = second.config
  /-- The consoles are the same. -/
  console : first.console = second.console
  /-- The process tables are the same. -/
  processes : first.processes = second.processes
  /-- The files are the same. -/
  files : first.files.Alike second.files

/-- The order in which processes are ended does not matter. -/
theorem alike_terminateAll {ends order : List (UserProcess σ × Termination)} {others : List Pid}
    (files : kernel.files.Regular) (table : kernel.processes.WellFormed)
    (staffed : Staffed kernel.processes (roster (ends.map Prod.fst) ++ others))
    (same : ends.Perm order) : (kernel.terminateAll ends).Alike (kernel.terminateAll order) := by
  have staffed' : Staffed kernel.processes (roster (order.map Prod.fst) ++ others) :=
    staffed.perm ((roster_perm (same.map Prod.fst)).append_right _)
  have sameDeaths : (deaths ends).Perm (deaths order) := (same.filter _).map _
  have distinct : ((deaths ends).map Prod.fst).Nodup := by
    rw [map_fst_deaths]
    exact (List.nodup_append.1 staffed.nodup).1
  have emptiness : deaths ends = [] ↔ deaths order = [] := by
    rw [← List.length_eq_zero_iff, sameDeaths.length_eq, List.length_eq_zero_iff]
  have setting := (kernel.setting_terminateAll ends).trans (kernel.setting_terminateAll order).symm
  constructor
  case config => exact congrArg Prod.fst setting
  case console => exact congrArg Prod.snd setting
  case processes =>
    rw [processes_terminateAll table staffed, processes_terminateAll table staffed',
      ProcessTable.terminateAll_perm table distinct sameDeaths]
    simp only [emptiness]
  case files =>
    rw [files_terminateAll, files_terminateAll]
    exact FileStore.alike_releaseAll files (same.flatMap_right _)

end Kernel

namespace World

/-- What holds of a world if it does not matter which processes end first. -/
structure EndsInAnyOrder (world : World σ) (ends order : List (UserProcess σ × Termination)) :
    Prop where
  /-- The process table is the same. -/
  processes : (world.machine.kernel.terminateAll ends).processes =
    (world.machine.kernel.terminateAll order).processes
  /-- The same names are linked. -/
  names : (world.machine.kernel.terminateAll ends).files.names =
    (world.machine.kernel.terminateAll order).files.names
  /-- A name leads to the same entry, at the same contents and with as many open handles. -/
  linked? : ∀ name, (world.machine.kernel.terminateAll ends).files.linked? name =
    (world.machine.kernel.terminateAll order).files.linked? name
  /-- A handle that is still held leads to the same entry. -/
  entry? : ∀ id, FileStore.entry? (world.machine.kernel.terminateAll ends).files id =
    FileStore.entry? (world.machine.kernel.terminateAll order).files id
  /-- The contents of all files are the same. -/
  data : (world.machine.kernel.terminateAll ends).files.data =
    (world.machine.kernel.terminateAll order).files.data
  /-- There are as many live files. -/
  size : (world.machine.kernel.terminateAll ends).files.size =
    (world.machine.kernel.terminateAll order).files.size
  /-- The machine has halted in both cases or in none. -/
  isHalted : (world.machine.kernel.terminateAll ends).isHalted =
    (world.machine.kernel.terminateAll order).isHalted

variable [AddressSpace σ] {world : World σ} {log : List Effect}

/-- In every world any processes can be ended in any order. -/
theorem Run.endsInAnyOrder {engine : Engine σ} {config : Config} {console : ConsoleDevice}
    (run : Run engine config console log world) {ends order : List (UserProcess σ × Termination)}
    {others : List (UserProcess σ)} (all : world.processes.Perm (ends.map Prod.fst ++ others))
    (same : ends.Perm order) : world.EndsInAnyOrder ends order := by
  have orderly := run.orderly
  have staffed := orderly.staffed.perm (roster_perm all)
  rw [roster_append] at staffed
  have alike := Kernel.alike_terminateAll run.stocked.files orderly.table staffed same
  exact ⟨alike.processes, alike.files.names, alike.files.linked?, alike.files.entry?,
    alike.files.data, alike.files.size, congrArg ProcessTable.isShutdown alike.processes⟩

/-- In every process table that calls lead to, running processes can be terminated in any order
and leave the same table; and in every world any of its processes can be ended in any order and
leave the same table, the same files and the same halted flag. -/
theorem teardown_in_any_order :
    (∀ {capacity : Nat} {history : TableHistory} {table : ProcessTable},
      ProcessTable.Recorded capacity history table → table.EndsInAnyOrder) ∧
    ∀ {engine : Engine σ} {config : Config} {console : ConsoleDevice} {log : List Effect}
      {world : World σ}, Run engine config console log world →
        ∀ (ends order : List (UserProcess σ × Termination)) (others : List (UserProcess σ)),
          world.processes.Perm (ends.map Prod.fst ++ others) → ends.Perm order →
            world.EndsInAnyOrder ends order :=
  ⟨fun recorded => recorded.wellFormed.endsInAnyOrder,
    fun run _ _ _ all same => run.endsInAnyOrder all same⟩

/-- A process and its child, both with the names of two files in their memories. -/
def scribblers : World ImageMemory :=
  { family with machine := (family.machine.compute ⟨1⟩ scrawl).compute ⟨2⟩ scrawl }

/-- A parent waits for its child, which has a child of its own, and all three terminate. A process
creates a file, which its child opens; the file is unlinked while both have it open, and the child
creates another one. When both processes are ended, in either order, the first file is gone, the
other one stays without handles, and the machine has halted. -/
theorem teardown_of_generations :
    (∃ history table, ProcessTable.Recorded 4 history table ∧ table.EndsInAnyOrder ∧
      table.parent? ⟨2⟩ = some ⟨1⟩ ∧ table.parent? ⟨3⟩ = some ⟨2⟩ ∧
      (table.terminateAll [(⟨1⟩, .killed), (⟨3⟩, .exited 0), (⟨2⟩, .exited 7)]).records = []) ∧
    ∃ log, ∃ world : World ImageMemory, Run paging {} narrow log world ∧
      ∃ root child, world.processes.Perm [child, root] ∧
        (world.machine.kernel.files.entry? ⟨0, 0⟩).map (fun entry =>
          (entry.openCount, entry.unlinked)) = some (2, true) ∧
        world.EndsInAnyOrder [(child, .exited 7), (root, .killed)]
          [(root, .killed), (child, .exited 7)] ∧
        (world.machine.kernel.terminateAll [(root, .killed), (child, .exited 7)]).files.entry?
          ⟨0, 0⟩ = none ∧
        ((world.machine.kernel.terminateAll [(root, .killed), (child, .exited 7)]).files.entry?
          ⟨1, 0⟩).map (fun entry => (entry.openCount, entry.unlinked)) = some (0, false) ∧
        (world.machine.kernel.terminateAll [(root, .killed), (child, .exited 7)]).isHalted = true := by
  constructor
  · have started : ProcessTable.Recorded 4 [] _ := .start
    have rooted := started.call (.register none)
    have adopted := rooted.call (.register (some ⟨1⟩))
    have settled := adopted.call (.register (some ⟨2⟩))
    have waiting := settled.call (.pollJoin ⟨1⟩ ⟨2⟩)
    exact ⟨_, _, waiting, (teardown_in_any_order (σ := UniformMemory)).1 waiting,
      by decide +kernel, by decide +kernel, by decide +kernel⟩
  · have switchedOn : Run paging {} narrow [] _ := .start
    have rooted : Run paging {} narrow _ lonely := switchedOn.step (.spawn none idler)
    have adopted : Run paging {} narrow _ family := rooted.step (.spawn (some ⟨1⟩) idler)
    have half := adopted.step (.compute ⟨1⟩ scrawl)
    have typed : Run paging {} narrow _ scribblers := half.step (.compute ⟨2⟩ scrawl)
    obtain ⟨_, created, listed⟩ := typed.call_returns [_] [] ⟨rfl, rfl⟩ .create ⟨16, 0, 0, 0⟩
      (by decide +kernel : _ = Progress.finished (.returned 2)) (by decide +kernel)
    obtain ⟨_, shared, listed⟩ := created.call_returns [_] [] listed .openFile ⟨16, 0, 0, 0⟩
      (by decide +kernel : _ = Progress.finished (.returned 2)) (by decide +kernel)
    obtain ⟨_, unlinked, listed⟩ := shared.call_returns [_] [] listed .unlink ⟨16, 0, 0, 0⟩
      (by decide +kernel : _ = Progress.finished (.returned 0)) (by decide +kernel)
    obtain ⟨_, other, listed⟩ := unlinked.call_returns [_] [] listed .create ⟨18, 0, 0, 0⟩
      (by decide +kernel : _ = Progress.finished (.returned 3)) (by decide +kernel)
    have all : ∀ {world : World ImageMemory} {child root}, world.machine.parked = [child, root] ∧
        world.joiners = [] → world.processes.Perm [child, root] := by
      intro world child root listed
      rw [processes, listed.1, listed.2]
      exact .refl _
    refine ⟨_, _, other, _, _, all listed, by decide +kernel, ?_, by decide +kernel,
      by decide +kernel, by decide +kernel⟩
    exact teardown_in_any_order.2 other _ _ [] (all listed) (.swap _ _ _)

end World

end SyscallKernel
