import SyscallKernel.Kernel.Lifecycle
import SyscallKernel.Proofs.Process.Dealings

/-!
# What the kernel does to the process table

Every part of the kernel deals with the process table through calls whose answers its
effects report: it wakes whom the table names, and it records each termination. The
processes that were not torn down, listed by pid in a roster, are exactly those that
run; whatever the kernel does in the name of one process ends none of the others.
-/

namespace SyscallKernel

variable {σ : Type}

/-- The roster of one process: its pid unless it was torn down. -/
def UserProcess.roster (process : UserProcess σ) : List Pid :=
  if process.terminated then [] else [process.pid]

/-- The pids of the processes that were not torn down. -/
def roster (processes : List (UserProcess σ)) : List Pid := processes.flatMap UserProcess.roster

theorem roster_cons (process : UserProcess σ) (rest : List (UserProcess σ)) :
    roster (process :: rest) = process.roster ++ roster rest := rfl

theorem roster_singleton (process : UserProcess σ) : roster [process] = process.roster :=
  List.append_nil _

/-- The processes that run are those on a roster. -/
structure Staffed (table : ProcessTable) (pids : List Pid) : Prop where
  /-- Nobody is listed twice. -/
  nodup : pids.Nodup
  /-- Who is listed runs, and conversely. -/
  mem_iff : ∀ pid, pid ∈ pids ↔ table.isRunning pid = true

namespace Staffed

variable {table table' : ProcessTable} {pids pids' : List Pid}

/-- In a new table nobody runs. -/
theorem empty (capacity : Nat) : Staffed (.empty capacity) [] :=
  ⟨List.nodup_nil, fun _ => ⟨fun listed => (nomatch listed), fun running => nomatch running⟩⟩

theorem perm (staffed : Staffed table pids) (same : pids.Perm pids') : Staffed table pids' :=
  ⟨same.nodup_iff.1 staffed.nodup, fun pid => same.mem_iff.symm.trans (staffed.mem_iff pid)⟩

/-- Who runs is all that matters of the table. -/
theorem of_same_running (staffed : Staffed table pids)
    (running : ∀ pid, table'.isRunning pid = table.isRunning pid) : Staffed table' pids := by
  refine ⟨staffed.nodup, fun pid => ?_⟩
  rw [running]
  exact staffed.mem_iff pid

/-- A process that was registered joins the roster. -/
theorem enrol {parent : Option Pid} {pid : Pid} (staffed : Staffed table pids)
    (registration : table.Registration parent table' pid) : Staffed table' (pid :: pids) := by
  constructor
  · rw [List.nodup_cons]
    refine ⟨?_, staffed.nodup⟩
    intro listed
    have running := (staffed.mem_iff pid).1 listed
    rw [ProcessTable.isRunning, registration.free] at running
    cases running
  · intro other
    rw [registration.isRunning_eq, List.mem_cons, staffed.mem_iff, Bool.or_eq_true,
      decide_eq_true_eq]

/-- A process that terminated leaves the roster. -/
theorem dismiss {pid : Pid} {how : Termination} {record : ProcessRecord} {news : TerminationNews}
    (staffed : Staffed table (pid :: pids))
    (ending : table.Ending pid how record table' news) : Staffed table' pids := by
  obtain ⟨absent, nodup⟩ := List.nodup_cons.1 staffed.nodup
  refine ⟨nodup, fun other => ?_⟩
  have listed := staffed.mem_iff other
  rw [List.mem_cons] at listed
  rw [ending.isRunning_eq, Bool.and_eq_true, decide_eq_true_eq, ← listed]
  constructor
  · intro member
    exact ⟨fun same => absent (same ▸ member), .inr member⟩
  · rintro ⟨differs, member⟩
    exact member.resolve_left differs

end Staffed

/-- What a part of the kernel does in the name of the processes listed in `before`;
those of them that run afterwards, and those that it started, are listed in `after`. -/
structure Conduct (kernel : Kernel) (before : List Pid) (effects : List Effect) (kernel' : Kernel)
    (after : List Pid) (history : TableHistory) : Prop where
  /-- The process table changes through calls only. -/
  dealings : kernel.processes.Dealings history kernel'.processes
  /-- The kernel wakes whom the table names. -/
  wakes : effects.filterMap Effect.wake? = history.wakes
  /-- Each termination is recorded. -/
  terminations : ∀ pid how, (pid, how) ∈ history.terminations →
    .note (.terminated pid how) ∈ effects
  /-- The rosters stay right, and nobody else is ended. -/
  staffed : ∀ others, kernel.processes.WellFormed → Staffed kernel.processes (before ++ others) →
    Staffed kernel'.processes (after ++ others) ∧ ∀ pid ∈ others, pid ∉ history.endedPids

namespace Conduct

variable {kernel kernel' kernel'' : Kernel} {before between after : List Pid}
  {effects effects' : List Effect} {history later : TableHistory}

/-- A part of the kernel that changes nothing about who runs. -/
theorem of_same_running (dealings : kernel.processes.Dealings history kernel'.processes)
    (wakes : effects.filterMap Effect.wake? = history.wakes) (nobody : history.terminations = [])
    (running : kernel.processes.WellFormed →
      ∀ pid, kernel'.processes.isRunning pid = kernel.processes.isRunning pid) (pids : List Pid) :
    Conduct kernel pids effects kernel' pids history where
  dealings := dealings
  wakes := wakes
  terminations := by
    intro pid how member
    rw [nobody] at member
    cases member
  staffed := by
    intro others wellFormed staffed
    refine ⟨staffed.of_same_running (running wellFormed), fun pid _ => ?_⟩
    rw [TableHistory.endedPids, nobody]
    exact List.not_mem_nil

/-- A part of the kernel that leaves the process table alone. -/
theorem still (same : kernel'.processes = kernel.processes)
    (quiet : effects.filterMap Effect.wake? = []) (pids : List Pid) :
    Conduct kernel pids effects kernel' pids [] :=
  .of_same_running (same ▸ .none) quiet rfl (fun _ _ => by rw [same]) pids

/-- Two parts in a row. -/
theorem trans (first : Conduct kernel before effects kernel' between history)
    (second : Conduct kernel' between effects' kernel'' after later) :
    Conduct kernel before (effects ++ effects') kernel'' after (later ++ history) where
  dealings := first.dealings.trans second.dealings
  wakes := by rw [List.filterMap_append, first.wakes, second.wakes, TableHistory.wakes_append]
  terminations := by
    intro pid how member
    rw [TableHistory.terminations_append, List.mem_append] at member
    rcases member with member | member
    · exact List.mem_append_right _ (second.terminations pid how member)
    · exact List.mem_append_left _ (first.terminations pid how member)
  staffed := by
    intro others wellFormed staffed
    obtain ⟨staffed', spared⟩ := first.staffed others wellFormed staffed
    obtain ⟨staffed'', spared'⟩ :=
      second.staffed others (first.dealings.wellFormed wellFormed) staffed'
    refine ⟨staffed'', fun pid member => ?_⟩
    rw [TableHistory.endedPids_append, List.mem_append, not_or]
    exact ⟨spared' pid member, spared pid member⟩

/-- Some log records may come first. -/
theorem quiet_before (conduct : Conduct kernel before effects kernel' after history)
    (records : List Effect) (quiet : records.filterMap Effect.wake? = []) :
    Conduct kernel before (records ++ effects) kernel' after history := by
  have noted : Conduct kernel before records kernel before [] := .still rfl quiet before
  have both := noted.trans conduct
  rw [List.append_nil] at both
  exact both

/-- Some log records may come last. -/
theorem quiet_after (conduct : Conduct kernel before effects kernel' after history)
    (records : List Effect) (quiet : records.filterMap Effect.wake? = []) :
    Conduct kernel before (effects ++ records) kernel' after history :=
  conduct.trans (.still rfl quiet after)

/-- Others may be listed as well. -/
theorem frame (conduct : Conduct kernel before effects kernel' after history) (pids : List Pid) :
    Conduct kernel (pids ++ before) effects kernel' (pids ++ after) history where
  dealings := conduct.dealings
  wakes := conduct.wakes
  terminations := conduct.terminations
  staffed := by
    intro others wellFormed staffed
    have swap : ∀ listed : List Pid, ((pids ++ listed) ++ others).Perm (listed ++ (pids ++ others)) :=
      fun listed => (List.append_assoc pids listed others) ▸ List.perm_append_comm_assoc _ _ _
    obtain ⟨staffed', spared⟩ := conduct.staffed _ wellFormed (staffed.perm (swap before))
    exact ⟨staffed'.perm (swap after).symm, fun pid member =>
      spared pid (List.mem_append_right _ member)⟩

/-- What the kernel does in nobody's name can be seen as done in somebody's. -/
theorem beside (conduct : Conduct kernel [] effects kernel' after history)
    (process : UserProcess σ) :
    Conduct kernel (roster [process]) effects kernel' (process.roster ++ after) history := by
  have framed := conduct.frame process.roster
  rw [List.append_nil] at framed
  rw [roster_singleton]
  exact framed

end Conduct

namespace Kernel

variable {kernel : Kernel}

/-- Releasing handles wakes nobody. -/
theorem wakes_releaseHandles (kernel : Kernel) (handles : List FileHandle) :
    (kernel.releaseHandles handles).effects.filterMap Effect.wake? = [] := by
  rw [List.filterMap_eq_nil_iff]
  intro effect member
  obtain ⟨notice, _, rfl⟩ := List.mem_map.1 member
  rfl

/-- Wake-ups wake whom they name. -/
theorem wakes_map_wake (pids : List Pid) :
    (pids.map Effect.wake).filterMap Effect.wake? = pids := by
  rw [List.filterMap_map]
  exact List.filterMap_some

theorem conduct_shutdown (kernel : Kernel) :
    ∃ history, Conduct kernel [] kernel.shutdown.effects kernel.shutdown.kernel [] history := by
  have dealings := ProcessTable.Dealings.of_shutdown kernel.processes
  refine ⟨_, Conduct.of_same_running dealings ?_ rfl (fun _ => ?_) []⟩
  · exact wakes_map_wake kernel.processes.shutdown.2
  · exact ProcessTable.isRunning_shutdown kernel.processes

theorem conduct_halt (kernel : Kernel) (caller : Pid) :
    ∃ history, Conduct kernel [] (kernel.halt caller).effects (kernel.halt caller).kernel []
      history := by
  unfold halt
  split
  · obtain ⟨history, conduct⟩ := kernel.conduct_shutdown
    exact ⟨history, conduct.quiet_before [_] rfl⟩
  · exact ⟨[], .still rfl rfl []⟩

theorem conduct_haltIfLast (kernel : Kernel) (news : TerminationNews) :
    ∃ history, Conduct kernel [] (kernel.haltIfLast news).effects (kernel.haltIfLast news).kernel []
      history := by
  unfold haltIfLast
  split
  · obtain ⟨history, conduct⟩ := kernel.conduct_shutdown
    exact ⟨history, conduct.quiet_before [_] rfl⟩
  · exact ⟨[], .still rfl rfl []⟩

/-- Ending a process ends it alone. -/
theorem conduct_terminate (kernel : Kernel) (process : UserProcess σ) (how : Termination) :
    ∃ history, Conduct kernel process.roster (kernel.terminate process how).effects
      (kernel.terminate process how).kernel (kernel.terminate process how).value.roster history := by
  unfold terminate
  split
  · exact ⟨[], .still rfl rfl _⟩
  · rename_i notTorn
    have own : process.roster = [process.pid] := if_neg notTorn
    have torn : UserProcess.roster
      { process with terminated := true, files := .cleared } = [] := if_pos rfl
    have silent := kernel.wakes_releaseHandles process.files.handles
    have sameTable : (kernel.releaseHandles process.files.handles).kernel.processes =
        kernel.processes := rfl
    simp only [recordTermination, sameTable]
    cases result : kernel.processes.terminate process.pid how with
    | none =>
      simp only [answer, own, torn, List.append_nil]
      refine ⟨[], .none, silent, fun _ _ member => (nomatch member), ?_⟩
      intro others _ staffed
      -- Whoever was not torn down runs, so its record can end.
      have running := (staffed.mem_iff process.pid).1 (List.mem_append_left _ List.mem_cons_self)
      rw [ProcessTable.terminate_eq_none_iff, running] at result
      cases result
    | some ended =>
      obtain ⟨table, news⟩ := ended
      simp only [own, torn]
      have recorded : Conduct kernel [process.pid]
          ((kernel.releaseHandles process.files.handles).effects ++
            [.note (.terminated process.pid how)] ++ news.waiter.toList.map .wake)
          { (kernel.releaseHandles process.files.handles).kernel with processes := table } []
          [(.terminate process.pid how, .news (some news))] := by
        constructor
        case dealings => exact .of_terminate result
        case wakes =>
          rw [List.filterMap_append, List.filterMap_append, silent, wakes_map_wake]
          rfl
        case terminations =>
          intro pid how' member
          cases List.mem_singleton.1 member
          exact List.mem_append_left _ (List.mem_append_right _ List.mem_cons_self)
        case staffed =>
          intro others wellFormed staffed
          obtain ⟨record, ending⟩ := ProcessTable.ending_of_terminate wellFormed result
          refine ⟨staffed.dismiss ending, ?_⟩
          intro pid member ended
          cases List.mem_singleton.1 ended
          exact (List.nodup_cons.1 staffed.nodup).1 member
      obtain ⟨later, last⟩ := conduct_haltIfLast _ news
      exact ⟨_, recorded.trans last⟩

theorem conduct_exit (kernel : Kernel) (process : UserProcess σ) (status : Register) :
    ∃ history, Conduct kernel process.roster (kernel.exit process status).effects
      (kernel.exit process status).kernel (kernel.exit process status).value.roster history :=
  kernel.conduct_terminate process (.exited status)

theorem conduct_abort (kernel : Kernel) (process : UserProcess σ) (fault : Fault) :
    ∃ history, Conduct kernel process.roster (kernel.abort process fault).effects
      (kernel.abort process fault).kernel (kernel.abort process fault).value.roster history := by
  obtain ⟨history, conduct⟩ := kernel.conduct_terminate process .killed
  exact ⟨history, conduct.quiet_before [_] rfl⟩

theorem conduct_begin (kernel : Kernel) (process : UserProcess σ) (start : Start) :
    ∃ history, Conduct kernel process.roster (kernel.begin process start).effects
      (kernel.begin process start).kernel (kernel.begin process start).value.roster history := by
  cases start with
  | park => exact ⟨[], .still rfl rfl _⟩
  | exit status => exact kernel.conduct_exit process status
  | abort fault => exact kernel.conduct_abort process fault

/-- Starting a process adds it to those that run, unless it ends at once. -/
theorem conduct_spawn (engine : Engine σ) (kernel : Kernel) (parent : Option Pid)
    (image : ProgramImage) :
    ∃ history, Conduct kernel [] (kernel.spawn engine parent image).effects
      (kernel.spawn engine parent image).kernel
      (roster (kernel.spawn engine parent image).value.toOption.toList) history := by
  unfold spawn
  split
  · exact ⟨[], .still rfl rfl []⟩
  · cases engine.load image with
    | error error => exact ⟨[], .still rfl rfl []⟩
    | ok memory =>
      cases result : kernel.processes.register parent with
      | error error =>
        simp only [registerProcess, result]
        exact ⟨[], .still rfl rfl []⟩
      | ok registered =>
        obtain ⟨table, pid⟩ := registered
        simp only [registerProcess, result, Except.toOption, Option.toList_some, roster,
          List.flatMap_cons, List.flatMap_nil, List.append_nil]
        have enrolled : Conduct kernel []
            ([.note (.registered pid parent)] ++
              [.note (.spawned image.name pid parent image.args.length), .started pid image])
            { kernel with processes := table } (UserProcess.fresh pid memory).roster
            [(.register parent, .registered pid)] := by
          constructor
          case dealings => exact .of_register result
          case wakes => rfl
          case terminations => exact fun _ _ member => nomatch member
          case staffed =>
            intro others _ staffed
            exact ⟨staffed.enrol (ProcessTable.registration_of_register result),
              fun _ _ => List.not_mem_nil⟩
        obtain ⟨later, begun⟩ := conduct_begin _ (.fresh pid memory) (engine.start image)
        exact ⟨_, enrolled.trans begun⟩

theorem conduct_boot (engine : Engine σ) (kernel : Kernel) (program : Bytes) (args : List Bytes) :
    ∃ history, Conduct kernel [] (kernel.boot engine program args).effects
      (kernel.boot engine program args).kernel
      (roster (kernel.boot engine program args).value.toOption.toList) history := by
  unfold boot
  cases FileName.ofBytes program with
  | error error => exact ⟨[], .still rfl rfl []⟩
  | ok name =>
    obtain ⟨history, conduct⟩ := conduct_spawn engine kernel none ⟨name, args⟩
    exact ⟨history, conduct.quiet_before [_] rfl⟩

/-- Asking for a child ends nobody. -/
theorem conduct_pollJoin (kernel : Kernel) (caller child : Pid) :
    ∃ history, Conduct kernel [] (kernel.pollJoin caller child).effects
      (kernel.pollJoin caller child).kernel [] history := by
  unfold pollJoin
  cases result : kernel.processes.pollJoin caller child with
  | error error => exact ⟨[], .still rfl rfl []⟩
  | ok joined =>
    obtain ⟨table, poll⟩ := joined
    cases poll with
    | pending =>
      refine ⟨_, .of_same_running (.of_pollJoin result) rfl rfl (fun wellFormed => ?_) []⟩
      exact (ProcessTable.awaiting_of_pollJoin wellFormed result).isRunning_eq
    | ready how =>
      refine ⟨_, .of_same_running (.of_pollJoin result) rfl rfl (fun wellFormed => ?_) []⟩
      exact (ProcessTable.reaping_of_pollJoin wellFormed result).isRunning_eq

end Kernel

end SyscallKernel
