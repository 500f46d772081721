import SyscallKernel.Proofs.Process.History

/-!
# What a process table remembers

A record keeps the parent, the state and the last reaped child of a process. All
three, and whether there is a record at all, can be read off the history of the
table as long as no pid was given out twice.
-/

namespace SyscallKernel

namespace TableHistory

/-- The parent that a process was registered with, if it was ever registered. -/
def parentOf? (history : TableHistory) (pid : Pid) : Option (Option Pid) :=
  history.registrations.lookup pid

/-- How a process ended, if it did. -/
def end? (history : TableHistory) (pid : Pid) : Option Termination :=
  history.terminations.lookup pid

/-- The processes that were reaped. -/
def reaped (history : TableHistory) : List Pid := history.reapings.map Prod.snd

/-- The child that a process reaped last. -/
def lastReaped? (history : TableHistory) (pid : Pid) : Option Pid := history.reapings.lookup pid

/-- The parent of a process unless it has terminated. -/
def liveParent? (history : TableHistory) (pid : Pid) : Option Pid :=
  (history.parentOf? pid).join.filter fun parent => history.end? parent = none

/-- A process is registered from its registration to its end, and beyond that as
long as it has a live parent that did not reap it. -/
def isRegistered (history : TableHistory) (pid : Pid) : Bool :=
  (history.parentOf? pid).isSome && ((history.end? pid).isNone ||
    (history.liveParent? pid).isSome && decide (pid ∉ history.reaped))

/-- The state of a registered process. -/
def stateOf (history : TableHistory) (pid : Pid) : ProcessState :=
  match history.end? pid with
  | none => .running
  | some how => .zombie how

/-- The last reaped child of a registered process; a zombie has forgotten it. -/
def rememberedChild? (history : TableHistory) (pid : Pid) : Option Pid :=
  if history.end? pid = none then history.lastReaped? pid else none

/-- Parent, state and last reaped child of a registered process. -/
def summary? (history : TableHistory) (pid : Pid) :
    Option (Option Pid × ProcessState × Option Pid) :=
  if history.isRegistered pid then
    some (history.liveParent? pid, history.stateOf pid, history.rememberedChild? pid)
  else none

/-- The latest entry of a pid hides the earlier ones. -/
theorem lookup_cons {β : Type} (pid other : Pid) (value : β) (rest : List (Pid × β)) :
    ((pid, value) :: rest).lookup other = if other = pid then some value else rest.lookup other := by
  rw [List.lookup_cons]
  by_cases same : other = pid
  · simp only [same, beq_self_eq_true, if_true]
  · simp only [beq_eq_false_iff_ne.2 same, same, if_false]

/-- A pid beyond the pids of all entries has none. -/
theorem lookup_eq_none_of_lt {β : Type} {entries : List (Pid × β)} {n : Nat}
    (bounded : ∀ entry ∈ entries, entry.1.number ≤ n) {pid : Pid} (beyond : n < pid.number) :
    entries.lookup pid = none := by
  rw [List.lookup_eq_none_iff]
  intro entry member
  have bound := bounded entry member
  rw [bne_iff_ne]
  intro equal
  subst equal
  omega

/-- A pid without an entry is the pid of none of the entries. -/
theorem not_mem_of_lookup_eq_none {β : Type} {entries : List (Pid × β)} {pid : Pid}
    (absent : entries.lookup pid = none) : pid ∉ entries.map Prod.fst := by
  rw [List.lookup_eq_none_iff] at absent
  intro member
  obtain ⟨entry, listed, rfl⟩ := List.mem_map.1 member
  exact bne_iff_ne.1 (absent entry listed) rfl

variable {history : TableHistory}

/-- A live parent is the one the process was registered with, and has not ended. -/
theorem liveParent?_eq_some_iff {pid parent : Pid} :
    history.liveParent? pid = some parent ↔
      history.parentOf? pid = some (some parent) ∧ history.end? parent = none := by
  simp only [liveParent?, Option.filter_eq_some_iff, Option.join_eq_some_iff, decide_eq_true_eq]

/-- A process whose parent lives is registered unless it was reaped after its end. -/
theorem isRegistered_of_liveParent? {pid parent : Pid}
    (child : history.liveParent? pid = some parent) :
    history.isRegistered pid =
      ((history.end? pid).isNone || decide (pid ∉ history.reaped)) := by
  obtain ⟨known, _⟩ := liveParent?_eq_some_iff.1 child
  simp only [isRegistered, known, child, Option.isSome_some, Bool.true_and]

/-- What is remembered of a process depends on these four things only. -/
theorem summary?_congr (later history : TableHistory) {pid : Pid}
    (parent : later.parentOf? pid = history.parentOf? pid)
    (ended : ∀ other, other = pid ∨ history.parentOf? pid = some (some other) →
      later.end? other = history.end? other)
    (reaped : pid ∈ later.reaped ↔ pid ∈ history.reaped)
    (last : later.lastReaped? pid = history.lastReaped? pid) :
    later.summary? pid = history.summary? pid := by
  have ownEnd := ended pid (.inl rfl)
  have live : later.liveParent? pid = history.liveParent? pid := by
    simp only [liveParent?, parent]
    cases known : history.parentOf? pid with
    | none => rfl
    | some adopted =>
      cases adopted with
      | none => rfl
      | some p => simp only [Option.join_some, Option.filter_some, ended p (.inr known)]
  have kept : decide (pid ∉ later.reaped) = decide (pid ∉ history.reaped) :=
    decide_eq_decide.2 (not_congr reaped)
  have registered : later.isRegistered pid = history.isRegistered pid := by
    rw [isRegistered, isRegistered, parent, live, ownEnd, kept]
  have state : later.stateOf pid = history.stateOf pid := by
    rw [stateOf, stateOf, ownEnd]
  have child : later.rememberedChild? pid = history.rememberedChild? pid := by
    simp only [rememberedChild?, ownEnd, last]
  rw [summary?, summary?, registered, live, state, child]

end TableHistory

namespace ProcessTable

variable {table table' : ProcessTable} {capacity : Nat} {history : TableHistory}

/-- Parent, state and last reaped child of a process, as its record has them. -/
def summary? (table : ProcessTable) (pid : Pid) : Option (Option Pid × ProcessState × Option Pid) :=
  (table.records.get? pid).map fun r => (r.parent, r.state, r.lastReaped)

/-- A registration adds the summary of a fresh process. -/
theorem Registration.summary?_eq {parent : Option Pid} {pid : Pid}
    (registration : Registration table parent table' pid) (other : Pid) :
    table'.summary? other =
      if other = pid then some (parent, .running, none) else table.summary? other := by
  simp only [summary?, registration.lookup]
  by_cases same : other = pid
  · simp only [same, if_true, Option.map_some, ProcessRecord.fresh]
  · simp only [same, if_false]
    split
    · cases table.records.get? other <;> rfl
    · rfl

/-- A termination leaves a zombie or nothing, orphans and forgets. -/
theorem Ending.summary?_eq {pid : Pid} {how : Termination} {record : ProcessRecord}
    {news : TerminationNews} (ending : Ending table pid how record table' news) (other : Pid) :
    table'.summary? other =
      if other = pid then
        if record.parent = none then none else some (record.parent, .zombie how, none)
      else if table.parent? other = some pid then
        (table.summary? other).bind fun (_, state, last) =>
          if state = .running then some (none, state, last) else none
      else table.summary? other := by
  simp only [summary?, ending.lookup]
  by_cases same : other = pid
  · simp only [same, if_true, ProcessRecord.ended?]
    split <;> rfl
  · simp only [same, if_false]
    split
    · cases table.records.get? other with
      | none => rfl
      | some old =>
        simp only [Option.bind_some, Option.map_some, ProcessRecord.orphaned?,
          ProcessRecord.isRunning_iff]
        split <;> rfl
    · rfl

/-- Reaping forgets the child and makes its parent remember it. -/
theorem Reaping.summary?_eq {caller child : Pid} {how : Termination}
    (reaping : Reaping table caller child how table') (other : Pid) :
    table'.summary? other =
      if other = child then none
      else if other = caller then
        (table.summary? other).map fun (parent, state, _) => (parent, state, some child)
      else table.summary? other := by
  simp only [summary?, reaping.lookup]
  by_cases same : other = child
  · simp only [same, if_true, Option.map_none]
  · simp only [same, if_false]
    split
    · cases table.records.get? other <;> rfl
    · rfl

/-- Waiting changes no summary. -/
theorem Awaiting.summary?_eq {caller child : Pid} (awaiting : Awaiting table caller child table')
    (other : Pid) : table'.summary? other = table.summary? other := by
  simp only [summary?, awaiting.lookup]
  split
  · cases table.records.get? other <;> rfl
  · rfl

/-- A shutdown changes no summary. -/
theorem summary?_shutdown (table : ProcessTable) (pid : Pid) :
    table.shutdown.1.summary? pid = table.summary? pid := by
  simp only [summary?, get?_shutdown]
  cases table.records.get? pid <;> rfl

/-- The history and the table agree on everything a join can observe, and no pid
occurs twice in a role that a process has only once. -/
structure Remembered (table : ProcessTable) (history : TableHistory) : Prop where
  /-- Both know whether the machine halted. -/
  isShutdown : table.isShutdown = history.isShutdown
  /-- The pids were handed out in order. -/
  numbered : table.Numbered history.registrations.length
  /-- Every pid that was handed out is among the first ones. -/
  registered_le : ∀ entry ∈ history.registrations,
    entry.1.number ≤ history.registrations.length
  /-- Only processes that were registered have terminated. -/
  ended_le : ∀ entry ∈ history.terminations, entry.1.number ≤ history.registrations.length
  /-- Only processes that were registered have reaped. -/
  reaper_le : ∀ entry ∈ history.reapings, entry.1.number ≤ history.registrations.length
  /-- Only processes that have terminated were reaped. -/
  reaped_ended : ∀ pid ∈ history.reaped, history.end? pid ≠ none
  /-- No pid was handed out twice. -/
  registered_nodup : (history.registrations.map Prod.fst).Nodup
  /-- No process has terminated twice. -/
  ended_nodup : (history.terminations.map Prod.fst).Nodup
  /-- No process was reaped twice. -/
  reaped_nodup : history.reaped.Nodup
  /-- The records hold what the history tells. -/
  summary?_eq : ∀ pid, table.summary? pid = history.summary? pid

namespace Remembered

/-- The running processes are those that were registered and have not terminated. -/
theorem isRunning_iff (known : table.Remembered history) {pid : Pid} :
    table.isRunning pid = true ↔
      (history.parentOf? pid).isSome = true ∧ history.end? pid = none := by
  have summary := known.summary?_eq pid
  rw [summary?, TableHistory.summary?] at summary
  rw [isRunning]
  cases found : table.records.get? pid with
  | none =>
    rw [found, Option.map_none] at summary
    split at summary
    · cases summary
    · rename_i unregistered
      simp only [TableHistory.isRegistered, Bool.and_eq_true, Bool.or_eq_true,
        Option.isNone_iff_eq_none] at unregistered
      simp only [Option.any_none, Bool.false_eq_true, false_iff]
      rintro ⟨seen, alive⟩
      exact unregistered ⟨seen, .inl alive⟩
  | some record =>
    rw [found, Option.map_some] at summary
    split at summary
    · rename_i registered
      simp only [TableHistory.isRegistered, Bool.and_eq_true] at registered
      obtain ⟨_, state, _⟩ := Prod.mk.inj (Option.some.inj summary) |>.imp_right Prod.mk.inj
      rw [Option.any_some, ProcessRecord.isRunning_iff, state, TableHistory.stateOf]
      cases history.end? pid with
      | none => simp only [registered.1, and_self]
      | some how => simp only [reduceCtorEq, and_false]
    · cases summary

/-- A process is a child of its live parent until it is reaped. -/
theorem parent?_eq_some_iff (known : table.Remembered history) {child parent : Pid} :
    table.parent? child = some parent ↔
      history.liveParent? child = some parent ∧ child ∉ history.reaped := by
  have summary := known.summary?_eq child
  have view : table.parent? child = (table.summary? child).bind Prod.fst := by
    rw [parent?, summary?]
    cases table.records.get? child <;> rfl
  rw [view, summary, TableHistory.summary?]
  constructor
  · intro adopted
    split at adopted
    · rename_i registered
      have live : history.liveParent? child = some parent := adopted
      rw [TableHistory.isRegistered_of_liveParent? live, Bool.or_eq_true,
        Option.isNone_iff_eq_none, decide_eq_true_eq] at registered
      refine ⟨live, ?_⟩
      rcases registered with alive | kept
      · exact fun member => known.reaped_ended child member alive
      · exact kept
    · cases adopted
  · rintro ⟨live, kept⟩
    have registered : history.isRegistered child = true := by
      rw [TableHistory.isRegistered_of_liveParent? live, decide_eq_true kept, Bool.or_true]
    rw [registered, if_pos rfl, Option.bind_some]
    exact live

/-- The states of the registered processes are those the history tells. -/
theorem state?_eq (known : table.Remembered history) (pid : Pid) :
    table.state? pid = if history.isRegistered pid then some (history.stateOf pid) else none := by
  have summary := known.summary?_eq pid
  have view : table.state? pid = (table.summary? pid).map fun (_, state, _) => state := by
    rw [state?, summary?]
    cases table.records.get? pid <;> rfl
  rw [view, summary, TableHistory.summary?]
  split <;> rfl

/-- The pid of a process that was registered is among the first ones. -/
theorem number_le (known : table.Remembered history) {pid : Pid}
    (seen : (history.parentOf? pid).isSome = true) :
    pid.number ≤ history.registrations.length := by
  obtain ⟨parent, found⟩ := Option.isSome_iff_exists.1 seen
  obtain ⟨before, after, listed, _⟩ := List.lookup_eq_some_iff.1 found
  exact known.registered_le (pid, parent) (listed ▸ List.mem_append_right _ List.mem_cons_self)

/-- A pid that is about to be handed out occurs nowhere in the history. -/
theorem fresh (known : table.Remembered history) {pid : Pid}
    (next : pid.number = history.registrations.length + 1) :
    history.parentOf? pid = none ∧ history.end? pid = none ∧ history.lastReaped? pid = none :=
  have beyond : history.registrations.length < pid.number := by omega
  ⟨TableHistory.lookup_eq_none_of_lt known.registered_le beyond,
    TableHistory.lookup_eq_none_of_lt known.ended_le beyond,
    TableHistory.lookup_eq_none_of_lt known.reaper_le beyond⟩

end Remembered

end ProcessTable

end SyscallKernel
