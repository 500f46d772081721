import SyscallKernel.Proofs.Process.Descent

/-!
# Dealings with a process table

Some calls on a table that need not be new, with their answers. What such dealings do
to a process can be told from the answers: a parent that waits for its child still does
unless it is to be woken, and a zombie is one whose termination was recorded.
-/

namespace SyscallKernel

namespace TableHistory

/-- The processes to wake after a call. -/
def woken : TableCall × ProcessAnswer → List Pid
  | (_, .news (some news)) => news.waiter.toList
  | (_, .waiters pids) => pids
  | _ => []

/-- The processes to wake after all calls of a history, in order. -/
def wakes : TableHistory → List Pid
  | [] => []
  | entry :: earlier => wakes earlier ++ woken entry

/-- The pids of the processes that terminated in a history. -/
def endedPids (history : TableHistory) : List Pid := history.terminations.map Prod.fst

theorem wakes_append (later earlier : TableHistory) :
    wakes (later ++ earlier) = wakes earlier ++ wakes later := by
  induction later with
  | nil => exact (List.append_nil _).symm
  | cons entry rest ih => rw [List.cons_append, wakes, ih, wakes, List.append_assoc]

theorem terminations_append (later earlier : TableHistory) :
    terminations (later ++ earlier) = terminations later ++ terminations earlier :=
  List.filterMap_append

theorem endedPids_append (later earlier : TableHistory) :
    endedPids (later ++ earlier) = endedPids later ++ endedPids earlier := by
  rw [endedPids, terminations_append, List.map_append]
  rfl

end TableHistory

namespace ProcessTable

variable {table table' table'' : ProcessTable} {capacity : Nat} {history later : TableHistory}
  {entry : TableCall × ProcessAnswer}

/-- Calls on a table, with their answers, and the table they lead to. -/
inductive Dealings (table : ProcessTable) : TableHistory → ProcessTable → Prop where
  /-- Nothing is called. -/
  | none : Dealings table [] table
  /-- One more call. -/
  | call {history : TableHistory} {table' : ProcessTable} (call : TableCall)
    (earlier : Dealings table history table') :
    Dealings table ((call, (call.action.run table').2) :: history) (call.action.run table').1

/-- A parent waits for its running child, and the table knows. -/
structure IsAwaited (table : ProcessTable) (parent child : Pid) : Prop where
  /-- The machine has not halted. -/
  notShutdown : table.isShutdown = false
  /-- The child runs. -/
  running : table.isRunning child = true
  /-- The child is one of its parent. -/
  adopted : table.parent? child = some parent
  /-- The parent is to be woken when the child terminates. -/
  waiter : table.waiter? child = some parent

/-! ### One call -/

/-- A parent that is told to wait for its child is awaiting it. -/
theorem Awaiting.isAwaited {caller child : Pid} (awaiting : Awaiting table caller child table') :
    table'.IsAwaited caller child where
  notShutdown := by
    rw [awaiting.rest]
    exact awaiting.notShutdown
  running := (awaiting.isRunning_eq child).trans awaiting.running
  adopted := (awaiting.parent?_eq child).trans awaiting.parent
  waiter := by rw [awaiting.waiter?_eq, if_pos rfl]

/-- A parent still waits for its child after a call, unless it is to be woken or has
itself terminated. -/
theorem Happening.isAwaited (happening : Happening table entry table')
    (wellFormed : table.WellFormed) {parent child : Pid} (awaited : table.IsAwaited parent child)
    (stays : parent ∉ TableHistory.endedPids [entry]) :
    table'.IsAwaited parent child ∨ parent ∈ TableHistory.woken entry := by
  have found : ∃ record, table.records.get? child = some record ∧ record.state = .running :=
    isRunning_iff.1 awaited.running
  cases happening with
  | @registered _ new _ registration =>
    have old : child ≠ new := by
      intro same
      obtain ⟨record, found, _⟩ := found
      rw [same, registration.free] at found
      cases found
    refine .inl ⟨registration.isShutdown.trans awaited.notShutdown, ?_, ?_, ?_⟩
    · rw [registration.isRunning_eq, awaited.running, Bool.or_true]
    · rw [registration.parent?_eq, if_neg old, awaited.adopted]
    · exact (registration.waiter?_eq child).trans awaited.waiter
  | @ended gone how record _ news ending =>
    have alive : parent ≠ gone := fun same => stays (List.mem_singleton.2 same)
    by_cases same : child = gone
    · have waits := awaited.waiter
      rw [same, waiter?, ending.found, Option.bind_some] at waits
      refine .inr ?_
      rw [TableHistory.woken, ending.waiter, waits]
      exact List.mem_singleton.2 rfl
    · refine .inl ⟨ending.isShutdown.trans awaited.notShutdown, ?_, ?_, ?_⟩
      · rw [ending.isRunning_eq, awaited.running, decide_eq_true same, Bool.true_and]
      · rw [ending.parent?_eq wellFormed, awaited.adopted, if_neg]
        exact fun equal => alive (Option.some.inj equal)
      · rw [ending.waiter?_eq wellFormed, if_neg same, awaited.waiter]
  | @reaped _ reaped how _ reaping =>
    -- Who is reaped has terminated, the child runs.
    have other : child ≠ reaped := by
      intro same
      obtain ⟨record, found, state⟩ := found
      obtain ⟨zombie, found', state'⟩ := Option.map_eq_some_iff.1 reaping.ended
      rw [same, found'] at found
      cases found
      rw [state'] at state
      cases state
    refine .inl ⟨reaping.isShutdown.trans awaited.notShutdown, ?_, ?_, ?_⟩
    · exact (reaping.isRunning_eq child).trans awaited.running
    · rw [reaping.parent?_eq, if_neg other, awaited.adopted]
    · exact (reaping.waiter?_eq wellFormed child).trans awaited.waiter
  | @awaited caller polled _ awaiting =>
    refine .inl ⟨?_, (awaiting.isRunning_eq child).trans awaited.running,
      (awaiting.parent?_eq child).trans awaited.adopted, ?_⟩
    · rw [awaiting.rest]
      exact awaited.notShutdown
    · rw [awaiting.waiter?_eq]
      split
      · -- Only the parent can poll the child.
        rename_i same
        rw [← awaiting.parent, ← same, awaited.adopted]
      · exact awaited.waiter
  | shutdown =>
    obtain ⟨record, found, waits⟩ := waiter?_eq_some_iff.1 awaited.waiter
    exact .inr ((mem_shutdown wellFormed).2 ⟨child, record, found, waits⟩)
  | notRegistered => exact .inl awaited
  | notEnded => exact .inl awaited
  | notJoined => exact .inl awaited

/-- The state of a process as its summary has it. -/
theorem state?_eq_summary? (table : ProcessTable) (pid : Pid) :
    table.state? pid = (table.summary? pid).map fun summary => summary.2.1 := by
  rw [state?, summary?, Option.map_map]
  rfl

/-- A zombie was one before, or terminated as it says. -/
theorem Happening.zombie_cases (happening : Happening table entry table') {pid : Pid}
    {how : Termination} (ended : table'.state? pid = some (.zombie how)) :
    table.state? pid = some (.zombie how) ∨ (pid, how) ∈ TableHistory.terminations [entry] := by
  rw [state?_eq_summary?] at ended ⊢
  cases happening with
  | registered registration =>
    rw [registration.summary?_eq] at ended
    split at ended
    · cases ended
    · exact .inl ended
  | @ended gone how' record _ news ending =>
    rw [ending.summary?_eq] at ended
    split at ended
    · rename_i same
      split at ended
      · cases ended
      · cases ended
        exact .inr (List.mem_singleton.2 (by rw [same]))
    · split at ended
      · -- The orphans run.
        obtain ⟨summary, orphaned, state⟩ := Option.map_eq_some_iff.1 ended
        obtain ⟨⟨parent, old, last⟩, _, kept⟩ := Option.bind_eq_some_iff.1 orphaned
        simp only at kept
        split at kept
        · rename_i running
          cases kept
          rw [running] at state
          cases state
        · cases kept
      · exact .inl ended
  | reaped reaping =>
    rw [reaping.summary?_eq] at ended
    split at ended
    · cases ended
    · split at ended
      · rw [Option.map_map] at ended
        exact .inl ended
      · exact .inl ended
  | awaited awaiting =>
    rw [awaiting.summary?_eq] at ended
    exact .inl ended
  | shutdown =>
    rw [summary?_shutdown] at ended
    exact .inl ended
  | notRegistered => exact .inl ended
  | notEnded => exact .inl ended
  | notJoined => exact .inl ended

/-! ### All calls -/

namespace Dealings

/-- A successful registration is one call. -/
theorem of_register {parent : Option Pid} {pid : Pid}
    (result : table.register parent = .ok (table', pid)) :
    Dealings table [(.register parent, .registered pid)] table' := by
  have called : Dealings table _ _ := .call (.register parent) .none
  simp only [TableCall.action, ProcessAction.run, result] at called
  exact called

/-- A termination that is recorded is one call. -/
theorem of_terminate {pid : Pid} {how : Termination} {news : TerminationNews}
    (result : table.terminate pid how = some (table', news)) :
    Dealings table [(.terminate pid how, .news (some news))] table' := by
  have called : Dealings table _ _ := .call (.terminate pid how) .none
  simp only [TableCall.action, ProcessAction.run, result] at called
  exact called

/-- A join that is not refused is one call. -/
theorem of_pollJoin {caller child : Pid} {poll : JoinPoll}
    (result : table.pollJoin caller child = .ok (table', poll)) :
    Dealings table [(.pollJoin caller child, .polled poll)] table' := by
  have called : Dealings table _ _ := .call (.pollJoin caller child) .none
  simp only [TableCall.action, ProcessAction.run, result] at called
  exact called

/-- A shutdown is one call. -/
theorem of_shutdown (table : ProcessTable) :
    Dealings table [(.shutdown, .waiters table.shutdown.2)] table.shutdown.1 :=
  .call .shutdown .none

/-- One set of dealings after another. -/
theorem trans (first : Dealings table history table') (second : Dealings table' later table'') :
    Dealings table (later ++ history) table'' := by
  induction second with
  | none => exact first
  | call call _ ih => exact .call call ih

/-- Dealings with a table that calls have led to extend its history. -/
theorem recorded (dealings : Dealings table later table')
    (earlier : Recorded capacity history table) : Recorded capacity (later ++ history) table' := by
  induction dealings with
  | none => exact earlier
  | call call _ ih => exact .call call ih

theorem wellFormed (dealings : Dealings table history table') (wellFormed : table.WellFormed) :
    table'.WellFormed := by
  induction dealings with
  | none => exact wellFormed
  | call call _ ih => exact (happening ih call).wellFormed ih

/-- Dealings keep the chains of children finite. -/
theorem wellFounded_isChildOf (dealings : Dealings table history table')
    (wellFormed : table.WellFormed) (founded : WellFounded table.IsChildOf) :
    WellFounded table'.IsChildOf := by
  induction dealings with
  | none => exact founded
  | call call earlier ih =>
    have wellFormed := earlier.wellFormed wellFormed
    exact (happening wellFormed call).wellFounded_isChildOf wellFormed ih

/-- A parent still waits for its child, unless it is to be woken or has terminated. -/
theorem isAwaited (dealings : Dealings table history table') (wellFormed : table.WellFormed)
    {parent child : Pid} (awaited : table.IsAwaited parent child)
    (stays : parent ∉ history.endedPids) :
    table'.IsAwaited parent child ∨ parent ∈ history.wakes := by
  induction dealings with
  | none => exact .inl awaited
  | @call history table' call earlier ih =>
    have split := TableHistory.endedPids_append [(call, (call.action.run table').2)] history
    rw [List.singleton_append] at split
    rw [split, List.mem_append, not_or] at stays
    rcases ih stays.2 with still | woken
    · have wellFormed := earlier.wellFormed wellFormed
      exact ((happening wellFormed call).isAwaited wellFormed still stays.1).imp_right
        (List.mem_append_right _)
    · exact .inr (List.mem_append_left _ woken)

/-- A zombie was one before, or terminated as it says. -/
theorem zombie_cases (dealings : Dealings table history table') (wellFormed : table.WellFormed)
    {pid : Pid} {how : Termination} (ended : table'.state? pid = some (.zombie how)) :
    table.state? pid = some (.zombie how) ∨ (pid, how) ∈ history.terminations := by
  induction dealings with
  | none => exact .inl ended
  | @call history table' call earlier ih =>
    have split := TableHistory.terminations_append [(call, (call.action.run table').2)] history
    rw [List.singleton_append] at split
    rw [split, List.mem_append]
    rcases (happening (earlier.wellFormed wellFormed) call).zombie_cases ended with old | new
    · exact (ih old).imp_right .inr
    · exact .inr (.inl new)

end Dealings

end ProcessTable

end SyscallKernel
