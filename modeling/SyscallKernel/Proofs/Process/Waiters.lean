import SyscallKernel.Proofs.Process.History

/-!
# Who waits for whom

A parent that polls a running child becomes its waiter. Should the parent terminate
first, the child becomes an orphan but keeps the waiter: the waiter of a process is
its live parent exactly as long as it was not deserted in this way.
-/

namespace SyscallKernel

namespace TableHistory

/-- The process that polled another one last and was told to wait, until the other
one terminates or the table is shut down. -/
def waiting? : TableHistory → Pid → Option Pid
  | [], _ => none
  | (.pollJoin caller child, .polled .pending) :: earlier, pid =>
    if child = pid then some caller else waiting? earlier pid
  | (.terminate ended _, .news (some _)) :: earlier, pid =>
    if ended = pid then none else waiting? earlier pid
  | (.shutdown, _) :: _, _ => none
  | _ :: earlier, pid => waiting? earlier pid

/-- Whether the process that waits for another one has terminated since it was told
to wait. -/
def deserted : TableHistory → Pid → Bool
  | [], _ => false
  | (.pollJoin _ child, .polled .pending) :: earlier, pid =>
    if child = pid then false else deserted earlier pid
  | (.terminate ended _, .news (some _)) :: earlier, pid =>
    if ended = pid then false
    else if waiting? earlier pid = some ended then true
    else deserted earlier pid
  | (.shutdown, _) :: _, _ => false
  | _ :: earlier, pid => deserted earlier pid

end TableHistory

namespace ProcessTable

variable {table table' : ProcessTable} {capacity : Nat} {history : TableHistory}

/-- The process registered as the waiter of another one. -/
def waiter? (table : ProcessTable) (pid : Pid) : Option Pid :=
  (table.records.get? pid).bind ProcessRecord.waiter

theorem waiter?_eq_some_iff {pid waiter : Pid} :
    table.waiter? pid = some waiter ↔
      ∃ record, table.records.get? pid = some record ∧ record.waiter = some waiter := by
  simp only [waiter?, Option.bind_eq_some_iff]

/-- Nobody waits for a zombie. -/
theorem waiter?_of_not_running (wellFormed : table.WellFormed) {pid : Pid}
    (ended : table.isRunning pid = false) : table.waiter? pid = none := by
  rw [waiter?]
  cases found : table.records.get? pid with
  | none => rfl
  | some record =>
    rw [Option.bind_some]
    cases state : record.state with
    | running =>
      rw [isRunning_iff.2 ⟨record, found, state⟩] at ended
      cases ended
    | zombie how => exact (wellFormed.zombie found state).2.2.2

/-- A registration changes no waiter. -/
theorem Registration.waiter?_eq {parent : Option Pid} {pid : Pid}
    (registration : Registration table parent table' pid) (other : Pid) :
    table'.waiter? other = table.waiter? other := by
  simp only [waiter?, registration.lookup]
  by_cases same : other = pid
  · subst same
    simp only [if_true, Option.bind_some, ProcessRecord.fresh, registration.free, Option.bind_none]
  · simp only [same, if_false]
    split
    · cases table.records.get? other <;> rfl
    · rfl

/-- A termination takes the waiter of the process that ended and of no other. -/
theorem Ending.waiter?_eq {pid : Pid} {how : Termination} {record : ProcessRecord}
    {news : TerminationNews} (ending : Ending table pid how record table' news)
    (wellFormed : table.WellFormed) (other : Pid) :
    table'.waiter? other = if other = pid then none else table.waiter? other := by
  simp only [waiter?, ending.lookup]
  by_cases same : other = pid
  · simp only [same, if_true, ProcessRecord.ended?]
    split <;> rfl
  · simp only [same, if_false]
    split
    · cases found : table.records.get? other with
      | none => rfl
      | some old =>
        simp only [Option.bind_some, ProcessRecord.orphaned?]
        split
        · rfl
        · rename_i stopped
          -- A forgotten zombie had no waiter.
          have ended : table.isRunning other = false := by
            simpa only [isRunning, found, Option.any_some, Bool.not_eq_true] using stopped
          have unawaited := waiter?_of_not_running wellFormed ended
          rw [waiter?, found, Option.bind_some] at unawaited
          rw [unawaited, Option.bind_none]
    · rfl

/-- Reaping changes no waiter. -/
theorem Reaping.waiter?_eq {caller child : Pid} {how : Termination}
    (reaping : Reaping table caller child how table') (wellFormed : table.WellFormed)
    (other : Pid) : table'.waiter? other = table.waiter? other := by
  by_cases same : other = child
  · subst same
    obtain ⟨record, found, state⟩ := Option.map_eq_some_iff.1 reaping.ended
    have unawaited := (wellFormed.zombie found state).2.2.2
    simp only [waiter?, reaping.lookup, if_true, found, Option.bind_none, Option.bind_some, unawaited]
  · simp only [waiter?, reaping.lookup, same, if_false]
    split
    · cases table.records.get? other <;> rfl
    · rfl

/-- Polling a running child makes the caller its waiter. -/
theorem Awaiting.waiter?_eq {caller child : Pid} (awaiting : Awaiting table caller child table')
    (other : Pid) :
    table'.waiter? other = if other = child then some caller else table.waiter? other := by
  simp only [waiter?, awaiting.lookup]
  by_cases same : other = child
  · obtain ⟨record, found, _⟩ := isRunning_iff.1 awaiting.running
    simp only [same, if_true, found, Option.map_some, Option.bind_some]
  · simp only [same, if_false]

/-- After a shutdown nobody waits. -/
theorem waiter?_shutdown (table : ProcessTable) (pid : Pid) :
    table.shutdown.1.waiter? pid = none := by
  simp only [waiter?, get?_shutdown]
  cases table.records.get? pid <;> rfl

/-- The history knows the waiters, and which of them are still parents. -/
structure WaitersKnown (table : ProcessTable) (history : TableHistory) : Prop where
  /-- The waiter of a process is the last one that was told to wait. -/
  waiter?_eq : ∀ pid, table.waiter? pid = history.waiting? pid
  /-- The waiter of a process is its parent unless it has deserted the process. -/
  parent?_eq : ∀ {pid waiter}, history.waiting? pid = some waiter →
    table.parent? pid = if history.deserted pid = true then none else some waiter

/-- Each call keeps the history's knowledge of the waiters. -/
theorem Happening.waitersKnown {entry : TableCall × ProcessAnswer}
    (happening : Happening table entry table') (wellFormed : table.WellFormed)
    (known : table.WaitersKnown history) : table'.WaitersKnown (entry :: history) := by
  cases happening with
  | registered registration =>
    refine ⟨fun pid => (registration.waiter?_eq pid).trans (known.waiter?_eq pid), ?_⟩
    intro pid waiter waits
    have waits : history.waiting? pid = some waiter := waits
    have old : table.waiter? pid = some waiter := (known.waiter?_eq pid).trans waits
    obtain ⟨record, found, _⟩ := waiter?_eq_some_iff.1 old
    rw [registration.parent?_eq, if_neg, known.parent?_eq waits]
    · rfl
    · intro equal
      subst equal
      rw [registration.free] at found
      cases found
  | @ended ended how record _ news ending =>
    constructor
    · intro pid
      rw [ending.waiter?_eq wellFormed, known.waiter?_eq, TableHistory.waiting?]
      simp only [eq_comm]
    · intro pid waiter waits
      rw [TableHistory.waiting?] at waits
      split at waits
      · cases waits
      rename_i other
      rw [ending.parent?_eq wellFormed, known.parent?_eq waits, TableHistory.deserted, waits]
      by_cases gone : history.deserted pid = true
      · simp only [gone, other, if_true, if_false, ite_self]
      · by_cases same : waiter = ended
        · simp only [gone, other, same, if_true, if_false, Bool.false_eq_true]
        · simp only [gone, other, Option.some.injEq, same, if_false, Bool.false_eq_true]
  | reaped reaping =>
    refine ⟨fun pid => (reaping.waiter?_eq wellFormed pid).trans (known.waiter?_eq pid), ?_⟩
    intro pid waiter waits
    have waits : history.waiting? pid = some waiter := waits
    have old : table.waiter? pid = some waiter := (known.waiter?_eq pid).trans waits
    obtain ⟨record, found, waits'⟩ := waiter?_eq_some_iff.1 old
    rw [reaping.parent?_eq, if_neg, known.parent?_eq waits]
    · rfl
    · intro equal
      subst equal
      obtain ⟨zombie, found', state⟩ := Option.map_eq_some_iff.1 reaping.ended
      rw [found] at found'
      cases found'
      rw [(wellFormed.zombie found state).2.2.2] at waits'
      cases waits'
  | @awaited caller child _ awaiting =>
    constructor
    · intro pid
      rw [awaiting.waiter?_eq, known.waiter?_eq, TableHistory.waiting?]
      simp only [eq_comm]
    · intro pid waiter waits
      rw [awaiting.parent?_eq]
      rw [TableHistory.waiting?] at waits
      rw [TableHistory.deserted]
      split at waits
      · rename_i same
        cases waits
        rw [← same, awaiting.parent]
        simp only [if_true, if_false, Bool.false_eq_true]
      · rename_i other
        rw [known.parent?_eq waits]
        simp only [other, if_false]
  | shutdown => exact ⟨waiter?_shutdown table, fun waits => nomatch waits⟩
  | notRegistered => exact ⟨known.waiter?_eq, known.parent?_eq⟩
  | notEnded => exact ⟨known.waiter?_eq, known.parent?_eq⟩
  | notJoined => exact ⟨known.waiter?_eq, known.parent?_eq⟩

/-- The history of a table knows its waiters. -/
theorem Recorded.waitersKnown (recorded : Recorded capacity history table) :
    table.WaitersKnown history := by
  induction recorded with
  | start => exact ⟨fun _ => rfl, fun waits => nomatch waits⟩
  | call call earlier ih =>
    have wellFormed := earlier.wellFormed
    exact (happening wellFormed call).waitersKnown wellFormed ih

/-- A process that has not deserted the one it waits for is its parent, and runs. -/
theorem WaitersKnown.live_parent_iff (known : table.WaitersKnown history)
    (wellFormed : table.WellFormed) {pid waiter : Pid} (waits : table.waiter? pid = some waiter) :
    (table.parent? pid = some waiter ∧ table.isRunning waiter = true) ↔
      history.deserted pid = false := by
  rw [known.waiter?_eq] at waits
  have parent := known.parent?_eq waits
  cases gone : history.deserted pid with
  | true =>
    simp only [gone, if_true] at parent
    simp only [parent, reduceCtorEq, false_and]
  | false =>
    simp only [gone, Bool.false_eq_true, if_false] at parent
    simp only [parent, (wellFormed.parent_running parent).2, and_self]

/-- The waiters of a table are those its history tells, and each is the live parent
of the process it waits for exactly if it has not deserted it. The same holds of a
waiter that a termination reports, and a shutdown reports all waiters. -/
theorem waiter_live_parent_iff_not_deserted (recorded : Recorded capacity history table) :
    (∀ pid, table.waiter? pid = history.waiting? pid) ∧
    (∀ pid waiter, table.waiter? pid = some waiter →
      ((table.parent? pid = some waiter ∧ table.isRunning waiter = true) ↔
        history.deserted pid = false)) ∧
    (∀ pid how table' news, table.terminate pid how = some (table', news) →
      news.waiter = table.waiter? pid ∧
      ∀ waiter, news.waiter = some waiter →
        ((table.parent? pid = some waiter ∧ table.isRunning waiter = true ∧
          table'.isRunning waiter = true) ↔ history.deserted pid = false)) ∧
    (∀ waiter, waiter ∈ table.shutdown.2 ↔ ∃ pid, table.waiter? pid = some waiter) := by
  have wellFormed := recorded.wellFormed
  have known := recorded.waitersKnown
  refine ⟨known.waiter?_eq, fun pid waiter waits => known.live_parent_iff wellFormed waits, ?_, ?_⟩
  · intro pid how table' news result
    obtain ⟨record, ending⟩ := ending_of_terminate wellFormed result
    have reported : news.waiter = table.waiter? pid := by
      rw [ending.waiter, waiter?, ending.found, Option.bind_some]
    refine ⟨reported, ?_⟩
    intro waiter waits
    rw [reported] at waits
    rw [← known.live_parent_iff wellFormed waits]
    constructor
    · rintro ⟨parent, running, _⟩
      exact ⟨parent, running⟩
    · rintro ⟨parent, running⟩
      refine ⟨parent, running, ?_⟩
      -- The process that ends is not its own parent.
      rw [ending.isRunning_eq, running, Bool.and_true, decide_eq_true_eq]
      exact (wellFormed.parent_running parent).1
  · intro waiter
    rw [mem_shutdown wellFormed]
    simp only [waiter?_eq_some_iff]

/-- A parent that waits for its child and then exits is still reported as the waiter
when the child, by now an orphan, terminates. -/
theorem orphan_reports_terminated_waiter :
    ∃ history table table' news, Recorded 4 history table ∧
      history.map Prod.fst = [.terminate ⟨1⟩ (.exited 0), .pollJoin ⟨1⟩ ⟨2⟩,
        .register (some ⟨1⟩), .register none] ∧
      table.terminate ⟨2⟩ .killed = some (table', news) ∧
      news.waiter = some ⟨1⟩ ∧ history.deserted ⟨2⟩ = true ∧
      ¬ (table.parent? ⟨2⟩ = some ⟨1⟩ ∧ table.isRunning ⟨1⟩ = true) := by
  have recorded : Recorded 4 _ _ := .call (.terminate ⟨1⟩ (.exited 0))
    (.call (.pollJoin ⟨1⟩ ⟨2⟩) (.call (.register (some ⟨1⟩)) (.call (.register none) .start)))
  obtain ⟨_, livesIff, _, _⟩ := waiter_live_parent_iff_not_deserted recorded
  refine ⟨_, _, _, _, recorded, rfl, rfl, rfl, rfl, ?_⟩
  rw [livesIff ⟨2⟩ ⟨1⟩ rfl]
  decide

end ProcessTable

end SyscallKernel
