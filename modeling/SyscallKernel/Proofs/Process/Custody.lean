import SyscallKernel.Proofs.Process.Dealings

/-!
# Who keeps a child

A child stays its parent's, and the result of one that has terminated stays where it is, until
the parent reaps the child or terminates itself. No operation in the name of anybody else takes
either away. As long as the machine runs, the parent is never refused its child.
-/

namespace SyscallKernel.ProcessTable

variable {table table' table'' : ProcessTable} {parent child : Pid}

/-- A parent keeps a child from one table to another. -/
structure Keeps (table : ProcessTable) (parent child : Pid) (table' : ProcessTable) : Prop where
  /-- The child stays its parent's. -/
  adopted : table.parent? child = some parent → table'.parent? child = some parent
  /-- If the child has terminated, its result stays. -/
  ended : table.parent? child = some parent → ∀ how, table.state? child = some (.zombie how) →
    table'.state? child = some (.zombie how)

theorem Keeps.refl (table : ProcessTable) (parent child : Pid) : table.Keeps parent child table :=
  ⟨fun adopted => adopted, fun _ _ ended => ended⟩

theorem Keeps.of_eq (same : table' = table) : table.Keeps parent child table' := by
  rw [same]
  exact .refl table parent child

theorem Keeps.trans (first : table.Keeps parent child table')
    (second : table'.Keeps parent child table'') : table.Keeps parent child table'' where
  adopted isChild := second.adopted (first.adopted isChild)
  ended isChild how ended := second.ended (first.adopted isChild) how (first.ended isChild how ended)

/-- A process whose summary stays keeps its parent and its state. -/
theorem Keeps.of_summary? (same : table'.summary? child = table.summary? child) :
    table.Keeps parent child table' := by
  have sameParent : table'.parent? child = table.parent? child := by
    have firsts := congrArg (fun summary => summary.bind Prod.fst) same
    simp only [summary?, Option.bind_map, Function.comp_def] at firsts
    exact firsts
  refine ⟨fun isChild => sameParent.trans isChild, fun _ how ended => ?_⟩
  rw [state?_eq_summary?, same, ← state?_eq_summary?]
  exact ended

/-- A child has a record. -/
theorem ne_of_free {pid : Pid} (isChild : table.parent? child = some parent)
    (free : table.records.get? pid = none) : child ≠ pid := by
  rintro rfl
  rw [parent?, free] at isChild
  cases isChild

/-- Nobody loses a child when a process is registered. -/
theorem Registration.keeps {adopter : Option Pid} {pid : Pid}
    (registration : Registration table adopter table' pid) (parent child : Pid) :
    table.Keeps parent child table' := by
  by_cases same : child = pid
  · subst same
    exact ⟨fun isChild => absurd rfl (ne_of_free isChild registration.free),
      fun isChild => absurd rfl (ne_of_free isChild registration.free)⟩
  · refine .of_summary? ?_
    rw [registration.summary?_eq, if_neg same]

/-- Nobody loses a child when somebody else terminates. -/
theorem Ending.keeps {pid : Pid} {how : Termination} {record : ProcessRecord}
    {news : TerminationNews} (ending : Ending table pid how record table' news)
    (wellFormed : table.WellFormed) (other : parent ≠ pid) : table.Keeps parent child table' := by
  constructor
  case adopted =>
    intro isChild
    rw [ending.parent?_eq wellFormed, isChild, if_neg]
    exact fun same => other (Option.some.inj same)
  case ended =>
    intro isChild how' ended
    have alive : child ≠ pid := by
      rintro rfl
      rw [state?, ending.found, Option.map_some, ending.running] at ended
      cases ended
    rw [state?_eq_summary?, ending.summary?_eq, if_neg alive, if_neg, ← state?_eq_summary?]
    · exact ended
    · rw [isChild]
      exact fun same => other (Option.some.inj same)

/-- Nobody loses a child but who reaps it. -/
theorem Reaping.keeps {caller reaped : Pid} {how : Termination}
    (reaping : Reaping table caller reaped how table')
    (other : ¬ (parent = caller ∧ child = reaped)) : table.Keeps parent child table' := by
  have spared : table.parent? child = some parent → child ≠ reaped := by
    rintro isChild rfl
    rw [reaping.parent] at isChild
    exact other ⟨(Option.some.inj isChild).symm, rfl⟩
  constructor
  case adopted =>
    intro isChild
    rw [reaping.parent?_eq, if_neg (spared isChild), isChild]
  case ended =>
    intro isChild how' ended
    rw [state?_eq_summary?] at ended ⊢
    rw [reaping.summary?_eq, if_neg (spared isChild)]
    split
    · rw [Option.map_map]
      exact ended
    · exact ended

/-- Waiting takes nobody's child away. -/
theorem Awaiting.keeps {caller awaited : Pid} (awaiting : Awaiting table caller awaited table')
    (parent child : Pid) : table.Keeps parent child table' :=
  .of_summary? (awaiting.summary?_eq child)

/-- Nor does a shutdown. -/
theorem keeps_shutdown (table : ProcessTable) (parent child : Pid) :
    table.Keeps parent child table.shutdown.1 := .of_summary? (summary?_shutdown table child)

/-- On a running machine a parent is answered whenever it asks for its child. -/
theorem exists_pollJoin_eq_ok (wellFormed : table.WellFormed) (running : table.isShutdown = false)
    (isChild : table.parent? child = some parent) :
    ∃ answer, table.pollJoin parent child = .ok answer := by
  obtain ⟨record, found, -⟩ := isRunning_iff.1 (wellFormed.parent_running isChild).2
  obtain ⟨childRecord, childFound, -⟩ := parent?_eq_some_iff.1 isChild
  have member := (wellFormed.mem_children found child).2 isChild
  rw [pollJoin, running, if_neg Bool.false_ne_true, found]
  simp only [member, if_true, childFound]
  split
  · exact ⟨_, rfl⟩
  · exact ⟨_, rfl⟩

end SyscallKernel.ProcessTable
