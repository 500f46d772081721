import SyscallKernel.Proofs.Process.Termination

/-!
# Terminating processes in any order

Two processes leave the same table whichever of them terminates first. If one of them is
the parent of the other, the child becomes an orphan and goes with its own termination, or
it becomes a zombie and is discarded with its parent; either way nothing of it remains. A
permutation of the terminations changes no more than adjacent ones can.
-/

namespace SyscallKernel

namespace ProcessRecord

/-- What a process leaves behind goes with its parent. -/
theorem orphaned?_of_ended (record : ProcessRecord) (how : Termination) :
    (record.ended? how).bind orphaned? = none := by
  unfold ended?
  split
  · rfl
  · rfl

/-- An orphan leaves nothing behind. -/
theorem ended?_of_orphaned (record : ProcessRecord) (how : Termination) :
    (record.orphaned?.bind fun orphan => orphan.ended? how) = none := by
  unfold orphaned?
  split
  · rfl
  · rfl

end ProcessRecord

namespace ProcessRecords

/-- Records in order are known by what a lookup finds. -/
theorem eq_of_get?_eq {records others : ProcessRecords} (ascending : records.Ascending)
    (ascending' : others.Ascending) (same : ∀ pid, records.get? pid = others.get? pid) :
    records = others := by
  have distinct : ∀ {listed : ProcessRecords}, listed.Ascending → listed.Nodup := by
    intro listed ordered
    refine ordered.imp ?_
    intro first second less equal
    rw [equal] at less
    exact Nat.lt_irrefl _ less
  have members : ∀ record, record ∈ records ↔ record ∈ others := by
    intro record
    have left := and_iff_left (a := record ∈ records) (rfl : record.pid = record.pid)
    have right := and_iff_left (a := record ∈ others) (rfl : record.pid = record.pid)
    rw [← left, ← right, ← get?_eq_some_iff ascending, ← get?_eq_some_iff ascending', same]
  refine List.Perm.eq_of_pairwise ?_ ascending ascending'
    ((List.perm_ext_iff_of_nodup (distinct ascending) (distinct ascending')).2 members)
  intro first second _ _ less greater
  exact absurd greater (Nat.lt_asymm less)

end ProcessRecords

namespace ProcessTable

variable {table table₁ table₂ table' table'' : ProcessTable} {p q : Pid} {a b : Termination}

/-- The table after a process was to be terminated; it stays as it is if the process does not
run. -/
def ended (table : ProcessTable) (pid : Pid) (how : Termination) : ProcessTable :=
  (table.terminate pid how).elim table Prod.fst

/-- The table after some processes were to be terminated, one after the other. -/
def terminateAll (table : ProcessTable) : List (Pid × Termination) → ProcessTable
  | [] => table
  | (pid, how) :: rest => (table.ended pid how).terminateAll rest

/-- What is found under a pid after one process has terminated. -/
def lookupAfter (table : ProcessTable) (pid : Pid) (how : Termination) (other : Pid) :
    Option ProcessRecord :=
  if other = pid then (table.records.get? pid).bind fun record => record.ended? how
  else if table.parent? other = some pid then
    (table.records.get? other).bind ProcessRecord.orphaned?
  else table.records.get? other

/-- A lookup after a termination, without naming the record that was there. -/
theorem Ending.get?_eq {record : ProcessRecord} {news : TerminationNews}
    (ending : Ending table p a record table' news) (other : Pid) :
    table'.records.get? other = table.lookupAfter p a other := by
  rw [ending.lookup, lookupAfter, ending.found, Option.bind_some]

/-- Whoever is not a child of the first process looks the same to the second whether the first
has terminated or not; a child of the first leaves nothing in either order. -/
theorem lookupAfter_of_ending {r : ProcessRecord} {news : TerminationNews}
    (wellFormed : table.WellFormed) (apart : p ≠ q) (ending : Ending table p a r table₁ news) :
    table₁.lookupAfter q b p = if table.parent? p = some q then none
      else (table.records.get? p).bind fun record => record.ended? a := by
  have own : table.parent? p ≠ some p := fun own => (wellFormed.parent_running own).1 rfl
  rw [lookupAfter, if_neg apart, ending.parent?_eq wellFormed, if_neg own, ending.get?_eq,
    lookupAfter, if_pos rfl, ending.found, Option.bind_some]
  split
  · exact r.orphaned?_of_ended a
  · rfl

/-- The second of two processes to terminate leaves nothing if the first was its parent. -/
theorem lookupAfter_self_of_ending {r : ProcessRecord} {news : TerminationNews}
    (apart : p ≠ q) (ending : Ending table p a r table₁ news) :
    table₁.lookupAfter q b q = if table.parent? q = some p then none
      else (table.records.get? q).bind fun record => record.ended? b := by
  rw [lookupAfter, if_pos rfl, ending.get?_eq, lookupAfter, if_neg apart.symm]
  split
  · cases table.records.get? q with
    | none => rfl
    | some record => exact record.ended?_of_orphaned b
  · rfl

/-- A third process is an orphan afterwards if one of the two was its parent. -/
theorem lookupAfter_other_of_ending {r : ProcessRecord} {news : TerminationNews} {other : Pid}
    (wellFormed : table.WellFormed) (ending : Ending table p a r table₁ news)
    (notFirst : other ≠ p) (notSecond : other ≠ q) :
    table₁.lookupAfter q b other =
      if table.parent? other = some p ∨ table.parent? other = some q then
        (table.records.get? other).bind ProcessRecord.orphaned?
      else table.records.get? other := by
  rw [lookupAfter, if_neg notSecond, ending.parent?_eq wellFormed, ending.get?_eq, lookupAfter,
    if_neg notFirst]
  by_cases ofFirst : table.parent? other = some p
  · simp only [ofFirst, if_true, reduceCtorEq, if_false, true_or]
  · simp only [ofFirst, if_false, false_or]

/-- Two processes leave the same table whichever terminates first. -/
theorem Ending.comm {r r' s s' : ProcessRecord} {n n' m m' : TerminationNews}
    (wellFormed : table.WellFormed) (apart : p ≠ q) (first : Ending table p a r table₁ n)
    (next : Ending table₁ q b s table' m) (first' : Ending table q b r' table₂ n')
    (next' : Ending table₂ p a s' table'' m') : table' = table'' := by
  have records : table'.records = table''.records := by
    refine ProcessRecords.eq_of_get?_eq next.ascending next'.ascending ?_
    intro other
    rw [next.get?_eq, next'.get?_eq]
    by_cases isFirst : other = p
    · subst isFirst
      rw [lookupAfter_of_ending wellFormed apart first,
        lookupAfter_self_of_ending apart.symm first']
    · by_cases isSecond : other = q
      · subst isSecond
        rw [lookupAfter_self_of_ending apart first,
          lookupAfter_of_ending wellFormed apart.symm first']
      · rw [lookupAfter_other_of_ending wellFormed first isFirst isSecond,
          lookupAfter_other_of_ending wellFormed first' isSecond isFirst]
        simp only [or_comm]
  have root : table'.root = table''.root := by
    rw [next.root, first.root, next'.root, first'.root]
    by_cases isFirst : table.root = some p
    · have notSecond : some p ≠ some q := fun same => apart (Option.some.inj same)
      simp only [isFirst, if_true, notSecond, if_false, reduceCtorEq]
    · by_cases isSecond : table.root = some q
      · have notFirst : some q ≠ some p := fun same => apart (Option.some.inj same).symm
        simp only [isSecond, if_true, notFirst, if_false, reduceCtorEq]
      · simp only [isFirst, isSecond, if_false]
  have capacity : table'.capacity = table''.capacity := by
    rw [next.capacity, first.capacity, next'.capacity, first'.capacity]
  have nextPid : table'.nextPid = table''.nextPid := by
    rw [next.nextPid, first.nextPid, next'.nextPid, first'.nextPid]
  have isShutdown : table'.isShutdown = table''.isShutdown := by
    rw [next.isShutdown, first.isShutdown, next'.isShutdown, first'.isShutdown]
  cases table'
  cases table''
  simp only at records root capacity nextPid isShutdown
  simp only [records, root, capacity, nextPid, isShutdown]

/-- A running process can be terminated, and what that does is known. -/
theorem exists_ending (wellFormed : table.WellFormed) (running : table.isRunning p = true)
    (a : Termination) : ∃ news, table.terminate p a = some (table.ended p a, news) ∧
      ∃ record, Ending table p a record (table.ended p a) news := by
  unfold ended
  cases result : table.terminate p a with
  | none =>
    rw [terminate_eq_none_iff, running] at result
    cases result
  | some ended => exact ⟨ended.2, rfl, ending_of_terminate wellFormed result⟩

/-- A process that does not run is not terminated. -/
theorem ended_of_stopped (stopped : table.isRunning p = false) (a : Termination) :
    table.ended p a = table := by
  rw [ended, terminate_eq_none_iff.2 stopped, Option.elim_none]

theorem wellFormed_ended (wellFormed : table.WellFormed) (p : Pid) (a : Termination) :
    (table.ended p a).WellFormed := by
  cases running : table.isRunning p with
  | false =>
    rw [ended_of_stopped running]
    exact wellFormed
  | true =>
    obtain ⟨news, -, record, ending⟩ := exists_ending wellFormed running a
    exact ending.wellFormed wellFormed

/-- The termination of one process does not decide whether another runs. -/
theorem isRunning_ended (wellFormed : table.WellFormed) (apart : q ≠ p) (a : Termination) :
    (table.ended p a).isRunning q = table.isRunning q := by
  cases running : table.isRunning p with
  | false => rw [ended_of_stopped running]
  | true =>
    obtain ⟨news, -, record, ending⟩ := exists_ending wellFormed running a
    rw [ending.isRunning_eq, decide_eq_true apart, Bool.true_and]

/-- Two processes leave the same table whichever is terminated first, if they run at all. -/
theorem ended_comm (wellFormed : table.WellFormed) (apart : p ≠ q) (a b : Termination) :
    (table.ended p a).ended q b = (table.ended q b).ended p a := by
  have keeps := isRunning_ended wellFormed apart b
  have keeps' := isRunning_ended wellFormed apart.symm a
  cases running : table.isRunning p with
  | false => rw [ended_of_stopped running, ended_of_stopped (keeps.trans running)]
  | true =>
    cases running' : table.isRunning q with
    | false => rw [ended_of_stopped running', ended_of_stopped (keeps'.trans running')]
    | true =>
      obtain ⟨_, -, _, first⟩ := exists_ending wellFormed running a
      obtain ⟨_, -, _, first'⟩ := exists_ending wellFormed running' b
      obtain ⟨_, -, _, next⟩ :=
        exists_ending (first.wellFormed wellFormed) (keeps'.trans running') b
      obtain ⟨_, -, _, next'⟩ :=
        exists_ending (first'.wellFormed wellFormed) (keeps.trans running) a
      exact first.comm wellFormed apart next first' next'

/-- The order in which different processes are terminated does not matter. -/
theorem terminateAll_perm {endings order : List (Pid × Termination)} (wellFormed : table.WellFormed)
    (distinct : (endings.map Prod.fst).Nodup) (same : endings.Perm order) :
    table.terminateAll endings = table.terminateAll order := by
  induction same generalizing table with
  | nil => rfl
  | cons ending _ ih =>
    exact ih (wellFormed_ended wellFormed ending.1 ending.2) (List.nodup_cons.1 distinct).2
  | swap first second rest =>
    have apart : second.1 ≠ first.1 := by
      intro equal
      exact (List.nodup_cons.1 distinct).1 (equal ▸ List.mem_cons_self)
    simp only [terminateAll, ended_comm wellFormed apart]
  | trans firstHalf _ ih ih' =>
    have distinct' := (firstHalf.map Prod.fst).nodup_iff.1 distinct
    exact (ih wellFormed distinct).trans (ih' wellFormed distinct')

/-- What holds of a process table if it does not matter which process terminates first. -/
structure EndsInAnyOrder (table : ProcessTable) : Prop where
  /-- Two running processes can be terminated in either order, and leave the same table. -/
  pair : ∀ p q, p ≠ q → table.isRunning p = true → table.isRunning q = true → ∀ a b,
    ∃ table₁ table₂ table' n₁ n₂ m₁ m₂,
      (table.terminate p a = some (table₁, n₁) ∧ table₁.terminate q b = some (table', m₁)) ∧
        (table.terminate q b = some (table₂, n₂) ∧ table₂.terminate p a = some (table', m₂))
  /-- Any processes can be terminated in any order, and leave the same table. -/
  all : ∀ endings order : List (Pid × Termination), (endings.map Prod.fst).Nodup →
    endings.Perm order → table.terminateAll endings = table.terminateAll order

theorem WellFormed.endsInAnyOrder (wellFormed : table.WellFormed) : table.EndsInAnyOrder where
  pair p q apart running running' a b := by
    have wellFormed₁ := wellFormed_ended wellFormed p a
    have wellFormed₂ := wellFormed_ended wellFormed q b
    obtain ⟨n₁, first, -⟩ := exists_ending wellFormed running a
    obtain ⟨n₂, first', -⟩ := exists_ending wellFormed running' b
    obtain ⟨m₁, next, -⟩ := exists_ending wellFormed₁
      ((isRunning_ended wellFormed apart.symm a).trans running') b
    obtain ⟨m₂, next', -⟩ := exists_ending wellFormed₂
      ((isRunning_ended wellFormed apart b).trans running) a
    rw [← ended_comm wellFormed apart] at next'
    exact ⟨_, _, _, n₁, n₂, m₁, m₂, ⟨first, next⟩, first', next'⟩
  all _ _ distinct same := terminateAll_perm wellFormed distinct same

end ProcessTable

end SyscallKernel
