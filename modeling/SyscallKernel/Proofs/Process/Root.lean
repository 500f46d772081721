import Mathlib.Data.List.Nodup
import SyscallKernel.Proofs.Process.Dealings

/-!
# Who is the root

The role of the root is taken by a process that is registered without a parent when
nobody holds it, and is held until that process terminates. That a process is without
a parent later on, because its parent has gone, never makes it the root.
-/

namespace SyscallKernel

/-- Who holds the role of the root after a call, if `root` did before. -/
def TableHistory.rootAfter (root : Option Pid) : TableCall × ProcessAnswer → Option Pid
  | (.register none, .registered pid) => root.or (some pid)
  | (.terminate pid _, .news (some _)) => if root = some pid then none else root
  | _ => root

/-- A process holds the role of the root after a call if it did before and has not
terminated, or if the call registered it without a parent when nobody held the role. -/
theorem TableHistory.rootAfter_eq_some_iff {root : Option Pid} {entry : TableCall × ProcessAnswer}
    {pid : Pid} :
    rootAfter root entry = some pid ↔ (root = some pid ∧ pid ∉ endedPids [entry]) ∨
      (root = none ∧ entry = (.register none, .registered pid)) := by
  unfold rootAfter
  split
  · rename_i new
    cases root with
    | none =>
      simp only [Option.none_or, Option.some.injEq, reduceCtorEq, false_and, false_or, true_and,
        Prod.mk.injEq, ProcessAnswer.registered.injEq]
    | some old =>
      have unended : endedPids [(.register none, .registered new)] = [] := rfl
      simp only [Option.some_or, unended, List.not_mem_nil, not_false_eq_true, and_true,
        reduceCtorEq, false_and, or_false]
  · rename_i gone how news
    have ended : endedPids [(.terminate gone how, .news (some news))] = [gone] := rfl
    simp only [ended, List.mem_singleton, Prod.mk.injEq, reduceCtorEq, and_false, or_false]
    split
    · rename_i same
      simp only [same, reduceCtorEq, Option.some.injEq, false_iff, not_and, not_not]
      exact fun equal => equal.symm
    · rename_i differs
      refine ⟨fun same => ⟨same, fun equal => differs (equal ▸ same)⟩, fun both => both.1⟩
  · rename_i notRegistered notEnded
    have unended : pid ∉ endedPids [entry] := by
      intro member
      obtain ⟨⟨ended, how⟩, listed, _⟩ := List.mem_map.1 member
      obtain ⟨found, single, termination⟩ := List.mem_filterMap.1 listed
      cases List.mem_singleton.1 single
      unfold termination? at termination
      split at termination
      · exact notEnded _ _ _ rfl
      · cases termination
    have unregistered : entry ≠ (.register none, .registered pid) := fun same =>
      notRegistered pid same
    simp only [unended, not_false_eq_true, and_true, unregistered, and_false, or_false]

namespace ProcessTable

variable {table table' : ProcessTable} {capacity : Nat} {history : TableHistory}
  {entry : TableCall × ProcessAnswer}

/-- The role of the root passes on as the calls say. -/
theorem Happening.root_eq (happening : Happening table entry table') :
    table'.root = TableHistory.rootAfter table.root entry := by
  cases happening with
  | @registered parent pid table' registration =>
    rw [registration.root]
    cases parent with
    | none => rfl
    | some parent => rfl
  | ended ending => exact ending.root
  | reaped reaping => exact reaping.root
  | awaited awaiting =>
    rw [awaiting.rest]
    rfl
  | @notRegistered parent error => cases parent <;> rfl
  | shutdown | notEnded | notJoined => rfl

/-- The table after a history is determined by it. -/
theorem Recorded.unique {other : ProcessTable} (recorded : Recorded capacity history table)
    (again : Recorded capacity history other) : other = table := by
  induction recorded generalizing other with
  | start => cases again with | start => rfl
  | @call history table call earlier ih =>
    generalize same : (call, (call.action.run table).2) :: history = full at again
    cases again with
    | start => cases same
    | call call' earlier' =>
      obtain ⟨entries, rfl⟩ := List.cons.inj same
      obtain ⟨rfl, _⟩ := Prod.mk.inj entries
      rw [ih earlier']

/-- A process was registered without a parent when nobody held the role of the root, and
has not terminated since. -/
def HoldsRole (capacity : Nat) (history : TableHistory) (pid : Pid) : Prop :=
  ∃ later earlier before, history = later ++ (.register none, .registered pid) :: earlier ∧
    Recorded capacity earlier before ∧ (∀ other, before.isRoot other = false) ∧
    pid ∉ TableHistory.endedPids later

theorem isRoot_eq_false_iff : (∀ pid, table.isRoot pid = false) ↔ table.root = none := by
  simp only [isRoot, decide_eq_false_iff_not]
  exact Option.eq_none_iff_forall_ne_some.symm

/-- The last call decides who holds the role, together with who held it before. -/
theorem holdsRole_cons_iff (recorded : Recorded capacity history table) {pid : Pid} :
    HoldsRole capacity (entry :: history) pid ↔
      (HoldsRole capacity history pid ∧ pid ∉ TableHistory.endedPids [entry]) ∨
        (table.root = none ∧ entry = (.register none, .registered pid)) := by
  have split : ∀ later, TableHistory.endedPids (entry :: later) =
      TableHistory.endedPids [entry] ++ TableHistory.endedPids later :=
    TableHistory.endedPids_append [entry]
  constructor
  · rintro ⟨later, earlier, before, same, held, free, spared⟩
    cases later with
    | nil =>
      obtain ⟨rfl, rfl⟩ := List.cons.inj same
      rw [recorded.unique held, isRoot_eq_false_iff] at free
      exact .inr ⟨free, rfl⟩
    | cons last later =>
      obtain ⟨rfl, rfl⟩ := List.cons.inj same
      rw [split, List.mem_append, not_or] at spared
      exact .inl ⟨⟨later, earlier, before, rfl, held, free, spared.2⟩, spared.1⟩
  · rintro (⟨⟨later, earlier, before, rfl, held, free, spared⟩, last⟩ | ⟨free, rfl⟩)
    · refine ⟨entry :: later, earlier, before, rfl, held, free, ?_⟩
      rw [split, List.mem_append, not_or]
      exact ⟨last, spared⟩
    · exact ⟨[], history, table, rfl, recorded, isRoot_eq_false_iff.2 free, List.not_mem_nil⟩

/-- Exactly who took the role and has not terminated is the root. -/
theorem Recorded.isRoot_iff (recorded : Recorded capacity history table) (pid : Pid) :
    table.isRoot pid = true ↔ HoldsRole capacity history pid := by
  induction recorded with
  | start =>
    refine iff_of_false Bool.false_ne_true ?_
    rintro ⟨later, earlier, before, same, _⟩
    exact List.append_ne_nil_of_right_ne_nil later (List.cons_ne_nil _ earlier) same.symm
  | @call history table call earlier ih =>
    have passed := (happening earlier.wellFormed call).root_eq
    have held : table.root = some pid ↔ HoldsRole capacity history pid := by
      rw [← ih, isRoot, decide_eq_true_eq]
    rw [isRoot, decide_eq_true_eq, passed, TableHistory.rootAfter_eq_some_iff, held,
      holdsRole_cons_iff earlier]

/-- Who may halt the machine, in a table with its history. -/
structure HasOneRoot (capacity : Nat) (history : TableHistory) (table : ProcessTable) : Prop where
  /-- There is at most one root. -/
  unique : ∀ first second, table.isRoot first = true → table.isRoot second = true → first = second
  /-- The root runs. -/
  running : ∀ pid, table.isRoot pid = true → table.state? pid = some .running
  /-- The root was registered without a parent. -/
  parentless : ∀ pid, table.isRoot pid = true → (pid, none) ∈ history.registrations
  /-- A process that is registered becomes the root if it has no parent and there is no root. -/
  next : ∀ parent table' pid, table.register parent = .ok (table', pid) →
    (table'.isRoot pid = true ↔ parent = none ∧ ∀ other, table.isRoot other = false)
  /-- The role is held from such a registration to the end of the process. -/
  holds : ∀ pid, table.isRoot pid = true ↔ HoldsRole capacity history pid
  /-- A process that has terminated is not the root. -/
  ended : ∀ pid ∈ history.endedPids, table.isRoot pid = false
  /-- A process that was registered with a parent is not the root, whatever became of the
  parent. -/
  child : ∀ pid parent, (pid, some parent) ∈ history.registrations → table.isRoot pid = false

/-- The registration of a process without a parent makes it the root if there is none. -/
theorem Registration.isRoot_iff {parent : Option Pid} {pid : Pid}
    (registration : Registration table parent table' pid) (wellFormed : table.WellFormed) :
    table'.isRoot pid = true ↔ parent = none ∧ ∀ other, table.isRoot other = false := by
  -- The new pid is free, so it is not that of a root that runs already.
  have notRoot : table.root ≠ some pid := by
    intro root
    have running := wellFormed.root_running root
    rw [isRunning, registration.free] at running
    cases running
  rw [isRoot_eq_false_iff, isRoot, decide_eq_true_eq, registration.root]
  split
  · rename_i parentless
    cases root : table.root with
    | none => simp only [parentless, Option.none_or, and_self]
    | some other =>
      rw [root] at notRoot
      simp only [Option.some_or, notRoot, reduceCtorEq, and_false]
  · rename_i adopted
    simp only [notRoot, adopted, false_and]

/-- In every table that calls lead to before the pids go round there is at most one root. -/
theorem Recorded.hasOneRoot (recorded : Recorded capacity history table)
    (notWrapped : history.registrations.length ≤ Pid.limit) :
    table.HasOneRoot capacity history := by
  have wellFormed := recorded.wellFormed
  have known := recorded.remembered notWrapped
  have runs : ∀ pid, table.isRoot pid = true → table.isRunning pid = true :=
    fun pid root => wellFormed.root_running (of_decide_eq_true root)
  have parentless : ∀ pid, table.isRoot pid = true → (pid, none) ∈ history.registrations := by
    intro pid root
    obtain ⟨later, earlier, _, rfl, _⟩ := (recorded.isRoot_iff pid).1 root
    exact List.mem_filterMap.2 ⟨_, List.mem_append_right _ List.mem_cons_self, rfl⟩
  constructor
  case unique =>
    intro first second one two
    have one : table.root = some first := of_decide_eq_true one
    have two : table.root = some second := of_decide_eq_true two
    exact Option.some.inj (one.symm.trans two)
  case running => exact fun pid root => state?_eq_running_iff.2 (runs pid root)
  case parentless => exact parentless
  case next =>
    intro parent table' pid result
    exact (registration_of_register result).isRoot_iff wellFormed
  case holds => exact recorded.isRoot_iff
  case ended =>
    intro pid ended
    refine Bool.eq_false_iff.2 fun root => ?_
    exact TableHistory.not_mem_of_lookup_eq_none (known.isRunning_iff.1 (runs pid root)).2 ended
  case child =>
    intro pid parent adopted
    refine Bool.eq_false_iff.2 fun root => ?_
    have same := List.inj_on_of_nodup_map known.registered_nodup (parentless pid root) adopted rfl
    cases same

end ProcessTable

end SyscallKernel
