import Mathlib.Order.WellFounded
import SyscallKernel.Proofs.Process.Remembering
import SyscallKernel.Proofs.Process.Waiters

/-!
# Descent

Links to parents lead from younger to older processes, and parents run. So the links
form a forest: nobody is among its own ancestors, no chain of children is endless, and
every zombie has a parent that can reap it. That chains of children end does not depend
on how pids are chosen; that pids grow along them does.
-/

namespace SyscallKernel.ProcessTable

variable {table table' : ProcessTable} {capacity : Nat} {history : TableHistory}

/-- One process is a child of another. -/
def IsChildOf (table : ProcessTable) (child parent : Pid) : Prop :=
  table.parent? child = some parent

/-- A link to a parent is an old one, or that of a process just registered. -/
theorem Happening.isChildOf_cases {entry : TableCall × ProcessAnswer}
    (happening : Happening table entry table') (wellFormed : table.WellFormed) {child parent : Pid}
    (adopted : table'.IsChildOf child parent) :
    table.IsChildOf child parent ∨ entry = (.register (some parent), .registered child) := by
  unfold IsChildOf at adopted ⊢
  cases happening with
  | registered registration =>
    rw [registration.parent?_eq] at adopted
    split at adopted
    · subst adopted
      exact .inr (by subst child; rfl)
    · exact .inl adopted
  | ended ending =>
    rw [ending.parent?_eq wellFormed] at adopted
    split at adopted
    · cases adopted
    · exact .inl adopted
  | reaped reaping =>
    rw [reaping.parent?_eq] at adopted
    split at adopted
    · cases adopted
    · exact .inl adopted
  | awaited awaiting =>
    rw [awaiting.parent?_eq] at adopted
    exact .inl adopted
  | shutdown =>
    rw [parent?_shutdown] at adopted
    exact .inl adopted
  | notRegistered => exact .inl adopted
  | notEnded => exact .inl adopted
  | notJoined => exact .inl adopted

/-! ### Chains of children end -/

/-- A relation stays well founded when a new element comes below others and nothing
comes below it. -/
theorem wellFounded_of_leaf {α : Type} {before after : α → α → Prop} (founded : WellFounded before)
    (leaf : α) (bare : ∀ x, ¬ after x leaf) (others : ∀ x y, after x y → before x y ∨ x = leaf) :
    WellFounded after := by
  constructor
  intro y
  induction y using founded.induction with
  | _ y ih =>
    constructor
    intro x below
    rcases others x y below with old | rfl
    · exact ih x old
    · exact ⟨_, fun z lower => absurd lower (bare z)⟩

/-- Each call keeps the chains of children finite. -/
theorem Happening.wellFounded_isChildOf {entry : TableCall × ProcessAnswer}
    (happening : Happening table entry table') (wellFormed : table.WellFormed)
    (founded : WellFounded table.IsChildOf) : WellFounded table'.IsChildOf := by
  have links : ∀ child parent, table'.IsChildOf child parent → table.IsChildOf child parent ∨
      entry = (.register (some parent), .registered child) :=
    fun _ _ => happening.isChildOf_cases wellFormed
  -- All calls but a registration only cut links.
  have cut : (∀ child parent, entry ≠ (.register (some parent), .registered child)) →
      WellFounded table'.IsChildOf := by
    intro noLink
    refine Subrelation.wf ?_ founded
    intro child parent adopted
    exact (links child parent adopted).resolve_right (noLink child parent)
  cases happening with
  | @registered parent pid _ registration =>
    obtain ⟨notOwn, childless⟩ := registration.apart wellFormed
    refine wellFounded_of_leaf founded pid ?_ ?_
    · intro child adopted
      rcases links child pid adopted with old | new
      · exact childless child old
      · cases new
        exact notOwn rfl
    · intro child other adopted
      refine (links child other adopted).imp_right ?_
      intro new
      cases new
      rfl
  | ended => exact cut fun _ _ same => nomatch same
  | reaped => exact cut fun _ _ same => nomatch same
  | awaited => exact cut fun _ _ same => nomatch same
  | shutdown => exact cut fun _ _ same => nomatch same
  | notRegistered => exact cut fun _ _ same => nomatch same
  | notEnded => exact cut fun _ _ same => nomatch same
  | notJoined => exact cut fun _ _ same => nomatch same

/-- In a new table nobody has a parent. -/
theorem wellFounded_isChildOf_empty (capacity : Nat) : WellFounded (empty capacity).IsChildOf :=
  ⟨fun _ => ⟨_, fun _ adopted => nomatch adopted⟩⟩

/-- Chains of children end in every table that calls can lead to. -/
theorem Recorded.wellFounded_isChildOf (recorded : Recorded capacity history table) :
    WellFounded table.IsChildOf := by
  induction recorded with
  | start => exact wellFounded_isChildOf_empty capacity
  | call call earlier ih =>
    have wellFormed := earlier.wellFormed
    exact (happening wellFormed call).wellFounded_isChildOf wellFormed ih

/-! ### Pids grow -/

/-- Pids grow from parents to children and from one registration to the next. -/
structure Descends (table : ProcessTable) (history : TableHistory) : Prop where
  /-- A parent has a smaller pid than its children. -/
  parent_lt : ∀ {child parent : Pid}, table.IsChildOf child parent → parent.number < child.number
  /-- Each pid handed out is larger than those before it. -/
  growing : history.registrations.Pairwise fun later earlier => earlier.1.number < later.1.number
  /-- Pids are positive. -/
  positive : ∀ entry ∈ history.registrations, 1 ≤ entry.1.number

/-- Each call keeps the pids growing until they go round. -/
theorem Happening.descends {entry : TableCall × ProcessAnswer}
    (happening : Happening table entry table') (wellFormed : table.WellFormed)
    (known : table.Remembered history) (descends : table.Descends history)
    (notWrapped : (TableHistory.registrations (entry :: history)).length ≤ Pid.limit) :
    table'.Descends (entry :: history) := by
  have links : ∀ child parent, table'.IsChildOf child parent → table.IsChildOf child parent ∨
      entry = (.register (some parent), .registered child) :=
    fun _ _ => happening.isChildOf_cases wellFormed
  have kept : (∀ child parent, entry ≠ (.register (some parent), .registered child)) →
      TableHistory.registrations (entry :: history) = history.registrations →
      table'.Descends (entry :: history) := by
    intro noLink same
    refine ⟨?_, same ▸ descends.growing, same ▸ descends.positive⟩
    intro child parent adopted
    exact descends.parent_lt ((links child parent adopted).resolve_right (noLink child parent))
  cases happening with
  | @registered parent pid _ registration =>
    have registrations : TableHistory.registrations
        ((.register parent, .registered pid) :: history) = (pid, parent) :: history.registrations :=
      rfl
    rw [registrations, List.length_cons] at notWrapped
    have number := registration.number_eq known.numbered (Nat.lt_of_succ_le notWrapped)
    constructor
    case parent_lt =>
      intro child p adopted
      rcases links child p adopted with old | new
      · exact descends.parent_lt old
      · cases new
        -- The parent runs, so it got its pid earlier.
        obtain ⟨record, found, _⟩ := isRunning_iff.1 (registration.parent_running p rfl)
        rw [number]
        exact Nat.lt_succ_of_le (known.numbered.pid_le found)
    case growing =>
      rw [registrations, List.pairwise_cons]
      refine ⟨?_, descends.growing⟩
      intro entry member
      rw [number]
      exact Nat.lt_succ_of_le (known.registered_le entry member)
    case positive =>
      rw [registrations, List.forall_mem_cons]
      exact ⟨number ▸ Nat.le_add_left 1 _, descends.positive⟩
  | ended => exact kept (fun _ _ same => nomatch same) rfl
  | reaped => exact kept (fun _ _ same => nomatch same) rfl
  | awaited => exact kept (fun _ _ same => nomatch same) rfl
  | shutdown => exact kept (fun _ _ same => nomatch same) rfl
  | notRegistered => exact kept (fun _ _ same => nomatch same) rfl
  | notEnded => exact kept (fun _ _ same => nomatch same) rfl
  | notJoined => exact kept (fun _ _ same => nomatch same) rfl

/-- Pids grow in every history in which they have not gone round. -/
theorem Recorded.descends (recorded : Recorded capacity history table)
    (notWrapped : history.registrations.length ≤ Pid.limit) : table.Descends history := by
  induction recorded with
  | start =>
    exact ⟨fun adopted => (nomatch adopted), List.Pairwise.nil, fun _ member => nomatch member⟩
  | @call history table call earlier ih =>
    have wellFormed := earlier.wellFormed
    have before := Nat.le_trans (registrations_length_le _ history) notWrapped
    exact (happening wellFormed call).descends wellFormed (earlier.remembered before) (ih before)
      notWrapped

/-! ### Zombies and the empty table -/

/-- The capacity of a table never changes. -/
theorem Recorded.capacity_eq (recorded : Recorded capacity history table) :
    table.capacity = capacity := by
  induction recorded with
  | start => rfl
  | call call earlier ih =>
    have kept : ∀ {entry table table'}, Happening table entry table' →
        table'.capacity = table.capacity := by
      intro entry table table' happening
      cases happening with
      | registered registration => exact registration.capacity
      | ended ending => exact ending.capacity
      | reaped reaping => exact reaping.capacity
      | awaited awaiting => rw [awaiting.rest]
      | shutdown => rfl
      | notRegistered => rfl
      | notEnded => rfl
      | notJoined => rfl
    exact (kept (happening earlier.wellFormed call)).trans ih

/-- A parent that asks for its zombie reaps it, unless the table is shut down. -/
theorem pollJoin_zombie (wellFormed : table.WellFormed) {child parent : Pid} {how : Termination}
    (adopted : table.parent? child = some parent) (ended : table.state? child = some (.zombie how))
    (notShutdown : table.isShutdown = false) :
    ∃ table', table.pollJoin parent child = .ok (table', .ready how) := by
  obtain ⟨record, found, _⟩ := isRunning_iff.1 (wellFormed.parent_running adopted).2
  obtain ⟨childRecord, childFound, state⟩ := Option.map_eq_some_iff.1 ended
  have member : child ∈ record.children := (wellFormed.mem_children found child).2 adopted
  simp only [pollJoin, notShutdown, Bool.false_eq_true, if_false, found, member, if_true, childFound,
    state]
  exact ⟨_, rfl⟩

/-- A table in which nobody runs has no records. -/
theorem records_eq_nil_of_idle (wellFormed : table.WellFormed)
    (idle : ∀ pid, table.isRunning pid = false) : table.records = [] := by
  rw [List.eq_nil_iff_forall_not_mem]
  intro record member
  have found := (ProcessRecords.get?_eq_some_iff wellFormed.ascending).2 ⟨member, rfl⟩
  cases state : record.state with
  | running =>
    have running := isRunning_iff.2 ⟨record, found, state⟩
    rw [idle] at running
    cases running
  | zombie how =>
    -- The parent of a zombie would run.
    obtain ⟨parent, adopted⟩ := Option.ne_none_iff_exists'.1 (wellFormed.zombie found state).1
    have running := (wellFormed.parent_running (parent?_eq_some_iff.2 ⟨record, found, adopted⟩)).2
    rw [idle] at running
    cases running

/-- What a table is like after a history in which the pids have not gone round. -/
structure IsForest (capacity : Nat) (history : TableHistory) (table : ProcessTable) : Prop where
  /-- The children in a record are the registered processes whose parent has the record. -/
  mem_children : ∀ pid record, table.records.get? pid = some record →
    ∀ child, child ∈ record.children ↔ table.IsChildOf child pid
  /-- Parents run and are older than their children. -/
  parent : ∀ child parent, table.IsChildOf child parent →
    table.isRunning parent = true ∧ parent.number < child.number
  /-- Nobody is among its own ancestors. -/
  acyclic : ∀ pid, ¬ Relation.TransGen table.IsChildOf pid pid
  /-- A zombie has a running parent, which reaps it if it asks before a shutdown; it has
  no children, and nobody waits for it. -/
  zombie : ∀ pid how, table.state? pid = some (.zombie how) →
    (∃ parent, table.IsChildOf pid parent ∧ table.isRunning parent = true ∧
      (table.isShutdown = false → ∃ table', table.pollJoin parent pid = .ok (table', .ready how))) ∧
    (∀ child, ¬ table.IsChildOf child pid) ∧ table.waiter? pid = none
  /-- The records fit into the table. -/
  size_le : table.size ≤ capacity
  /-- Pids are handed out in growing order, and each fits in a return register. -/
  issued : (history.registrations.Pairwise fun later earlier =>
      earlier.1.number < later.1.number) ∧
    ∀ entry ∈ history.registrations, 1 ≤ entry.1.number ∧ entry.1.number ≤ Pid.limit
  /-- A registration that fails changes nothing. -/
  refused : ∀ parent error, ((TableCall.register parent).action.run table).2 = .refused error →
    ((TableCall.register parent).action.run table).1 = table
  /-- A table in which nobody runs is empty. -/
  idle : (∀ pid, table.isRunning pid = false) → table.size = 0

/-- Every table is a forest as long as the pids have not gone round. -/
theorem Recorded.isForest (recorded : Recorded capacity history table)
    (notWrapped : history.registrations.length ≤ Pid.limit) : IsForest capacity history table := by
  have wellFormed := recorded.wellFormed
  have descends := recorded.descends notWrapped
  have known := recorded.remembered notWrapped
  constructor
  case mem_children => exact fun _ _ found => wellFormed.mem_children found
  case parent =>
    intro child parent adopted
    exact ⟨(wellFormed.parent_running adopted).2, descends.parent_lt adopted⟩
  case acyclic =>
    intro pid cycle
    exact recorded.wellFounded_isChildOf.transGen.irrefl.irrefl pid cycle
  case zombie =>
    intro pid how ended
    obtain ⟨record, found, state⟩ := Option.map_eq_some_iff.1 ended
    obtain ⟨adopted, childless, _, unawaited⟩ := wellFormed.zombie found state
    obtain ⟨parent, adopted⟩ := Option.ne_none_iff_exists'.1 adopted
    have link := parent?_eq_some_iff.2 ⟨record, found, adopted⟩
    refine ⟨⟨parent, link, (wellFormed.parent_running link).2, pollJoin_zombie wellFormed link ended⟩,
      ?_, ?_⟩
    · intro child below
      have member := (wellFormed.mem_children found child).2 below
      rw [childless] at member
      cases member
    · rw [waiter?, found, Option.bind_some, unawaited]
  case size_le =>
    have fits := wellFormed.fits
    rw [recorded.capacity_eq] at fits
    exact fits
  case issued =>
    refine ⟨descends.growing, ?_⟩
    intro entry member
    exact ⟨descends.positive entry member,
      Nat.le_trans (known.registered_le entry member) notWrapped⟩
  case refused =>
    intro parent error
    simp only [TableCall.action, ProcessAction.run]
    split
    · exact fun _ => rfl
    · intro answer
      cases answer
  case idle =>
    intro nobody
    rw [size, records_eq_nil_of_idle wellFormed nobody, List.length_nil]

/-- A root with a zombie and an orphan whose own child still runs. -/
theorem isForest_with_zombie_and_orphan :
    ∃ history table, Recorded 5 history table ∧ history.registrations.length ≤ Pid.limit ∧
      history.map Prod.fst = [.terminate ⟨2⟩ .killed, .terminate ⟨4⟩ (.exited 7),
        .register (some ⟨3⟩), .register (some ⟨1⟩), .register (some ⟨2⟩), .register (some ⟨1⟩),
        .register none] ∧
      IsForest 5 history table ∧
      table.records.map ProcessRecord.pid = [⟨1⟩, ⟨2⟩, ⟨3⟩, ⟨4⟩, ⟨5⟩] ∧
      table.state? ⟨4⟩ = some (.zombie (.exited 7)) ∧ table.parent? ⟨3⟩ = none ∧
      table.IsChildOf ⟨5⟩ ⟨3⟩ := by
  have recorded : Recorded 5 _ _ := .call (.terminate ⟨2⟩ .killed)
    (.call (.terminate ⟨4⟩ (.exited 7)) (.call (.register (some ⟨3⟩))
      (.call (.register (some ⟨1⟩)) (.call (.register (some ⟨2⟩)) (.call (.register (some ⟨1⟩))
        (.call (.register none) .start))))))
  have forest := recorded.isForest (by decide)
  exact ⟨_, _, recorded, by decide, rfl, forest, rfl, rfl, rfl, rfl⟩

end SyscallKernel.ProcessTable
