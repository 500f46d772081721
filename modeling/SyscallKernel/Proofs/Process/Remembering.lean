import SyscallKernel.Proofs.Process.Memory

/-!
# Remembering every call

Each call keeps history and table in agreement. Only the termination of a process
with children needs care: it changes what is registered without a call that names
the children.
-/

namespace SyscallKernel.ProcessTable

variable {table table' : ProcessTable} {capacity : Nat} {history : TableHistory}

/-- A registered process is remembered, provided that the pids have not gone round. -/
theorem Registration.remembered {parent : Option Pid} {pid : Pid}
    (registration : Registration table parent table' pid) (known : table.Remembered history)
    (notWrapped : history.registrations.length < Pid.limit) :
    table'.Remembered ((.register parent, .registered pid) :: history) := by
  have number := registration.number_eq known.numbered notWrapped
  obtain ⟨unknown, alive, childless⟩ := known.fresh number
  have parentOf : ∀ other, TableHistory.parentOf?
      ((.register parent, .registered pid) :: history) other =
        if other = pid then some parent else history.parentOf? other :=
    fun other => TableHistory.lookup_cons pid other parent history.registrations
  constructor
  case isShutdown => exact registration.isShutdown.trans known.isShutdown
  case numbered => exact registration.numbered known.numbered notWrapped
  case registered_le =>
    intro entry member
    rcases List.mem_cons.1 member with rfl | member
    · exact Nat.le_of_eq number
    · exact Nat.le_succ_of_le (known.registered_le entry member)
  case ended_le => exact fun entry member => Nat.le_succ_of_le (known.ended_le entry member)
  case reaper_le => exact fun entry member => Nat.le_succ_of_le (known.reaper_le entry member)
  case reaped_ended => exact known.reaped_ended
  case registered_nodup =>
    exact List.nodup_cons.2
      ⟨TableHistory.not_mem_of_lookup_eq_none unknown, known.registered_nodup⟩
  case ended_nodup => exact known.ended_nodup
  case reaped_nodup => exact known.reaped_nodup
  case summary?_eq =>
    intro other
    rw [registration.summary?_eq]
    by_cases same : other = pid
    · subst same
      have known' : TableHistory.parentOf? ((.register parent, .registered other) :: history)
          other = some parent := by
        rw [parentOf, if_pos rfl]
      have live : TableHistory.liveParent? ((.register parent, .registered other) :: history)
          other = parent := by
        cases adopted : parent with
        | none =>
          rw [adopted] at known'
          simp only [TableHistory.liveParent?, known', Option.join_some, Option.filter_none]
        | some p =>
          have running := registration.parent_running p adopted
          refine TableHistory.liveParent?_eq_some_iff.2 ⟨?_, ?_⟩
          · rw [← adopted]
            exact known'
          · exact (known.isRunning_iff.1 running).2
      have end' : TableHistory.end? ((.register parent, .registered other) :: history) other =
          none := alive
      have last : TableHistory.lastReaped? ((.register parent, .registered other) :: history)
          other = none := childless
      simp only [TableHistory.summary?, TableHistory.isRegistered, TableHistory.stateOf,
        TableHistory.rememberedChild?, known', live, end', last, if_true, Option.isSome_some,
        Option.isNone_none, Bool.true_or, Bool.and_self]
    · rw [if_neg same, known.summary?_eq]
      refine (TableHistory.summary?_congr ((.register parent, .registered pid) :: history) history
        ?_ (fun _ _ => rfl) Iff.rfl rfl).symm
      rw [parentOf, if_neg same]

section

variable {pid : Pid} {how : Termination} {news : TerminationNews}

/-- A termination is the end of the process and of no other. -/
theorem end?_terminated (other : Pid) :
    TableHistory.end? ((.terminate pid how, .news (some news)) :: history) other =
      if other = pid then some how else history.end? other :=
  TableHistory.lookup_cons pid other how history.terminations

/-- A live parent still lives, unless it is the process that terminated. -/
theorem liveParent?_terminated (alive : history.end? pid = none) (other : Pid) :
    TableHistory.liveParent? ((.terminate pid how, .news (some news)) :: history) other =
      if history.liveParent? other = some pid then none else history.liveParent? other := by
  have parentOf : TableHistory.parentOf? ((.terminate pid how, .news (some news)) :: history)
      other = history.parentOf? other := rfl
  rw [TableHistory.liveParent?, TableHistory.liveParent?, parentOf]
  cases adopted : (history.parentOf? other).join with
  | none => rfl
  | some p =>
    simp only [Option.filter_some, end?_terminated]
    by_cases same : p = pid
    · simp only [same, alive, decide_true, if_true, reduceCtorEq, decide_false,
        Bool.false_eq_true, if_false]
    · cases history.end? p with
      | none => simp only [same, if_false, if_true, decide_true, Option.some.injEq]
      | some how' => simp only [same, if_false, reduceCtorEq, decide_false, Bool.false_eq_true]

/-- What is remembered after a termination: a zombie if there is a live parent,
orphans in place of running children, and nothing of children that were zombies. -/
theorem summary?_terminated (known : table.Remembered history) (wellFormed : table.WellFormed)
    (running : table.isRunning pid = true) (other : Pid) :
    TableHistory.summary? ((.terminate pid how, .news (some news)) :: history) other =
      if other = pid then
        if history.liveParent? pid = none then none
        else some (history.liveParent? pid, .zombie how, none)
      else if table.parent? other = some pid then
        (history.summary? other).bind fun (_, state, last) =>
          if state = .running then some (none, state, last) else none
      else history.summary? other := by
  obtain ⟨seen, alive⟩ := known.isRunning_iff.1 running
  have end' : TableHistory.end? ((.terminate pid how, .news (some news)) :: history) other =
      if other = pid then some how else history.end? other := end?_terminated other
  have live' : TableHistory.liveParent? ((.terminate pid how, .news (some news)) :: history) other =
      if history.liveParent? other = some pid then none else history.liveParent? other :=
    liveParent?_terminated alive other
  have parentOf : TableHistory.parentOf? ((.terminate pid how, .news (some news)) :: history)
      other = history.parentOf? other := rfl
  have reaped : TableHistory.reaped ((.terminate pid how, .news (some news)) :: history) =
      history.reaped := rfl
  have last : TableHistory.lastReaped? ((.terminate pid how, .news (some news)) :: history)
      other = history.lastReaped? other := rfl
  by_cases same : other = pid
  · subst same
    have unreaped : other ∉ history.reaped := fun member =>
      known.reaped_ended other member alive
    have notOwnParent : history.liveParent? other ≠ some other := fun own =>
      (wellFormed.parent_running (known.parent?_eq_some_iff.2 ⟨own, unreaped⟩)).1 rfl
    rw [if_pos rfl] at end'
    rw [if_neg notOwnParent] at live'
    simp only [TableHistory.summary?, TableHistory.isRegistered, TableHistory.stateOf,
      TableHistory.rememberedChild?, parentOf, seen, live', end', reaped, unreaped, if_true,
      Option.isNone_some, Bool.false_or, Bool.true_and, not_false_eq_true, decide_true,
      Bool.and_true, reduceCtorEq, if_false]
    cases history.liveParent? other <;> rfl
  · rw [if_neg same] at end' ⊢
    split
    · rename_i child
      obtain ⟨childLive, childKept⟩ := known.parent?_eq_some_iff.1 child
      have childSeen := (TableHistory.liveParent?_eq_some_iff.1 childLive).1
      rw [if_pos childLive] at live'
      simp only [TableHistory.summary?, TableHistory.isRegistered, TableHistory.stateOf,
        TableHistory.rememberedChild?, parentOf, childSeen, childLive, childKept, live', end',
        reaped, last, Option.isSome_some, Option.isSome_none, Bool.true_and, Bool.false_and,
        Bool.or_false, not_false_eq_true, decide_true, Bool.or_true, if_true, Option.bind_some]
      cases history.end? other with
      | none => simp only [Option.isNone_none, if_true]
      | some how' => simp only [Option.isNone_some, Bool.false_eq_true, reduceCtorEq, if_false]
    · rename_i stranger
      by_cases kept : other ∈ history.reaped
      · -- A reaped process was forgotten before, whoever its parent is.
        have gone := known.reaped_ended other kept
        simp only [TableHistory.summary?, TableHistory.isRegistered, end', reaped, kept,
          not_true_eq_false, decide_false, Bool.and_false, Bool.or_false,
          Option.isNone_eq_false_iff.2 (Option.isSome_iff_ne_none.2 gone), Bool.false_eq_true,
          if_false]
      · refine TableHistory.summary?_congr _ history parentOf ?_ Iff.rfl last
        rintro p (rfl | adopted)
        · exact end'
        · rw [end?_terminated, if_neg]
          intro equal
          subst equal
          exact stranger (known.parent?_eq_some_iff.2
            ⟨TableHistory.liveParent?_eq_some_iff.2 ⟨adopted, alive⟩, kept⟩)

end

/-- A termination is remembered. -/
theorem Ending.remembered {pid : Pid} {how : Termination} {record : ProcessRecord}
    {news : TerminationNews} (ending : Ending table pid how record table' news)
    (wellFormed : table.WellFormed) (known : table.Remembered history) :
    table'.Remembered ((.terminate pid how, .news (some news)) :: history) := by
  have running : table.isRunning pid = true := isRunning_iff.2 ⟨record, ending.found, ending.running⟩
  obtain ⟨seen, alive⟩ := known.isRunning_iff.1 running
  have parent : record.parent = history.liveParent? pid := by
    have summary := known.summary?_eq pid
    rw [summary?, ending.found, Option.map_some, TableHistory.summary?] at summary
    split at summary
    · exact (Prod.mk.inj (Option.some.inj summary)).1
    · cases summary
  constructor
  case isShutdown => exact ending.isShutdown.trans known.isShutdown
  case numbered => exact ending.numbered known.numbered
  case registered_le => exact known.registered_le
  case ended_le =>
    intro entry member
    rcases List.mem_cons.1 member with rfl | member
    · exact known.number_le seen
    · exact known.ended_le entry member
  case reaper_le => exact known.reaper_le
  case reaped_ended =>
    intro other member
    rw [end?_terminated]
    split
    · exact Option.some_ne_none how
    · exact known.reaped_ended other member
  case registered_nodup => exact known.registered_nodup
  case ended_nodup =>
    exact List.nodup_cons.2 ⟨TableHistory.not_mem_of_lookup_eq_none alive, known.ended_nodup⟩
  case reaped_nodup => exact known.reaped_nodup
  case summary?_eq =>
    intro other
    rw [ending.summary?_eq, summary?_terminated known wellFormed running, known.summary?_eq, parent]

/-- A successful join is remembered. -/
theorem Reaping.remembered {caller child : Pid} {how : Termination}
    (reaping : Reaping table caller child how table') (wellFormed : table.WellFormed)
    (known : table.Remembered history) :
    table'.Remembered ((.pollJoin caller child, .polled (.ready how)) :: history) := by
  obtain ⟨live, kept⟩ := known.parent?_eq_some_iff.1 reaping.parent
  have running : table.isRunning caller = true := (wellFormed.parent_running reaping.parent).2
  obtain ⟨callerSeen, callerAlive⟩ := known.isRunning_iff.1 running
  have childEnded : history.end? child ≠ none := by
    intro alive
    have state := known.state?_eq child
    rw [reaping.ended, TableHistory.stateOf, alive] at state
    split at state <;> cases state
  have reaped : TableHistory.reaped ((.pollJoin caller child, .polled (.ready how)) :: history) =
      child :: history.reaped := rfl
  have last : ∀ other, TableHistory.lastReaped?
      ((.pollJoin caller child, .polled (.ready how)) :: history) other =
        if other = caller then some child else history.lastReaped? other :=
    fun other => TableHistory.lookup_cons caller other child history.reapings
  constructor
  case isShutdown => exact reaping.isShutdown.trans known.isShutdown
  case numbered => exact reaping.numbered known.numbered
  case registered_le => exact known.registered_le
  case ended_le => exact known.ended_le
  case reaper_le =>
    intro entry member
    rcases List.mem_cons.1 member with rfl | member
    · exact known.number_le callerSeen
    · exact known.reaper_le entry member
  case reaped_ended =>
    intro other member
    rcases List.mem_cons.1 member with rfl | member
    · exact childEnded
    · exact known.reaped_ended other member
  case registered_nodup => exact known.registered_nodup
  case ended_nodup => exact known.ended_nodup
  case reaped_nodup => exact List.nodup_cons.2 ⟨kept, known.reaped_nodup⟩
  case summary?_eq =>
    intro other
    rw [reaping.summary?_eq]
    by_cases isChild : other = child
    · subst isChild
      have gone : TableHistory.isRegistered
          ((.pollJoin caller other, .polled (.ready how)) :: history) other = false := by
        have end' : TableHistory.end? ((.pollJoin caller other, .polled (.ready how)) :: history)
            other = history.end? other := rfl
        simp only [TableHistory.isRegistered, end', reaped, List.mem_cons_self, not_true_eq_false,
          decide_false, Bool.and_false, Bool.or_false,
          Option.isNone_eq_false_iff.2 (Option.isSome_iff_ne_none.2 childEnded)]
      simp only [TableHistory.summary?, gone, Bool.false_eq_true, if_false, if_true]
    · rw [if_neg isChild]
      by_cases isCaller : other = caller
      · subst isCaller
        have last' := last other
        rw [if_pos rfl] at last'
        have parentOf : TableHistory.parentOf?
            ((.pollJoin other child, .polled (.ready how)) :: history) other =
              history.parentOf? other := rfl
        have live' : TableHistory.liveParent?
            ((.pollJoin other child, .polled (.ready how)) :: history) other =
              history.liveParent? other := rfl
        have end' : TableHistory.end? ((.pollJoin other child, .polled (.ready how)) :: history)
            other = history.end? other := rfl
        rw [if_pos rfl, known.summary?_eq]
        simp only [TableHistory.summary?, TableHistory.isRegistered, TableHistory.stateOf,
          TableHistory.rememberedChild?, parentOf, live', end', last', callerSeen, callerAlive,
          Option.isNone_none, Bool.true_or, Bool.and_self, if_true, Option.map_some]
      · rw [if_neg isCaller, known.summary?_eq]
        refine (TableHistory.summary?_congr
          ((.pollJoin caller child, .polled (.ready how)) :: history) history rfl
          (fun _ _ => rfl) ?_ ?_).symm
        · rw [reaped, List.mem_cons]
          exact or_iff_right isChild
        · rw [last, if_neg isCaller]

/-- Each call is remembered, provided that the pids have not gone round. -/
theorem Happening.remembered {entry : TableCall × ProcessAnswer}
    (happening : Happening table entry table') (wellFormed : table.WellFormed)
    (known : table.Remembered history)
    (notWrapped : (TableHistory.registrations (entry :: history)).length ≤ Pid.limit) :
    table'.Remembered (entry :: history) := by
  obtain ⟨isShutdown, numbered, registeredLe, endedLe, reaperLe, reapedEnded, registeredNodup,
    endedNodup, reapedNodup, summary⟩ := id known
  cases happening with
  | registered registration => exact registration.remembered known notWrapped
  | ended ending => exact ending.remembered wellFormed known
  | reaped reaping => exact reaping.remembered wellFormed known
  | awaited awaiting =>
    refine ⟨?_, awaiting.numbered numbered, registeredLe, endedLe, reaperLe, reapedEnded,
      registeredNodup, endedNodup, reapedNodup, ?_⟩
    · rw [awaiting.rest]
      exact isShutdown
    · intro other
      rw [awaiting.summary?_eq]
      exact summary other
  | shutdown =>
    refine ⟨rfl, numbered_shutdown numbered, registeredLe, endedLe, reaperLe, reapedEnded,
      registeredNodup, endedNodup, reapedNodup, ?_⟩
    intro other
    rw [summary?_shutdown]
    exact summary other
  | notRegistered =>
    exact ⟨isShutdown, numbered, registeredLe, endedLe, reaperLe, reapedEnded, registeredNodup,
      endedNodup, reapedNodup, summary⟩
  | notEnded =>
    exact ⟨isShutdown, numbered, registeredLe, endedLe, reaperLe, reapedEnded, registeredNodup,
      endedNodup, reapedNodup, summary⟩
  | notJoined =>
    exact ⟨isShutdown, numbered, registeredLe, endedLe, reaperLe, reapedEnded, registeredNodup,
      endedNodup, reapedNodup, summary⟩

/-- The registrations before a call are among those after it. -/
theorem registrations_length_le (entry : TableCall × ProcessAnswer) (history : TableHistory) :
    (TableHistory.registrations history).length ≤
      (TableHistory.registrations (entry :: history)).length := by
  rw [TableHistory.registrations, TableHistory.registrations, List.filterMap_cons]
  split
  · exact Nat.le_refl _
  · exact Nat.le_succ _

/-- There is nothing to remember of a new table. -/
theorem remembered_empty (capacity : Nat) : (empty capacity).Remembered [] where
  isShutdown := rfl
  numbered := numbered_empty capacity
  registered_le _ member := nomatch member
  ended_le _ member := nomatch member
  reaper_le _ member := nomatch member
  reaped_ended _ member := nomatch member
  registered_nodup := List.nodup_nil
  ended_nodup := List.nodup_nil
  reaped_nodup := List.nodup_nil
  summary?_eq _ := rfl

/-- Every history is remembered as long as the pids have not gone round. -/
theorem Recorded.remembered (recorded : Recorded capacity history table)
    (notWrapped : history.registrations.length ≤ Pid.limit) : table.Remembered history := by
  induction recorded with
  | start => exact remembered_empty capacity
  | @call history table call earlier ih =>
    have wellFormed := earlier.wellFormed
    have before := Nat.le_trans (registrations_length_le _ history) notWrapped
    exact (happening wellFormed call).remembered wellFormed (ih before) notWrapped

end SyscallKernel.ProcessTable
