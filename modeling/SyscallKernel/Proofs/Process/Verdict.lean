import SyscallKernel.Proofs.Process.Remembering

/-!
# Joins answered by history

The answer to a join is a function of the calls made so far and their answers. It
follows that the end of a process is delivered at most once, as it was recorded,
and only to the parent the process was registered with.
-/

namespace SyscallKernel

namespace TableHistory

/-- The answer to a join that the history demands. -/
def verdict (history : TableHistory) (caller child : Pid) : Except SysError JoinPoll :=
  if history.isShutdown then .error .shuttingDown
  else if !history.isRegistered caller then .error .notFound
  else if history.parentOf? child = some (some caller) ∧ history.end? caller = none ∧
      child ∉ history.reaped then
    match history.end? child with
    | none => .ok .pending
    | some how => .ok (.ready how)
  else if history.isRegistered child then .error .permissionDenied
  else if history.end? caller = none ∧ history.lastReaped? caller = some child then
    .error .alreadyReaped
  else .error .notFound

end TableHistory

namespace ProcessTable

variable {table : ProcessTable} {capacity : Nat} {history : TableHistory}

/-- The answer to a join, read off the summaries of caller and child. -/
theorem pollJoin_answer (wellFormed : table.WellFormed) (caller child : Pid) :
    (table.pollJoin caller child).map Prod.snd =
      if table.isShutdown then .error .shuttingDown
      else
        match table.summary? caller with
        | none => .error .notFound
        | some (_, _, last) =>
          if table.parent? child = some caller then
            match table.state? child with
            | some .running => .ok .pending
            | some (.zombie how) => .ok (.ready how)
            | none => .error .notFound
          else if (table.state? child).isSome then .error .permissionDenied
          else if last = some child then .error .alreadyReaped
          else .error .notFound := by
  rw [pollJoin, summary?]
  split
  · rfl
  · cases found : table.records.get? caller with
    | none => rfl
    | some record =>
      simp only [Option.map_some, wellFormed.mem_children found child, state?, ProcessRecords.has,
        Option.isSome_map]
      split
      · cases table.records.get? child with
        | none => rfl
        | some childRecord =>
          simp only [Option.map_some]
          cases childRecord.state <;> rfl
      · by_cases known : (table.records.get? child).isSome = true
        · simp only [known, if_true, Except.map]
        · simp only [known, if_false, Bool.false_eq_true]
          split <;> rfl

/-- A process that terminated cannot terminate again; the attempt changes nothing. -/
theorem Remembered.terminate_again (known : table.Remembered history) {pid : Pid}
    (ended : history.end? pid ≠ none) (how : Termination) :
    (TableCall.terminate pid how).action.run table = (table, .news none) := by
  have stopped : table.isRunning pid = false := by
    rw [Bool.eq_false_iff]
    exact fun running => ended (known.isRunning_iff.1 running).2
  have refused : table.terminate pid how = none := terminate_eq_none_iff.2 stopped
  simp only [TableCall.action, ProcessAction.run, refused]

/-- The answer to a join is the verdict of the history. -/
theorem Remembered.pollJoin_eq (known : table.Remembered history)
    (wellFormed : table.WellFormed) (caller child : Pid) :
    (table.pollJoin caller child).map Prod.snd = history.verdict caller child := by
  rw [pollJoin_answer wellFormed, TableHistory.verdict, known.isShutdown, known.summary?_eq,
    TableHistory.summary?]
  split
  · rfl
  · cases registered : history.isRegistered caller with
    | false => rfl
    | true =>
      have link : table.parent? child = some caller ↔
          history.parentOf? child = some (some caller) ∧ history.end? caller = none ∧
            child ∉ history.reaped := by
        rw [known.parent?_eq_some_iff, TableHistory.liveParent?_eq_some_iff, and_assoc]
      simp only [if_true, Bool.not_true, Bool.false_eq_true, if_false, link, known.state?_eq]
      split
      · rename_i conditions
        obtain ⟨adopted, alive, kept⟩ := conditions
        have live : history.liveParent? child = some caller :=
          TableHistory.liveParent?_eq_some_iff.2 ⟨adopted, alive⟩
        have childRegistered : history.isRegistered child = true := by
          rw [TableHistory.isRegistered_of_liveParent? live, decide_eq_true kept, Bool.or_true]
        rw [childRegistered, if_pos rfl, TableHistory.stateOf]
        cases history.end? child <;> rfl
      · cases history.isRegistered child with
        | true => rfl
        | false =>
          simp only [Bool.false_eq_true, if_false, Option.isSome_none,
            TableHistory.rememberedChild?]
          by_cases alive : history.end? caller = none
          · simp only [alive, if_true, true_and]
          · simp only [alive, if_false, false_and, reduceCtorEq]

/-- On every run of a process table a join is answered by the history alone. Nobody
is registered, terminated or reaped twice, so at most one join delivers the end of
a process; and that end is the one recorded by the only termination that counted. -/
theorem pollJoin_eq_verdict (recorded : Recorded capacity history table)
    (notWrapped : history.registrations.length ≤ Pid.limit) :
    (∀ caller child, (table.pollJoin caller child).map Prod.snd = history.verdict caller child) ∧
    (∀ pid how, history.end? pid ≠ none →
      (TableCall.terminate pid how).action.run table = (table, .news none)) ∧
    (history.registrations.map Prod.fst).Nodup ∧
    (history.terminations.map Prod.fst).Nodup ∧
    history.reaped.Nodup := by
  have wellFormed := recorded.wellFormed
  have known := recorded.remembered notWrapped
  exact ⟨known.pollJoin_eq wellFormed, fun _ how ended => known.terminate_again ended how,
    known.registered_nodup, known.ended_nodup, known.reaped_nodup⟩

/-- A root joins the first of its two children while it runs, again after its end,
and once more after that. The second child is a stranger to the first. -/
theorem joins_of_one_child :
    ∃ history table, Recorded 4 history table ∧
      history.map Prod.fst = [.pollJoin ⟨1⟩ ⟨2⟩, .terminate ⟨2⟩ (.exited 7), .pollJoin ⟨1⟩ ⟨2⟩,
        .register (some ⟨1⟩), .register (some ⟨1⟩), .register none] ∧
      history.reapings = [(⟨1⟩, ⟨2⟩)] ∧
      (table.pollJoin ⟨1⟩ ⟨2⟩).map Prod.snd = .error .alreadyReaped ∧
      (table.pollJoin ⟨3⟩ ⟨1⟩).map Prod.snd = .error .permissionDenied ∧
      (table.pollJoin ⟨1⟩ ⟨3⟩).map Prod.snd = .ok .pending := by
  have recorded : Recorded 4 _ _ := .call (.pollJoin ⟨1⟩ ⟨2⟩) (.call (.terminate ⟨2⟩ (.exited 7))
    (.call (.pollJoin ⟨1⟩ ⟨2⟩) (.call (.register (some ⟨1⟩)) (.call (.register (some ⟨1⟩))
      (.call (.register none) .start)))))
  obtain ⟨answers, _⟩ := pollJoin_eq_verdict recorded (by decide)
  exact ⟨_, _, recorded, rfl, rfl, answers _ _, answers _ _, answers _ _⟩

end ProcessTable

end SyscallKernel
