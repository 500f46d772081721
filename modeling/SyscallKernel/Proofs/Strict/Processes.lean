import SyscallKernel.Proofs.Process.Registration
import SyscallKernel.Proofs.Strict.Words

/-!
# The strict process table

The operations of the process table as a machine carries them out. Pids are words of 32 bits
that start over in time, and every process that a record names has a record itself: a
parent that was found running, a child that was listed, a caller whose child was taken out. In
a well-formed table that is always so.
-/

namespace SyscallKernel

/-- The pid to try after this one. -/
def Pid.strictNext (pid : Pid) : Strict Pid :=
  if limit ≤ pid.number then .ok ⟨1⟩
  else do
    let number ← Strict.add32 pid.number 1
    return ⟨number⟩

theorem Pid.strictNext_eq (pid : Pid) : pid.strictNext = .ok pid.next := by
  rw [strictNext, next]
  split
  · rfl
  · rename_i low
    have word : limit < 2 ^ 31 := by decide
    rw [Strict.add32_eq (by omega)]
    rfl

namespace ProcessTable

variable {table : ProcessTable}

/-- The first pid without a record among `tries` consecutive ones from `pid` on, and the pid to
try after it. -/
def strictFreePid (records : ProcessRecords) : Nat → Pid → Strict (Option (Pid × Pid))
  | 0, _ => .ok none
  | tries + 1, pid => do
    let next ← pid.strictNext
    if records.has pid then strictFreePid records tries next else return some (pid, next)

/-- Registers a running process. The record of its parent has to be there still. -/
def strictRegister (table : ProcessTable) (parent : Option Pid) :
    Strict (Except SysError (ProcessTable × Pid)) :=
  if table.isShutdown then .ok (.error .shuttingDown)
  else if table.capacity ≤ table.records.length then .ok (.error .tableFull)
  else if parent.any (fun p => !table.isRunning p) then .ok (.error .notFound)
  else do
    match ← strictFreePid table.records (table.records.length + 1) table.nextPid with
    | none => return .error .tableFull
    | some (pid, nextPid) =>
      let records := table.records.insert (.fresh pid parent)
      match parent with
      | some p =>
        Strict.ensure (records.has p)
        let records := records.update p fun r => { r with children := r.children ++ [pid] }
        return .ok ({ table with records, nextPid }, pid)
      | none => return .ok ({ table with records, nextPid, root := table.root.or (some pid) }, pid)

/-- Records the termination of a running process. Its children are distinct, and each of them
has to have a record. -/
def strictTerminate (table : ProcessTable) (pid : Pid) (how : Termination) :
    Strict (Option (ProcessTable × TerminationNews)) :=
  match table.records.get? pid with
  | none => .ok none
  | some record =>
    if record.isRunning then do
      let remaining :=
        if record.parent.isSome then
          table.records.update pid fun r =>
            { r with state := .zombie how, children := [], lastReaped := none, waiter := none }
        else table.records.remove pid
      Strict.ensure (record.children.all remaining.has)
      let records := remaining.forsake record.children
      return some
        ({ table with records, root := if table.root = some pid then none else table.root },
          ⟨record.waiter, !records.any ProcessRecord.isRunning⟩)
    else .ok none

/-- Tries to reap a child on behalf of its parent. A child that is listed has to have a record,
and the parent's record has to be there after the child's was taken out. -/
def strictPollJoin (table : ProcessTable) (caller child : Pid) :
    Strict (Except SysError (ProcessTable × JoinPoll)) :=
  if table.isShutdown then .ok (.error .shuttingDown)
  else
    match table.records.get? caller with
    | none => .ok (.error .notFound)
    | some record =>
      if child ∈ record.children then
        match table.records.get? child with
        | none => .error .disorder
        | some childRecord =>
          match childRecord.state with
          | .running =>
            let records := table.records.update child fun r => { r with waiter := some caller }
            .ok (.ok ({ table with records }, .pending))
          | .zombie how => do
            let remaining := table.records.remove child
            Strict.ensure (remaining.has caller)
            let records := remaining.update caller fun r =>
              { r with children := r.children.filter (· ≠ child), lastReaped := some child }
            return .ok ({ table with records }, .ready how)
      else if table.records.has child then .ok (.error .permissionDenied)
      else if record.lastReaped = some child then .ok (.error .alreadyReaped)
      else .ok (.error .notFound)

theorem strictFreePid_eq (records : ProcessRecords) (tries : Nat) (pid : Pid) :
    strictFreePid records tries pid = .ok (freePid records tries pid) := by
  induction tries generalizing pid with
  | zero => rfl
  | succ tries ih =>
    rw [strictFreePid, freePid, Pid.strictNext_eq, Strict.ok_bind]
    split
    · exact ih pid.next
    · rfl

theorem strictRegister_eq (table : ProcessTable) (parent : Option Pid) :
    table.strictRegister parent = .ok (table.register parent) := by
  rw [strictRegister, register, choosePid, strictFreePid_eq, Strict.ok_bind]
  split
  · rfl
  · split
    · rfl
    · split
      · rfl
      · rename_i running
        cases chosen : freePid table.records (table.records.length + 1) table.nextPid with
        | none => rfl
        | some found =>
          obtain ⟨pid, nextPid⟩ := found
          cases parent with
          | none => rfl
          | some p =>
            have runs : table.isRunning p = true := by
              simpa only [Option.any_some, Bool.not_eq_true', Bool.not_eq_false] using running
            obtain ⟨record, held, -⟩ := isRunning_iff.1 runs
            have there : (table.records.insert (.fresh pid (some p))).has p = true := by
              rw [ProcessRecords.has, ProcessRecords.get?_insert (freePid_eq_some chosen).1]
              split
              · rfl
              · rw [held]
                rfl
            simp only [Strict.ensure_eq there, Strict.ok_bind]
            rfl

/-- A listed child has a record, and its parent is another process. -/
theorem WellFormed.exists_child (wellFormed : table.WellFormed) {pid child : Pid}
    {record : ProcessRecord} (found : table.records.get? pid = some record)
    (listed : child ∈ record.children) :
    pid ≠ child ∧ ∃ childRecord, table.records.get? child = some childRecord := by
  have adopted := (wellFormed.mem_children found child).1 listed
  obtain ⟨childRecord, held, -⟩ := Option.bind_eq_some_iff.1 adopted
  exact ⟨(wellFormed.parent_running adopted).1, childRecord, held⟩

/-- All listed children have records after the record of their parent was changed or taken out. -/
theorem WellFormed.all_has (wellFormed : table.WellFormed) {pid : Pid} {record : ProcessRecord}
    (found : table.records.get? pid = some record) (change : ProcessRecord → ProcessRecord)
    (keeps : ∀ record, (change record).pid = record.pid) :
    record.children.all (if record.parent.isSome then table.records.update pid change
      else table.records.remove pid).has = true := by
  rw [List.all_eq_true]
  intro child listed
  obtain ⟨apart, childRecord, held⟩ := wellFormed.exists_child found listed
  split
  · rw [ProcessRecords.has, ProcessRecords.get?_update _ _ keeps, if_neg apart.symm, held]
    rfl
  · rw [ProcessRecords.has, ProcessRecords.get?_remove, if_neg apart.symm, held]
    rfl

theorem strictTerminate_eq (wellFormed : table.WellFormed) (pid : Pid) (how : Termination) :
    table.strictTerminate pid how = .ok (table.terminate pid how) := by
  rw [strictTerminate, terminate]
  cases found : table.records.get? pid with
  | none => rfl
  | some record =>
    simp only
    split
    · have there := wellFormed.all_has found
        (fun r =>
          { r with state := .zombie how, children := [], lastReaped := none, waiter := none })
        fun _ => rfl
      rw [Strict.ensure_eq there]
      rfl
    · rfl

theorem strictPollJoin_eq (wellFormed : table.WellFormed) (caller child : Pid) :
    table.strictPollJoin caller child = .ok (table.pollJoin caller child) := by
  rw [strictPollJoin, pollJoin]
  split
  · rfl
  · cases found : table.records.get? caller with
    | none => rfl
    | some record =>
      simp only
      split
      · rename_i listed
        obtain ⟨apart, childRecord, held⟩ := wellFormed.exists_child found listed
        rw [held]
        simp only
        cases childRecord.state with
        | running => rfl
        | zombie how =>
          have there : (table.records.remove child).has caller = true := by
            rw [ProcessRecords.has, ProcessRecords.get?_remove, if_neg apart, found]
            rfl
          rw [Strict.ensure_eq there]
          rfl
      · split
        · rfl
        · split
          · rfl
          · rfl

end ProcessTable

end SyscallKernel
