import SyscallKernel.Process.Record

/-!
# Looking up process records

A list of records in strictly ascending order of pids is a finite map. Every
operation on it is described here by what a lookup finds afterwards, and keeps
the order; no later proof looks at the list itself.
-/

namespace SyscallKernel

namespace ProcessRecord

/-- The record of a process whose parent has terminated: a running process becomes
an orphan, a zombie is forgotten. -/
def orphaned? (record : ProcessRecord) : Option ProcessRecord :=
  if record.isRunning then some { record with parent := none } else none

theorem isRunning_iff {record : ProcessRecord} :
    record.isRunning = true ↔ record.state = .running := by
  simp only [isRunning, decide_eq_true_eq]

end ProcessRecord

namespace ProcessRecords

/-- Records in strictly ascending order of their pids. -/
def Ascending (records : ProcessRecords) : Prop :=
  records.Pairwise fun first second => first.pid.number < second.pid.number

/-- In ascending records a lookup finds exactly the record with the pid. -/
theorem get?_eq_some_iff {records : ProcessRecords} (ascending : records.Ascending) {pid : Pid}
    {record : ProcessRecord} :
    records.get? pid = some record ↔ record ∈ records ∧ record.pid = pid := by
  constructor
  · intro found
    exact ⟨List.mem_of_find?_eq_some found, pid_of_get? found⟩
  · rintro ⟨member, rfl⟩
    induction records with
    | nil => cases member
    | cons first rest ih =>
      obtain ⟨before, ascending⟩ := List.pairwise_cons.1 ascending
      rcases List.mem_cons.1 member with rfl | member
      · simp only [get?, List.find?_cons, decide_true]
      · have apart : first.pid ≠ record.pid := by
          intro same
          have less := before record member
          rw [same] at less
          exact Nat.lt_irrefl _ less
        simp only [get?, List.find?_cons, apart, decide_false]
        exact ih ascending member

/-- A process without a record is the process of none of the records. -/
theorem get?_eq_none_iff {records : ProcessRecords} {pid : Pid} :
    records.get? pid = none ↔ ∀ record ∈ records, record.pid ≠ pid := by
  simp only [get?, List.find?_eq_none, decide_eq_true_eq]

/-- A lookup in some records begins with the first of them. -/
theorem get?_cons (first : ProcessRecord) (rest : ProcessRecords) (pid : Pid) :
    get? (first :: rest) pid = if first.pid = pid then some first else get? rest pid := by
  rw [get?, List.find?_cons]
  by_cases same : first.pid = pid
  · simp only [same, decide_true, if_true]
  · simp only [same, decide_false, if_false, get?]

/-- A record put in its place is found under its pid, provided that the pid was free. -/
theorem get?_insert {records : ProcessRecords} {record : ProcessRecord}
    (free : records.get? record.pid = none) (other : Pid) :
    (insert record records).get? other =
      if other = record.pid then some record else records.get? other := by
  induction records with
  | nil =>
    rw [insert, get?_cons]
    simp only [eq_comm]
  | cons first rest ih =>
    rw [get?_cons] at free
    have apart : first.pid ≠ record.pid := by
      intro same
      rw [if_pos same] at free
      cases free
    rw [if_neg apart] at free
    rw [insert]
    split
    · rw [get?_cons record]
      simp only [eq_comm]
    · rw [get?_cons, get?_cons, ih free]
      by_cases same : other = record.pid
      · rw [same, if_neg apart, if_pos rfl, if_pos rfl]
      · rw [if_neg same, if_neg same]

/-- Changing the record of a process, but not its pid, changes this lookup only. -/
theorem get?_update (records : ProcessRecords) (pid : Pid) {change : ProcessRecord → ProcessRecord}
    (keeps : ∀ record, (change record).pid = record.pid) (other : Pid) :
    (records.update pid change).get? other =
      if other = pid then (records.get? other).map change else records.get? other := by
  induction records with
  | nil => simp only [update, get?, List.map_nil, List.find?_nil, Option.map_none, ite_self]
  | cons first rest ih =>
    have kept : (if first.pid = pid then change first else first).pid = first.pid := by
      split
      · exact keeps first
      · rfl
    rw [update] at ih ⊢
    rw [List.map_cons, get?_cons, get?_cons, kept]
    by_cases found : first.pid = other
    · subst found
      rw [if_pos rfl, if_pos rfl]
      split
      · rfl
      · rfl
    · rw [if_neg found, if_neg found, ih]

/-- Forsaking treats each record by itself. -/
theorem forsake_cons (first : ProcessRecord) (rest : ProcessRecords) (children : List Pid) :
    forsake (first :: rest) children =
      (if first.pid ∈ children then first.orphaned?.toList else [first]) ++
        forsake rest children := by
  simp only [forsake, List.filterMap_cons, ProcessRecord.orphaned?]
  by_cases listed : first.pid ∈ children
  · by_cases running : first.isRunning = true
    · simp only [listed, running, if_true, Option.toList_some, List.singleton_append]
    · simp only [listed, running, if_true, if_false, Bool.false_eq_true, Option.toList_none,
        List.nil_append]
  · simp only [listed, if_false, List.singleton_append]

/-- Forsaking some processes acts on the records of these processes only. -/
theorem get?_forsake {records : ProcessRecords} (ascending : records.Ascending)
    (children : List Pid) (other : Pid) :
    (records.forsake children).get? other =
      if other ∈ children then (records.get? other).bind ProcessRecord.orphaned?
      else records.get? other := by
  induction records with
  | nil =>
    simp only [forsake, get?, List.filterMap_nil, List.find?_nil, Option.bind_none, ite_self]
  | cons first rest ih =>
    obtain ⟨before, later⟩ := List.pairwise_cons.1 ascending
    have ih := ih later
    -- A removed first record must not uncover a later one of the same pid.
    have alone : get? rest first.pid = none := by
      rw [get?_eq_none_iff]
      intro record member same
      have less := before record member
      rw [same] at less
      exact Nat.lt_irrefl _ less
    rw [forsake_cons]
    simp only [get?, List.find?_append, List.find?_cons] at ih alone ⊢
    by_cases same : first.pid = other
    · subst same
      by_cases listed : first.pid ∈ children
      · by_cases running : first.isRunning = true
        · simp only [listed, if_true, ProcessRecord.orphaned?, running, Option.toList_some,
            List.find?_cons, decide_true, Option.some_or, Option.bind_some]
        · rw [ih, alone]
          simp only [listed, if_true, ProcessRecord.orphaned?, running, if_false,
            Option.toList_none, List.find?_nil, Option.bind_none, Option.or_none,
            decide_true, Option.bind_some, Bool.false_eq_true]
      · simp only [listed, if_false, List.find?_cons, decide_true, Option.some_or]
    · have missed : (if first.pid ∈ children then first.orphaned?.toList
          else [first]).find? (fun record => decide (record.pid = other)) = none := by
        rw [List.find?_eq_none]
        intro record member
        have kept : record.pid = first.pid := by
          split at member
          · rw [Option.mem_toList, ProcessRecord.orphaned?] at member
            split at member <;> cases member
            rfl
          · rw [List.mem_singleton.1 member]
        rw [kept, decide_eq_true_eq]
        exact same
      rw [missed, ih]
      simp only [same, decide_false, Option.none_or]

theorem ascending_insert {records : ProcessRecords} (ascending : records.Ascending)
    {record : ProcessRecord} (free : records.get? record.pid = none) :
    (insert record records).Ascending := by
  induction records with
  | nil => exact List.pairwise_singleton _ _
  | cons first rest ih =>
    obtain ⟨before, later⟩ := List.pairwise_cons.1 ascending
    rw [get?_eq_none_iff] at free
    simp only [insert]
    split
    · rename_i less
      refine List.pairwise_cons.2 ⟨?_, ascending⟩
      intro other member
      rcases List.mem_cons.1 member with rfl | member
      · exact less
      · exact Nat.lt_trans less (before other member)
    · rename_i notLess
      have apart : first.pid.number ≠ record.pid.number := by
        intro same
        exact free first List.mem_cons_self (Pid.ext same)
      refine List.pairwise_cons.2 ⟨?_, ih later ?_⟩
      · intro other member
        rcases mem_insert.1 member with rfl | member
        · omega
        · exact before other member
      · rw [get?_eq_none_iff]
        exact fun other member => free other (List.mem_cons_of_mem first member)

/-- The order depends on the pids alone. -/
theorem ascending_of_map_pid {records others : ProcessRecords}
    (same : records.map ProcessRecord.pid = others.map ProcessRecord.pid)
    (ascending : others.Ascending) : records.Ascending := by
  have sorted : (others.map ProcessRecord.pid).Pairwise fun first second =>
      first.number < second.number := List.pairwise_map.2 ascending
  rw [← same, List.pairwise_map] at sorted
  exact sorted

theorem ascending_update {records : ProcessRecords} (ascending : records.Ascending) (pid : Pid)
    {change : ProcessRecord → ProcessRecord} (keeps : ∀ record, (change record).pid = record.pid) :
    (records.update pid change).Ascending :=
  ascending_of_map_pid (map_pid_update keeps) ascending

theorem ascending_remove {records : ProcessRecords} (ascending : records.Ascending) (pid : Pid) :
    (records.remove pid).Ascending :=
  List.Pairwise.filter _ ascending

theorem ascending_forsake {records : ProcessRecords} (ascending : records.Ascending)
    (children : List Pid) : (records.forsake children).Ascending := by
  refine List.Pairwise.filterMap _ ?_ ascending
  intro first second less first' kept second' kept'
  have samePid : ∀ {record record' : ProcessRecord},
      (if record.pid ∈ children then
        if record.isRunning then some { record with parent := none } else none
      else some record) = some record' → record'.pid = record.pid := by
    intro record record' kept
    split at kept
    · split at kept
      · cases kept; rfl
      · cases kept
    · cases kept; rfl
  rw [samePid kept, samePid kept']
  exact less

@[simp] theorem length_insert (record : ProcessRecord) (records : ProcessRecords) :
    (insert record records).length = records.length + 1 := by
  induction records with
  | nil => rfl
  | cons first rest ih =>
    simp only [insert]
    split
    · rfl
    · simp only [List.length_cons, ih]

@[simp] theorem length_update (records : ProcessRecords) (pid : Pid)
    (change : ProcessRecord → ProcessRecord) :
    (records.update pid change).length = records.length :=
  List.length_map _

theorem length_remove_le (records : ProcessRecords) (pid : Pid) :
    (records.remove pid).length ≤ records.length :=
  List.length_filter_le _ _

theorem length_forsake_le (records : ProcessRecords) (children : List Pid) :
    (records.forsake children).length ≤ records.length :=
  List.length_filterMap_le _ _

end ProcessRecords

end SyscallKernel
