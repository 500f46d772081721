import Mathlib.Data.List.Nodup
import Mathlib.Data.List.Perm.Basic
import Mathlib.Logic.Function.Iterate
import SyscallKernel.Proofs.Process.Joining
import SyscallKernel.Proofs.Process.Registration
import SyscallKernel.Proofs.Process.Termination

/-!
# Pids in order

As long as the pids have not gone round, processes are numbered in the order of
their registration: the pid search never has to skip a pid, and no pid is given
out twice. Afterwards it skips the pids in use, and finds one as long as not every pid
has a record.
-/

namespace SyscallKernel.Pid

/-- The pids in the order in which they are tried. -/
theorem number_iterate_next {first : Pid} (positive : 1 ≤ first.number)
    (bounded : first.number ≤ limit) (i : Nat) :
    (next^[i] first).number = (first.number - 1 + i) % limit + 1 := by
  rw [limit] at *
  induction i with
  | zero =>
    rw [Function.iterate_zero, id_eq]
    omega
  | succ i ih =>
    rw [Function.iterate_succ_apply', next, limit, ih]
    split
    · change 1 = _
      omega
    · change _ + 1 = _
      omega

end SyscallKernel.Pid

namespace SyscallKernel.ProcessTable

variable {table table' : ProcessTable} {n : Nat}

/-- The pids up to `n` have been handed out, and no other. After the last pid the
search begins anew at the first one. -/
structure Numbered (table : ProcessTable) (n : Nat) : Prop where
  /-- Nobody has a pid beyond `n`. -/
  pid_le : ∀ {pid : Pid} {record : ProcessRecord}, table.records.get? pid = some record →
    pid.number ≤ n
  /-- The next pid is the one after `n`. -/
  nextPid_eq : n < Pid.limit → table.nextPid.number = n + 1

theorem numbered_empty (capacity : Nat) : (empty capacity).Numbered 0 where
  pid_le found := nomatch found
  nextPid_eq _ := rfl

/-- A free next pid is chosen at once. -/
theorem choosePid_of_free (free : table.records.get? table.nextPid = none) :
    table.choosePid = some (table.nextPid, table.nextPid.next) := by
  have unregistered : table.records.has table.nextPid = false := by
    rw [ProcessRecords.has, free, Option.isSome_none]
  simp only [choosePid, freePid, unregistered, Bool.false_eq_true, if_false]

/-- Unless all pids were handed out, a new process gets the next one. -/
theorem Registration.number_eq {parent : Option Pid} {pid : Pid}
    (registration : Registration table parent table' pid) (numbered : table.Numbered n)
    (notWrapped : n < Pid.limit) : pid.number = n + 1 := by
  have next := numbered.nextPid_eq notWrapped
  have free : table.records.get? table.nextPid = none := by
    cases found : table.records.get? table.nextPid with
    | none => rfl
    | some record =>
      have bound := numbered.pid_le found
      omega
  have chosen := registration.chosen
  rw [choosePid_of_free free, Option.some.injEq, Prod.mk.injEq] at chosen
  rw [← chosen.1, next]

theorem Registration.numbered {parent : Option Pid} {pid : Pid}
    (registration : Registration table parent table' pid) (numbered : table.Numbered n)
    (notWrapped : n < Pid.limit) : table'.Numbered (n + 1) where
  pid_le := by
    intro other found lookup
    rcases registration.origin lookup with ⟨same, _⟩ | ⟨_, old, held, _⟩
    · have number := registration.number_eq numbered notWrapped
      rw [same]
      exact Nat.le_of_eq number
    · exact Nat.le_succ_of_le (numbered.pid_le held)
  nextPid_eq := by
    intro more
    have number := registration.number_eq numbered notWrapped
    rw [(freePid_eq_some registration.chosen).2.1, Pid.next, if_neg (by omega), number]

theorem Ending.numbered {pid : Pid} {how : Termination} {record : ProcessRecord}
    {news : TerminationNews} (ending : Ending table pid how record table' news)
    (numbered : table.Numbered n) : table'.Numbered n where
  pid_le := by
    intro other found lookup
    rcases ending.origin lookup with ⟨same, _⟩ | ⟨_, _, old, held, _⟩ | ⟨_, _, held⟩
    · rw [same]
      exact numbered.pid_le ending.found
    · exact numbered.pid_le held
    · exact numbered.pid_le held
  nextPid_eq := by
    rw [ending.nextPid]
    exact numbered.nextPid_eq

theorem Reaping.numbered {caller child : Pid} {how : Termination}
    (reaping : Reaping table caller child how table') (numbered : table.Numbered n) :
    table'.Numbered n where
  pid_le := by
    intro other found lookup
    obtain ⟨_, old, held, _⟩ := reaping.origin lookup
    exact numbered.pid_le held
  nextPid_eq := by
    rw [reaping.nextPid]
    exact numbered.nextPid_eq

theorem Awaiting.numbered {caller child : Pid} (awaiting : Awaiting table caller child table')
    (numbered : table.Numbered n) : table'.Numbered n where
  pid_le := by
    intro other found lookup
    obtain ⟨old, held, _⟩ := awaiting.origin lookup
    exact numbered.pid_le held
  nextPid_eq := by
    rw [awaiting.rest]
    exact numbered.nextPid_eq

theorem numbered_shutdown (numbered : table.Numbered n) : table.shutdown.1.Numbered n where
  pid_le := by
    intro other found lookup
    obtain ⟨old, held, _⟩ := origin_shutdown lookup
    exact numbered.pid_le held
  nextPid_eq := numbered.nextPid_eq

/-! ### A pid for everybody -/

/-- A search that finds nothing has met a record for every pid that it tried. -/
theorem has_of_freePid_eq_none {records : ProcessRecords} {tries : Nat} {first : Pid}
    (missed : freePid records tries first = none) (i : Nat) (tried : i < tries) :
    records.has (Pid.next^[i] first) = true := by
  induction tries generalizing first i with
  | zero => exact absurd tried (Nat.not_lt_zero i)
  | succ tries ih =>
    rw [freePid] at missed
    split at missed
    · rename_i taken
      cases i with
      | zero => exact taken
      | succ i => exact ih missed i (Nat.lt_of_succ_lt_succ tried)
    · cases missed

/-- As long as there are fewer records than pids, a free pid is found. -/
theorem WellFormed.exists_choosePid (wellFormed : table.WellFormed)
    (few : table.records.length < Pid.limit) : ∃ chosen, table.choosePid = some chosen := by
  cases missed : table.choosePid with
  | some chosen => exact ⟨chosen, rfl⟩
  | none =>
    obtain ⟨positive, bounded⟩ := wellFormed.nextPid_mem
    have distinct : ((List.range (table.records.length + 1)).map
        fun i => Pid.next^[i] table.nextPid).Nodup := by
      refine List.nodup_range.map_on fun i within j within' same => ?_
      have numbers := congrArg Pid.number same
      rw [Pid.number_iterate_next positive bounded, Pid.number_iterate_next positive bounded]
        at numbers
      rw [List.mem_range] at within within'
      rw [Pid.limit] at few numbers
      omega
    have taken : ((List.range (table.records.length + 1)).map
        fun i => Pid.next^[i] table.nextPid) ⊆ table.records.map ProcessRecord.pid := by
      intro pid member
      obtain ⟨i, within, rfl⟩ := List.mem_map.1 member
      have has := has_of_freePid_eq_none missed i (List.mem_range.1 within)
      obtain ⟨record, found⟩ := Option.isSome_iff_exists.1 has
      rw [← ProcessRecords.pid_of_get? found]
      exact List.mem_map_of_mem (List.mem_of_find?_eq_some found)
    have length := (List.subperm_of_subset distinct taken).length_le
    rw [List.length_map, List.length_map, List.length_range] at length
    exact absurd length (Nat.not_succ_le_self _)

/-- A table with fewer records than there are pids answers that it is full just at capacity. -/
theorem WellFormed.register_eq_tableFull_iff (wellFormed : table.WellFormed)
    (few : table.records.length < Pid.limit) (parent : Option Pid) :
    table.register parent = .error .tableFull ↔
      table.isShutdown = false ∧ table.capacity ≤ table.records.length := by
  obtain ⟨⟨pid, nextPid⟩, chosen⟩ := wellFormed.exists_choosePid few
  unfold register
  rw [chosen]
  constructor
  · intro full
    split at full
    · cases full
    · rename_i up
      split at full
      · rename_i reached
        exact ⟨Bool.eq_false_iff.2 up, reached⟩
      · split at full
        · cases full
        · cases parent <;> cases full
  · rintro ⟨up, reached⟩
    rw [if_neg (Bool.eq_false_iff.1 up), if_pos reached]

end SyscallKernel.ProcessTable
