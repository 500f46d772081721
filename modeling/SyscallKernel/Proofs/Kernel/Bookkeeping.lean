import SyscallKernel.Proofs.Kernel.Acts

/-!
# The books of the file store

Whatever becomes of the process table, every handle of a process shares contents that are there,
and a process that was torn down has no handle. As long as the numbers of 32 bits suffice the file
store counts the handles of the processes: each entry records as many open handles as there are
in the descriptor tables of all processes together. Pids play no part in it, so the books are
right however often the pids have gone round.
-/

namespace SyscallKernel

variable {σ : Type} {kernel kernel' : Kernel} {effects : List Effect}
  {before after bystanders processes processes' : List (UserProcess σ)}

/-- The files that processes hold are there, however many handles there are. -/
structure Stocked (kernel : Kernel) (processes : List (UserProcess σ)) : Prop where
  /-- The file store is in order. -/
  files : kernel.files.Regular
  /-- Every handle shares contents that are there. -/
  shares : kernel.files.Shares (heldLinks processes)
  /-- A process that was torn down holds no handle. -/
  ended : ∀ process ∈ processes, process.terminated = true → process.files.handles = []

/-- The order of the processes does not matter. -/
theorem heldLinks_perm (same : processes.Perm processes') :
    (heldLinks processes).Perm (heldLinks processes') :=
  (same.flatMap_right _).map FileHandle.link

namespace Stocked

theorem new (config : Config) (console : ConsoleDevice) :
    Stocked (.new config console) ([] : List (UserProcess σ)) where
  files := FileStore.regular_empty _
  shares _ member := nomatch member
  ended _ member := nomatch member

theorem perm (stocked : Stocked kernel processes) (same : processes.Perm processes') :
    Stocked kernel processes' where
  files := stocked.files
  shares link member := stocked.shares link ((heldLinks_perm same).mem_iff.2 member)
  ended process member := stocked.ended process (same.mem_iff.2 member)

/-- The contents behind a handle of a process. -/
theorem data_lt (stocked : Stocked kernel processes) {process : UserProcess σ}
    (member : process ∈ processes) {handle : FileHandle} (held : handle ∈ process.files.handles) :
    handle.data < kernel.files.data.length :=
  stocked.shares handle.link
    (List.mem_map_of_mem (List.mem_flatMap.2 ⟨process, member, held⟩))

end Stocked

/-- The books of a new kernel are empty. -/
theorem ledger_new (config : Config) (console : ConsoleDevice) :
    (Kernel.new config console).files.Ledger (heldLinks ([] : List (UserProcess σ))) :=
  ⟨FileStore.wellFormed_empty _, FileStore.accounts_empty _⟩

namespace Kernel

/-- What is done in the name of some processes is done while the others stand by. -/
theorem Handles.frame (handles : kernel.Handles before effects kernel' after)
    (bystanders : List (UserProcess σ)) :
    kernel.Handles (before ++ bystanders) effects kernel' (after ++ bystanders) := by
  obtain ⟨releases, handling, said⟩ := handles.links
  refine ⟨⟨releases, ?_, said⟩, fun none process member torn => ?_⟩
  · rw [heldLinks_append, heldLinks_append]
    exact handling.frame (heldLinks bystanders)
  · rcases List.mem_append.1 member with moved | stayed
    · exact handles.torn (fun other listed => none other (List.mem_append_left _ listed)) process
        moved torn
    · exact none process (List.mem_append_right _ stayed) torn

variable [AddressSpace σ]

/-- Every act leaves the files there that processes hold. -/
theorem Act.stocked (act : kernel.Act before effects kernel' after)
    (stocked : Stocked kernel (before ++ bystanders)) :
    Stocked kernel' (after ++ bystanders) := by
  have handles := (act.handles stocked.files.arranged).frame bystanders
  obtain ⟨releases, handling, -⟩ := handles.links
  exact ⟨handling.regular stocked.files, handling.shares stocked.files stocked.shares,
    handles.torn stocked.ended⟩

/-- As long as the numbers of 32 bits suffice every act keeps the books, and nothing is released
that the books do not know of. -/
theorem Act.ledger (act : kernel.Act before effects kernel' after)
    (ledger : kernel.files.Ledger (heldLinks (before ++ bystanders)))
    (fits : kernel'.files.Fits (heldLinks (after ++ bystanders))) :
    kernel'.files.Ledger (heldLinks (after ++ bystanders)) ∧
      ∀ effect ∈ effects, effect.IsClean := by
  have handles := (act.handles ledger.wellFormed.arranged).frame bystanders
  obtain ⟨releases, handling, said⟩ := handles.links
  obtain ⟨ledger', clean⟩ := handling.ledger ledger fits
  exact ⟨ledger', fun effect member =>
    (said effect member).elim id (Effect.isClean_of_mem_ofReleases clean)⟩

end Kernel

end SyscallKernel
