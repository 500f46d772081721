import SyscallKernel.Proofs.Machine.Interleaving

/-!
# Who waits is known to wait

The invariant of interleaved processes. A process that was told to wait, and that no
wake-up has reached or is under way to, is registered as the waiter of its child, which
runs. Nobody can end a process inside a join, for it takes no step of its own; so only
the child, or the halt of the machine, can end the wait, and both send a wake-up.
-/

namespace SyscallKernel

variable {σ : Type}

theorem roster_append (first second : List (UserProcess σ)) :
    roster (first ++ second) = roster first ++ roster second :=
  List.flatMap_append

theorem roster_perm {first second : List (UserProcess σ)} (same : first.Perm second) :
    (roster first).Perm (roster second) :=
  same.flatMap_right _

/-- A process that was not torn down is on the roster. -/
theorem mem_roster {process : UserProcess σ} {processes : List (UserProcess σ)}
    (member : process ∈ processes) (live : process.terminated = false) :
    process.pid ∈ roster processes := by
  refine List.mem_flatMap.2 ⟨process, member, ?_⟩
  rw [UserProcess.roster, live]
  exact List.mem_singleton.2 rfl

namespace Kernel

/-- A join goes on exactly if it is told to wait. -/
theorem joinEnd?_eq_none_iff {kernel : Kernel} {parent child : Pid} :
    kernel.joinEnd? parent child = none ↔ (kernel.pollJoin parent child).value = .ok .pending := by
  unfold joinEnd?
  split
  · rename_i error found
    simp only [found, reduceCtorEq]
  · rename_i how found
    simp only [found, reduceCtorEq, Except.ok.injEq]
  · rename_i found
    simp only [found]

end Kernel

/-- The first turn of a call ends suspended only in a join that is told to wait, and then it
leaves the caller as it was. -/
theorem Kernel.dispatch_of_suspended [AddressSpace σ] {engine : Engine σ} {kernel : Kernel}
    {caller : UserProcess σ} {number : Nat} {args : Registers} {pending : PendingJoin}
    (suspended : (kernel.dispatch engine caller number args).value = .suspended pending) :
    kernel.asked? caller number args = some pending ∧
      (kernel.pollJoin caller.pid pending.child).value = .ok .pending ∧
      (kernel.dispatch engine caller number args).caller = caller ∧
      (kernel.dispatch engine caller number args).kernel =
        (kernel.pollJoin caller.pid pending.child).kernel := by
  have asked := asked?_of_suspended suspended
  rw [dispatch_of_asked? engine asked] at suspended
  have told := (resume_eq_suspended.1 suspended).2
  rw [dispatch_of_asked? engine asked, resume_of_pending told]
  exact ⟨asked, told, rfl, rfl⟩

namespace Errand

variable [AddressSpace σ] {kernel : Kernel} {caller : UserProcess σ}

/-- A round of a join deals with the process table in the name of the process. -/
theorem conducts_ask (kernel : Kernel) (caller : UserProcess σ) (errand : Errand) :
    (errand.ask kernel caller).Conducts kernel caller := by
  cases errand with
  | direct child =>
    obtain ⟨history, polled⟩ := kernel.conduct_pollJoin caller.pid child
    exact ⟨⟨history, polled.beside caller⟩, rfl⟩
  | call pending =>
    have conducts := kernel.conducts_resume caller pending
    exact ⟨conducts.history, conducts.pid⟩

/-- A round of a join starts nobody. -/
theorem child_ask (kernel : Kernel) (caller : UserProcess σ) (errand : Errand) :
    (errand.ask kernel caller).child = none := by
  cases errand with
  | direct child => rfl
  | call pending =>
    have same := (Step.same_conclude (Service.join kernel caller pending) Syscall.join.number).2.2
    refine same.trans ?_
    unfold Service.join
    simp only
    split
    · rfl
    · rfl
    · unfold Service.deliver
      split
      · rfl
      · rfl
      · split <;> rfl

/-- A process has to wait exactly if its join does not return. -/
theorem value_ask (kernel : Kernel) (caller : UserProcess σ) (errand : Errand) :
    (errand.ask kernel caller).value = true ↔
      kernel.joinEnd? caller.pid errand.child = none := by
  rw [Kernel.joinEnd?_eq_none_iff]
  cases errand with
  | direct wanted =>
    simp only [ask, child]
    split
    · rename_i found
      simp only [found]
    · rename_i other
      simp only [Bool.false_eq_true, false_iff]
      exact other
  | call pending =>
    simp only [ask, child]
    split
    · rename_i found
      simp only [(Kernel.resume_eq_suspended.1 found).2]
    · rename_i found
      simp only [Bool.false_eq_true, false_iff]
      intro told
      rw [Kernel.resume_of_pending told] at found
      cases found

/-- A process that has to wait is as it was before. -/
theorem ask_of_waits {errand : Errand} (waits : (errand.ask kernel caller).value = true) :
    (errand.ask kernel caller).caller = caller ∧
      (errand.ask kernel caller).kernel = (kernel.pollJoin caller.pid errand.child).kernel := by
  have told := Kernel.joinEnd?_eq_none_iff.1 ((value_ask kernel caller errand).1 waits)
  cases errand with
  | direct child => exact ⟨rfl, rfl⟩
  | call pending =>
    simp only [ask]
    rw [Kernel.resume_of_pending told]
    exact ⟨rfl, rfl⟩

end Errand

namespace World

variable {world world' : World σ} {log effects : List Effect}

/-- What holds of a world at any time. -/
structure Orderly (world : World σ) (log : List Effect) : Prop where
  /-- The process table is well formed. -/
  table : world.machine.kernel.processes.WellFormed
  /-- Every chain of children ends. -/
  founded : WellFounded world.machine.kernel.processes.IsChildOf
  /-- The processes that run are those that were not torn down. -/
  staffed : Staffed world.machine.kernel.processes (roster world.processes)
  /-- A process inside a join was not torn down. -/
  live : ∀ joiner ∈ world.joiners, joiner.process.terminated = false
  /-- A process that was told to wait is known to wait, or notified. -/
  awaited : ∀ joiner ∈ world.joiners, joiner.phase ≠ .asking →
    world.Notified joiner.process.pid ∨
      world.machine.kernel.processes.IsAwaited joiner.process.pid joiner.errand.child
  /-- The termination of every zombie was recorded. -/
  ended : ∀ pid how, world.machine.kernel.processes.state? pid = some (.zombie how) →
    .note (.terminated pid how) ∈ log

namespace Orderly

/-- A step in which the process table does not change. -/
theorem rearrange (orderly : world.Orderly log)
    (same : world'.machine.kernel.processes = world.machine.kernel.processes)
    (listed : (roster world'.processes).Perm (roster world.processes))
    (live : ∀ joiner ∈ world'.joiners, joiner.process.terminated = false)
    (awaited : ∀ joiner ∈ world'.joiners, joiner.phase ≠ .asking →
      world'.Notified joiner.process.pid ∨
        world.machine.kernel.processes.IsAwaited joiner.process.pid joiner.errand.child) :
    world'.Orderly log where
  table := same ▸ orderly.table
  founded := same ▸ orderly.founded
  staffed := same ▸ orderly.staffed.perm listed.symm
  live := live
  awaited := same ▸ awaited
  ended := same ▸ orderly.ended

/-- A step in which the kernel acts in the name of some processes while others, among
them those that stay inside joins, stand by. -/
theorem react (orderly : world.Orderly log) {kernel : Kernel} {history : TableHistory}
    {before after bystanders parked : List (UserProcess σ)} {joiners : List (Joiner σ)}
    (conduct : Conduct world.machine.kernel (roster before) effects kernel (roster after) history)
    (old : world.processes.Perm (before ++ bystanders))
    (new : (parked ++ joiners.map Joiner.process).Perm (after ++ bystanders))
    (inside : ∀ joiner ∈ joiners, (joiner ∈ world.joiners ∧ joiner.process ∈ bystanders) ∨
      (joiner.process.terminated = false ∧
        kernel.processes.IsAwaited joiner.process.pid joiner.errand.child)) :
    (world.react kernel effects parked joiners).Orderly (log ++ effects) := by
  have staffed := orderly.staffed.perm (roster_perm old)
  rw [roster_append] at staffed
  obtain ⟨staffed', spared⟩ := conduct.staffed _ orderly.table staffed
  constructor
  case table => exact conduct.dealings.wellFormed orderly.table
  case founded => exact conduct.dealings.wellFounded_isChildOf orderly.table orderly.founded
  case staffed =>
    rw [← roster_append] at staffed'
    exact staffed'.perm (roster_perm new).symm
  case live =>
    intro joiner member
    rcases inside joiner member with ⟨stayed, _⟩ | ⟨live, _⟩
    · exact orderly.live joiner stayed
    · exact live
  case awaited =>
    intro joiner member waits
    rcases inside joiner member with ⟨stayed, listed⟩ | ⟨_, awaited⟩
    · rcases orderly.awaited joiner stayed waits with (permitted | sent) | awaited
      · exact .inl (.inl permitted)
      · exact .inl (.inr (List.mem_append_left _ sent))
      · have alive := spared _ (mem_roster listed (orderly.live joiner stayed))
        rcases conduct.dealings.isAwaited orderly.table awaited alive with still | woken
        · exact .inr still
        · rw [← conduct.wakes] at woken
          exact .inl (.inr (List.mem_append_right _ woken))
    · exact .inr awaited
  case ended =>
    intro pid how ended
    rcases conduct.dealings.zombie_cases orderly.table ended with old | new
    · exact List.mem_append_left _ (orderly.ended pid how old)
    · exact List.mem_append_right _ (conduct.terminations pid how new)

/-- A new world is orderly. -/
theorem start (engine : Engine σ) (config : Config) (console : ConsoleDevice) :
    Orderly (⟨.new engine (.new config console), [], []⟩ : World σ) [] where
  table := ProcessTable.wellFormed_empty _
  founded := ProcessTable.wellFounded_isChildOf_empty _
  staffed := Staffed.empty _
  live _ member := nomatch member
  awaited _ member := nomatch member
  ended _ _ found := nomatch found

end Orderly

/-! ### Lists of processes -/

/-- One parked process can be set apart from all others. -/
theorem perm_of_parked {before after : List (UserProcess σ)} {process : UserProcess σ}
    (listed : world.machine.parked = before ++ process :: after) :
    world.processes.Perm
      ([process] ++ ((before ++ after) ++ world.joiners.map Joiner.process)) := by
  rw [processes, listed]
  exact List.perm_middle.append_right _

/-- Processes inside joins, one of them set apart. -/
theorem mem_joiners {before after : List (Joiner σ)} {joiner : Joiner σ}
    (listed : world.joiners = before ++ joiner :: after) (other : Joiner σ) :
    other ∈ world.joiners ↔ other = joiner ∨ other ∈ before ++ after := by
  rw [listed, List.perm_middle.mem_iff, List.mem_cons]

/-- One process inside a join can be set apart from all others. -/
theorem perm_of_joiners {before after : List (Joiner σ)} {joiner : Joiner σ}
    (listed : world.joiners = before ++ joiner :: after) :
    world.processes.Perm
      ([joiner.process] ++ (world.machine.parked ++ (before ++ after).map Joiner.process)) := by
  rw [processes, listed, List.map_append, List.map_cons, List.map_append]
  exact (List.perm_middle.append_left _).trans List.perm_middle

/-- Processes inside joins have pids of their own. -/
theorem Orderly.apart (orderly : world.Orderly log) {before after : List (Joiner σ)}
    {joiner : Joiner σ} (listed : world.joiners = before ++ joiner :: after) :
    ∀ other ∈ before ++ after, other.process.pid ≠ joiner.process.pid := by
  intro other member same
  have live := orderly.live joiner ((mem_joiners listed joiner).2 (.inl rfl))
  have nodup := (orderly.staffed.perm (roster_perm (perm_of_joiners listed))).nodup
  rw [roster_append, roster_singleton, UserProcess.roster, live] at nodup
  refine (List.nodup_cons.1 nodup).1 ?_
  rw [← same]
  exact mem_roster (List.mem_append_right _ (List.mem_map_of_mem member))
    (orderly.live other ((mem_joiners listed other).2 (.inr member)))

theorem hasPermit_consume (machine : Machine σ) (pid other : Pid) :
    (machine.consume pid).hasPermit other = (machine.hasPermit other && decide (other ≠ pid)) := by
  rw [Machine.hasPermit, Machine.consume, List.contains_eq_mem, Machine.hasPermit,
    List.contains_eq_mem, ← Bool.decide_and]
  simp only [List.mem_filter, decide_eq_true_eq]

theorem hasPermit_permit (machine : Machine σ) (pid other : Pid) :
    (machine.permit pid).hasPermit other = (decide (other = pid) || machine.hasPermit other) := by
  rw [Machine.hasPermit, Machine.permit, List.contains_eq_mem, Machine.hasPermit,
    List.contains_eq_mem, ← Bool.decide_or]
  congr 1
  rw [List.mem_cons, List.mem_filter, decide_eq_true_eq]
  by_cases same : other = pid
  · simp only [same, true_or]
  · simp only [same, false_or, ne_eq, not_false_eq_true, and_true]

/-- Computing in one's own memory changes nobody's pid, and ends nobody. -/
theorem roster_compute (machine : Machine σ) (pid : Pid) (change : σ → σ) :
    roster (machine.compute pid change).parked = roster machine.parked := by
  rw [roster, Machine.compute, List.flatMap_map, roster]
  congr 1
  funext process
  split <;> rfl

/-! ### Steps -/

/-- The kernel acts for a parked process; whoever is inside a join stays there. -/
theorem Orderly.act (orderly : world.Orderly log) {kernel : Kernel} {history : TableHistory}
    {before after others parked : List (UserProcess σ)}
    (conduct : Conduct world.machine.kernel (roster before) effects kernel (roster after) history)
    (old : world.machine.parked.Perm (before ++ others)) (new : parked.Perm (after ++ others)) :
    (world.react kernel effects parked world.joiners).Orderly (log ++ effects) := by
  have beside : ∀ {some rest : List (UserProcess σ)}, some.Perm rest →
      (some ++ world.joiners.map Joiner.process).Perm (rest ++ world.joiners.map Joiner.process) :=
    fun same => same.append_right _
  have old := beside old
  have new := beside new
  rw [List.append_assoc] at old new
  refine orderly.react conduct old new ?_
  intro joiner member
  exact .inl ⟨member, List.mem_append_right _ (List.mem_map_of_mem member)⟩

/-- The kernel may start a process. -/
theorem Orderly.launch (orderly : world.Orderly log) {history : TableHistory}
    {reaction : Reaction (Except SysError (UserProcess σ))}
    (conduct : Conduct world.machine.kernel [] reaction.effects reaction.kernel
      (roster reaction.value.toOption.toList) history) :
    (world.launch reaction).Orderly (log ++ reaction.effects) := by
  have started : Conduct world.machine.kernel (roster ([] : List (UserProcess σ)))
    reaction.effects reaction.kernel (roster reaction.value.toOption.toList) history := conduct
  exact orderly.act started (.refl _) (.refl _)

/-- The kernel may end a process. -/
theorem Orderly.finish (orderly : world.Orderly log) {before after : List (UserProcess σ)}
    {process : UserProcess σ} {history : TableHistory} {reaction : Reaction (UserProcess σ)}
    (listed : world.machine.parked = before ++ process :: after)
    (conduct : Conduct world.machine.kernel process.roster reaction.effects reaction.kernel
      reaction.value.roster history) :
    (world.react reaction.kernel reaction.effects (reaction.value :: (before ++ after))
      world.joiners).Orderly (log ++ reaction.effects) := by
  rw [← roster_singleton, ← roster_singleton] at conduct
  refine orderly.act conduct ?_ (.refl _)
  rw [listed]
  exact List.perm_middle

/-- A process inside a join goes on to another phase. -/
theorem Orderly.rephase (orderly : world.Orderly log) {before after : List (Joiner σ)}
    {joiner : Joiner σ} (listed : world.joiners = before ++ joiner :: after) {phase : JoinPhase}
    (sameKernel : world'.machine.kernel = world.machine.kernel)
    (sameParked : world'.machine.parked = world.machine.parked)
    (changed : world'.joiners = before ++ { joiner with phase } :: after)
    (notified : ∀ other ∈ before ++ after, world.Notified other.process.pid →
      world'.Notified other.process.pid)
    (waits : phase ≠ .asking → world'.Notified joiner.process.pid ∨
      world.machine.kernel.processes.IsAwaited joiner.process.pid joiner.errand.child) :
    world'.Orderly log := by
  have members := mem_joiners listed
  have sameProcesses : world'.processes = world.processes := by
    simp only [processes, sameParked, changed, listed, List.map_append, List.map_cons]
  refine orderly.rearrange (by rw [sameKernel]) (by rw [sameProcesses]) ?_ ?_
  · intro other member
    rcases (mem_joiners changed other).1 member with rfl | member
    · exact orderly.live joiner ((members joiner).2 (.inl rfl))
    · exact orderly.live other ((members other).2 (.inr member))
  · intro other member told
    rcases (mem_joiners changed other).1 member with rfl | member
    · exact waits told
    · exact (orderly.awaited other ((members other).2 (.inr member)) told).imp_left
        (notified other member)

variable [AddressSpace σ]

/-- The first turn of a call leaves its caller parked, or waiting for its child. -/
theorem Orderly.call (orderly : world.Orderly log) {before after : List (UserProcess σ)}
    {caller : UserProcess σ} (listed : world.machine.parked = before ++ caller :: after)
    (number : Nat) (args : Registers) :
    (world.proceed (world.machine.kernel.dispatch world.machine.engine caller number args)
      (before ++ after)).Orderly
      (log ++ (world.machine.kernel.dispatch world.machine.engine caller number args).effects) := by
  obtain ⟨history, conduct⟩ :=
    (world.machine.kernel.conducts_dispatch world.machine.engine caller number args).history
  unfold proceed
  split
  · refine orderly.act conduct ?_ (.refl _)
    rw [listed]
    exact List.perm_middle
  · rename_i pending suspended
    obtain ⟨asked, told, sameCaller, sameKernel⟩ := Kernel.dispatch_of_suspended suspended
    refine orderly.react conduct (perm_of_parked listed) ?_ ?_
    · rw [List.map_cons]
      refine List.perm_middle.trans ?_
      rw [List.append_assoc]
      exact .refl _
    · intro joiner member
      rcases List.mem_cons.1 member with rfl | member
      · rw [sameCaller, sameKernel]
        exact .inr ⟨(Kernel.asked?_eq_some_iff.1 asked).2.1,
          Kernel.isAwaited_of_pollJoin orderly.table told⟩
      · exact .inl ⟨member, List.mem_append_right _ (List.mem_map_of_mem member)⟩

/-- A round of a join leaves the process parked, or waiting for its child. -/
theorem Orderly.asked (orderly : world.Orderly log) {before after : List (Joiner σ)}
    {joiner : Joiner σ} (listed : world.joiners = before ++ joiner :: after) :
    (world.asked joiner (before ++ after)).Orderly
      (log ++ (joiner.errand.ask world.machine.kernel joiner.process).effects) := by
  obtain ⟨history, conduct⟩ := (joiner.errand.conducts_ask world.machine.kernel joiner.process).history
  rw [Errand.child_ask] at conduct
  have stay : ∀ other ∈ before ++ after, other ∈ world.joiners ∧
      other.process ∈ world.machine.parked ++ (before ++ after).map Joiner.process :=
    fun other member => ⟨(mem_joiners listed other).2 (.inr member),
      List.mem_append_right _ (List.mem_map_of_mem member)⟩
  unfold World.asked
  simp only
  split
  · rename_i waits
    obtain ⟨sameCaller, sameKernel⟩ := Errand.ask_of_waits waits
    have told := Kernel.joinEnd?_eq_none_iff.1 ((Errand.value_ask _ _ _).1 waits)
    refine orderly.react conduct (perm_of_joiners listed) List.perm_middle ?_
    intro other member
    rcases List.mem_cons.1 member with rfl | member
    · refine .inr ⟨?_, ?_⟩
      · rw [sameCaller]
        exact orderly.live joiner ((mem_joiners listed joiner).2 (.inl rfl))
      · rw [sameCaller, sameKernel]
        exact Kernel.isAwaited_of_pollJoin orderly.table told
    · exact .inl (stay other member)
  · refine orderly.react conduct (perm_of_joiners listed) (.refl _) ?_
    intro other member
    exact .inl (stay other member)

/-- Every step keeps a world orderly. -/
theorem Step.orderly {occurrence : Occurrence} (step : world.Step occurrence world')
    (orderly : world.Orderly log) : world'.Orderly (log ++ occurrence.effects) := by
  cases step with
  | boot program args =>
    obtain ⟨history, conduct⟩ :=
      Kernel.conduct_boot world.machine.engine world.machine.kernel program args
    exact orderly.launch conduct
  | spawn parent image =>
    obtain ⟨history, conduct⟩ :=
      Kernel.conduct_spawn world.machine.engine world.machine.kernel parent image
    exact orderly.launch conduct
  | call caller listed number args => exact orderly.call listed number args
  | exit process listed status =>
    obtain ⟨history, conduct⟩ := world.machine.kernel.conduct_exit process status
    exact orderly.finish listed conduct
  | abort process listed fault =>
    obtain ⟨history, conduct⟩ := world.machine.kernel.conduct_abort process fault
    exact orderly.finish listed conduct
  | halt pid =>
    obtain ⟨history, conduct⟩ := world.machine.kernel.conduct_halt pid
    have halted : Conduct world.machine.kernel (roster ([] : List (UserProcess σ))) _ _
      (roster ([] : List (UserProcess σ))) history := conduct
    exact orderly.act halted (.refl _) (.refl _)
  | ask joiner listed asking => exact orderly.asked listed
  | @enter before after process listed live child =>
    rw [List.append_nil]
    have same : (roster ((before ++ after) ++ process :: world.joiners.map Joiner.process)).Perm
        (roster world.processes) := by
      refine roster_perm (List.perm_middle.trans ?_)
      exact (perm_of_parked listed).symm
    refine orderly.rearrange rfl same ?_ ?_
    · intro joiner member
      rcases List.mem_cons.1 member with rfl | member
      · exact live
      · exact orderly.live joiner member
    · intro joiner member waits
      rcases List.mem_cons.1 member with rfl | member
      · exact absurd rfl waits
      · exact orderly.awaited joiner member waits
  | block joiner listed told without =>
    rw [List.append_nil]
    have waits := orderly.awaited joiner ((mem_joiners listed joiner).2 (.inl rfl))
    refine orderly.rephase listed rfl rfl rfl (fun _ _ notified => notified) fun _ => ?_
    exact waits fun asking => nomatch told.symm.trans asking
  | rise joiner listed waits permitted =>
    rw [List.append_nil]
    refine orderly.rephase listed rfl rfl rfl ?_ fun waits => absurd rfl waits
    intro other member notified
    refine notified.imp_left fun permitted => ?_
    rw [hasPermit_consume, permitted, decide_eq_true (orderly.apart listed other member)]
    rfl
  | @deliver before after pid listed =>
    rw [List.append_nil]
    refine orderly.rearrange rfl (.refl _) orderly.live ?_
    intro joiner member waits
    refine (orderly.awaited joiner member waits).imp_left ?_
    unfold Notified
    rw [hasPermit_permit, listed, List.perm_middle.mem_iff, List.mem_cons, Bool.or_eq_true,
      decide_eq_true_eq]
    rintro (permitted | same | sent)
    · exact .inl (.inr permitted)
    · exact .inl (.inl same)
    · exact .inr sent
  | permit pid =>
    rw [List.append_nil]
    refine orderly.rearrange rfl (.refl _) orderly.live ?_
    intro joiner member waits
    refine (orderly.awaited joiner member waits).imp_left ?_
    unfold Notified
    rw [hasPermit_permit, Bool.or_eq_true]
    exact Or.imp_left .inr
  | compute pid change =>
    rw [List.append_nil]
    refine orderly.rearrange rfl ?_ orderly.live orderly.awaited
    rw [processes, processes, roster_append, roster_append, roster_compute]
  | console console =>
    rw [List.append_nil]
    exact orderly.rearrange rfl (.refl _) orderly.live orderly.awaited
  | equip engine =>
    rw [List.append_nil]
    exact orderly.rearrange rfl (.refl _) orderly.live orderly.awaited

/-- Every run leaves the world orderly. -/
theorem Run.orderly {engine : Engine σ} {config : Config} {console : ConsoleDevice}
    (run : Run engine config console log world) : world.Orderly log := by
  induction run with
  | start => exact .start engine config console
  | step earlier step ih => exact step.orderly ih

end World

end SyscallKernel
