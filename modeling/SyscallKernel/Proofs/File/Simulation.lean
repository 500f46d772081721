import SyscallKernel.Proofs.File.Refinement

/-!
# Every call is simulated

One call after another, a file session and the object store that it refines give
the same answers and stay in step.
-/

namespace SyscallKernel

namespace ObjectStore

variable {store : ObjectStore}

/-- One more handle is counted on the object that it is on. -/
theorem handleCount_obtain (store : ObjectStore) (object : Nat) (owner : Pid) :
    (store.obtain object owner).1.handleCount object = store.handleCount object + 1 := by
  simp only [obtain, handleCount, List.countP_cons, decide_true, if_true]

/-- A new object with a name and a handle is one more file. -/
theorem size_obtain_new (store : ObjectStore) (name : FileName) (owner : Pid) :
    ({ store with
        objects := store.objects ++ [[]]
        links := (name, store.objects.length) :: store.links }.obtain
      store.objects.length owner).1.size = store.size + 1 := by
  have old : ∀ object ∈ List.range store.objects.length, object ≠ store.objects.length :=
    fun object within => Nat.ne_of_lt (List.mem_range.1 within)
  -- The new object is a file, and every other object is one if it was one before.
  have files : ∀ object ∈ List.range store.objects.length,
      (decide (store.objects.length = object) || store.links.any fun link => link.2 = object) =
        store.isLinked object := by
    intro object within
    rw [decide_eq_false (old object within).symm, Bool.false_or]
    rfl
  have handles : ∀ object ∈ List.range store.objects.length,
      (store.handles.countP fun held => held.2.object = object) +
        (if decide (store.objects.length = object) = true then 1 else 0) =
          store.handleCount object := by
    intro object within
    rw [decide_eq_false (old object within).symm, if_neg Bool.false_ne_true, Nat.add_zero]
    rfl
  simp only [size, reachable, obtain, List.length_append, List.length_singleton, List.range_succ,
    List.filter_append, List.filter_cons, List.filter_nil, isLinked, handleCount, List.any_cons,
    List.countP_cons, decide_true, Bool.true_or, if_true]
  congr 2
  exact List.filter_congr fun object within => by
    rw [files object within, handles object within]; rfl

end ObjectStore

namespace Refines

variable {session : FileSession} {model : ObjectStore}

/-- Both sides obtain a handle at the start of the same file. -/
theorem obtained {store' : FileStore} {objects' : List Bytes} {links' : List (FileName × Nat)}
    {id : FileId} {data : Nat} (owner : Pid) (refines : Refines session model)
    (wellFormed : store'.WellFormed)
    (accounts : store'.Accounts ((id, data) :: session.handles.map fun held => held.2.link))
    (objects : objects' = store'.data) (capacity : store'.capacity = session.store.capacity)
    (links : links' = store'.names.map fun link => (link.1, store'.dataAt link.2)) :
    Refines ({ session with store := store' }.obtain (.atStart id data owner)).1
      ({ model with objects := objects', links := links' }.obtain data owner).1 where
  wellFormed := wellFormed
  accounts := accounts
  numbers_nodup := by
    refine List.nodup_cons.2 ⟨?_, refines.numbers_nodup⟩
    intro member
    obtain ⟨held, listed, same⟩ := List.mem_map.1 member
    have less := refines.numbers_lt held listed
    simp only at same
    omega
  numbers_lt := by
    intro held member
    rcases List.mem_cons.1 member with rfl | member
    · exact Nat.lt_succ_self _
    · exact Nat.lt_succ_of_lt (refines.numbers_lt held member)
  objects := objects
  capacity := refines.capacity.trans capacity.symm
  links := links
  handles := by
    simp only [FileSession.obtain, ObjectStore.obtain, List.map_cons, refines.handles,
      refines.nextHandle, FileHandle.onObject, FileHandle.atStart]
  nextHandle := by
    simp only [FileSession.obtain, ObjectStore.obtain, refines.nextHandle]

/-- Both sides move the cursor of a handle. -/
theorem moved {store' : FileStore} {objects' : List Bytes} {n count : Nat} {handle : FileHandle}
    (refines : Refines session model) (found : session.handles.lookup n = some handle)
    (wellFormed : store'.WellFormed)
    (accounts : store'.Accounts (session.handles.map fun held => held.2.link))
    (objects : objects' = store'.data) (capacity : store'.capacity = session.store.capacity)
    (links : (store'.names.map fun link => (link.1, store'.dataAt link.2)) =
      session.store.names.map fun link => (link.1, session.store.dataAt link.2)) :
    Refines ({ session with store := store' }.setHandle n (handle.advance count))
      ({ model with objects := objects' }.advance n handle.onObject count) where
  wellFormed := wellFormed
  accounts := by
    have front := perm_cons_filter_of_lookup refines.numbers_nodup found
    exact accounts.perm (front.map fun held => held.2.link)
  numbers_nodup := by
    have front := perm_cons_filter_of_lookup refines.numbers_nodup found
    exact ((front.map Prod.fst).nodup_iff.1 refines.numbers_nodup)
  numbers_lt := by
    have front := perm_cons_filter_of_lookup refines.numbers_nodup found
    intro held member
    rcases List.mem_cons.1 member with rfl | member
    · exact refines.numbers_lt (n, handle) (front.mem_iff.2 List.mem_cons_self)
    · exact refines.numbers_lt held (List.mem_filter.1 member).1
  objects := objects
  capacity := refines.capacity.trans capacity.symm
  links := refines.links.trans links.symm
  handles := by
    simp only [FileSession.setHandle, FileSession.forget, ObjectStore.advance, ObjectStore.forget,
      refines.handles, List.filter_map, List.map_cons, Function.comp_def, FileHandle.onObject,
      FileHandle.advance]
  nextHandle := refines.nextHandle

/-- Both sides drop a handle. -/
theorem dropped {n : Nat} {handle : FileHandle} (refines : Refines session model)
    (found : session.handles.lookup n = some handle) :
    Refines ((session.forget n).releaseAll [handle]) (model.forget n) := by
  have front := perm_cons_filter_of_lookup refines.numbers_nodup found
  have accounts := refines.accounts.perm (front.map fun held => held.2.link)
  have releasing := FileStore.releasing refines.wellFormed.arranged handle.id
  obtain ⟨_, accounts'⟩ := releasing.accounts accounts
  have wellFormed' := releasing.wellFormed refines.wellFormed
  have rest : (session.store.release handle.id).1.data = session.store.data ∧
      ((session.store.release handle.id).1.names.map fun link =>
        (link.1, (session.store.release handle.id).1.dataAt link.2)) =
        (session.store.names.map fun link => (link.1, session.store.dataAt link.2)) ∧
      (session.store.release handle.id).1.capacity = session.store.capacity := by
    generalize (session.store.release handle.id).1 = store' at releasing
    generalize (session.store.release handle.id).2 = release at releasing
    cases releasing with
    | stale => exact ⟨rfl, rfl, rfl⟩
    | unheld => exact ⟨rfl, rfl, rfl⟩
    | kept live _ _ change data =>
      refine ⟨data, ?_, change.capacity⟩
      simp only [change.names, change.dataAt_eq live rfl]
    | freed live _ unlinked change data =>
      refine ⟨data, ?_, change.capacity⟩
      rw [change.names]
      refine change.map_dataAt ?_
      -- No name leads to the entry that goes.
      rintro ⟨name, index⟩ listed rfl
      have linked := ((refines.wellFormed.mem_names_of_live live).1 listed).2
      rw [unlinked] at linked
      cases linked
  obtain ⟨data', links', capacity'⟩ := rest
  exact
    { wellFormed := wellFormed'
      accounts := accounts'
      numbers_nodup := refines.numbers_nodup.sublist (List.Sublist.map _ List.filter_sublist)
      numbers_lt := fun held member => refines.numbers_lt held (List.mem_filter.1 member).1
      objects := refines.objects.trans data'.symm
      capacity := refines.capacity.trans capacity'.symm
      links := refines.links.trans links'.symm
      handles := by
        simp only [FileSession.releaseAll, FileSession.forget, ObjectStore.forget, refines.handles,
          List.filter_map, Function.comp_def]
      nextHandle := refines.nextHandle }

/-- One more handle on an entry can be counted if the model can count it. -/
theorem openCount_succ_lt {id : FileId} {entry : FileEntry} {objects : List Bytes} {owner : Pid}
    (refines : Refines session model) (live : session.store.entry? id = some entry)
    (fits : ({ model with objects }.obtain entry.data owner).1.Fits) :
    entry.openCount + 1 < wordCount := by
  have counted := fits.handleCount_lt entry.data
  have same : model.handleCount entry.data = entry.openCount := refines.handleCount_eq live
  rw [ObjectStore.handleCount_obtain] at counted
  exact same ▸ counted

/-- Creating a file is simulated. -/
theorem step_create (refines : Refines session model) (name : FileName) (owner : Pid)
    (fits : (model.step (.create name owner)).1.Fits) :
    Refines (session.step (.create name.bytes owner)).1 (model.step (.create name owner)).1 ∧
      (session.step (.create name.bytes owner)).2.view? =
        some (model.step (.create name owner)).2 := by
  have wellFormed := refines.wellFormed
  have creating := FileStore.creating wellFormed.arranged name owner
  have valid : FileName.ofBytes name.bytes = .ok name := FileName.ofBytes_eq_ok_iff.2 rfl
  simp only [FileSession.step, FileSession.withName, valid, ObjectStore.step,
    refines.lookup_links] at fits ⊢
  generalize session.store.create name owner = result at creating
  obtain ⟨store', creation⟩ := result
  simp only at creating ⊢
  have made := creating
  cases creating with
  | @truncated id entry _ linked change data =>
    have live := FileStore.live_of_linked? linked
    simp only [linked, Option.map_some] at fits ⊢
    have few := refines.openCount_succ_lt live fits
    have indexed := change.indexed_of_live wellFormed.arranged live wellFormed.indexed
    have accounts' := made.accounts indexed (fun linked' => by
      rw [linked] at linked'
      cases linked'
      exact few) refines.accounts
    refine ⟨?_, ?_⟩
    · refine refines.obtained owner (made.wellFormed wellFormed indexed) accounts' ?_
        change.capacity ?_
      · rw [data, refines.objects]
      · simp only [change.names, change.dataAt_eq live rfl, refines.links]
    · simp only [FileStore.Creation.handle?, FileSession.obtain, ObjectStore.obtain,
        FileAnswer.view?, FileHandle.atStart, refines.nextHandle]
  | @created id issued _ unlinked room fresh issued_eq change data =>
    have full : ¬ model.capacity ≤ model.size := by
      rw [refines.capacity, refines.size_eq]
      exact Nat.not_le_of_lt room
    simp only [unlinked, Option.map_none, full, if_false] at fits ⊢
    have indexed : store'.Indexed := by
      have files := fits.size_le
      have count := change.live_eq wellFormed.arranged
      rw [fresh, Option.toList_none, List.length_nil, Option.toList_some,
        List.length_singleton] at count
      rw [ObjectStore.size_obtain_new, refines.size_eq, FileStore.size] at files
      exact change.indexed_of_live_le wellFormed.indexed (by omega)
    cases issued_eq (change.index_lt indexed)
    have accounts' := made.accounts indexed (fun linked' => by
      rw [unlinked] at linked'
      cases linked') refines.accounts
    have new : store'.dataAt id.index = session.store.data.length := by
      have live := change.entry?_eq id
      rw [if_pos rfl] at live
      exact FileStore.dataAt_of_live live
    refine ⟨?_, ?_⟩
    · have object : model.objects.length = session.store.data.length := by rw [refines.objects]
      rw [object]
      refine refines.obtained owner (made.wellFormed wellFormed indexed) accounts' ?_
        change.capacity ?_
      · rw [data, refines.objects]
      · rw [change.names, refines.links, List.map_cons, new]
        congr 1
        refine (change.map_dataAt ?_).symm
        rintro ⟨other, index⟩ listed rfl
        obtain ⟨id', entry', live, sameSlot, _⟩ := wellFormed.mem_names.1 listed
        rw [change.alone live sameSlot, fresh] at live
        cases live
    · simp only [FileStore.Creation.handle?, FileSession.obtain, ObjectStore.obtain,
        FileAnswer.view?, FileHandle.atStart, refines.nextHandle]
  | full unlinked noRoom =>
    have full : model.capacity ≤ model.size := by
      rw [refines.capacity, refines.size_eq]
      exact noRoom
    simp only [FileStore.Creation.handle?, unlinked, Option.map_none, full, if_true,
      FileAnswer.view?, and_true]
    exact refines

/-- Opening a file is simulated. -/
theorem step_openLinked (refines : Refines session model) (name : FileName) (owner : Pid)
    (fits : (model.step (.openLinked name owner)).1.Fits) :
    Refines (session.step (.openLinked name.bytes owner)).1
        (model.step (.openLinked name owner)).1 ∧
      (session.step (.openLinked name.bytes owner)).2.view? =
        some (model.step (.openLinked name owner)).2 := by
  have wellFormed := refines.wellFormed
  have opening := FileStore.opening wellFormed.arranged name owner
  have valid : FileName.ofBytes name.bytes = .ok name := FileName.ofBytes_eq_ok_iff.2 rfl
  simp only [FileSession.step, FileSession.withName, valid, ObjectStore.step,
    refines.lookup_links] at fits ⊢
  generalize session.store.openLinked name owner = result at opening
  have opens := opening
  cases opening with
  | missing unlinked =>
    simp only [unlinked, Option.map_none, FileSession.opened, FileAnswer.view?, and_true]
    exact refines
  | @opened id entry store' linked change data =>
    have live := FileStore.live_of_linked? linked
    simp only [linked, Option.map_some, FileSession.opened] at fits ⊢
    have few : entry.openCount + 1 < wordCount := refines.openCount_succ_lt live fits
    constructor
    · refine refines.obtained owner (opens.wellFormed wellFormed) ?_
        (refines.objects.trans data.symm)
        change.capacity ?_
      · refine opens.accounts (fun linked' => ?_) refines.accounts
        rw [linked] at linked'
        cases linked'
        exact few
      · simp only [change.names, change.dataAt_eq live rfl, refines.links]
    · simp only [FileSession.obtain, ObjectStore.obtain, FileAnswer.view?, FileHandle.atStart,
        refines.nextHandle]

/-- Removing a name is simulated. -/
theorem step_unlink (refines : Refines session model) (name : FileName) :
    Refines (session.step (.unlink name.bytes)).1 (model.step (.unlink name)).1 ∧
      (session.step (.unlink name.bytes)).2.view? = some (model.step (.unlink name)).2 := by
  have wellFormed := refines.wellFormed
  have removing := FileStore.removing wellFormed.arranged name
  have valid : FileName.ofBytes name.bytes = .ok name := FileName.ofBytes_eq_ok_iff.2 rfl
  simp only [FileSession.step, FileSession.withName, valid, ObjectStore.step, refines.lookup_links]
  generalize session.store.unlink name = result at removing
  -- Whatever becomes of the entry, the other names lead to the objects that they led to.
  have removed : ∀ {id entry store' new unlinking}, session.store.linked? name = some (id, entry) →
      FileStore.Change session.store id new (session.store.namesWithout name) store' →
      store'.data = session.store.data →
      FileStore.Removing session.store name (some (store', unlinking)) →
      Refines { session with store := store' }
        { model with links := model.links.filter fun link => link.1 ≠ name } := by
    intro id entry store' new unlinking linked change data removing
    obtain ⟨live, own, _⟩ := wellFormed.linked?_eq_some_iff.1 linked
    exact
      { refines with
        wellFormed := removing.wellFormed wellFormed
        accounts := removing.accounts refines.accounts
        objects := refines.objects.trans data.symm
        capacity := refines.capacity.trans change.capacity.symm
        links := by
          simp only [change.names, refines.links, List.filter_map, Function.comp_def]
          refine (change.map_dataAt ?_).symm
          rintro ⟨other, index⟩ listed rfl
          obtain ⟨listed, apart⟩ := FileStore.mem_namesWithout.1 listed
          have named := ((wellFormed.mem_names_of_live live).1 listed).1
          exact apart (named.symm.trans own) }
  have removes := removing
  cases removing with
  | missing unlinked =>
    simp only [unlinked, Option.map_none, FileAnswer.view?, and_true]
    exact refines
  | pending linked held change data =>
    simp only [linked, Option.map_some, FileAnswer.view?, and_true]
    exact removed linked change data removes
  | freed linked unheld change data =>
    simp only [linked, Option.map_some, FileAnswer.view?, and_true]
    exact removed linked change data removes
  | dangling listed unlinked => exact absurd unlinked (wellFormed.not_dangling listed)

/-- Asking about a name changes nothing and is answered alike. -/
theorem step_stat (refines : Refines session model) (name : FileName) :
    session.store.contains name = (model.links.lookup name).isSome ∧
      session.store.stat? name = (model.links.lookup name).map fun object =>
        ⟨(model.contents object).length, model.handleCount object⟩ := by
  rw [refines.lookup_links, FileStore.contains, FileStore.stat?]
  cases linked : session.store.linked? name with
  | none =>
    rw [refines.wellFormed.linked?_eq_none_iff.1 linked]
    exact ⟨rfl, rfl⟩
  | some found =>
    obtain ⟨id, entry⟩ := found
    have live := FileStore.live_of_linked? linked
    have listed : session.store.indexOf? name ≠ none := by
      rw [ne_eq, ← refines.wellFormed.linked?_eq_none_iff, linked]
      exact Option.some_ne_none _
    simp only [Option.map_some, Option.isSome_some, refines.contents_eq,
      refines.handleCount_eq live, and_true]
    exact Option.isSome_iff_ne_none.2 listed

/-- Reading is simulated. -/
theorem step_read (refines : Refines session model) (n count : Nat) :
    Refines (session.step (.read n count)).1 (model.step (.read n count)).1 ∧
      (session.step (.read n count)).2.view? = some (model.step (.read n count)).2 := by
  simp only [FileSession.step, FileSession.withHandle, ObjectStore.step, ObjectStore.withHandle,
    refines.lookup_handles]
  cases found : session.handles.lookup n with
  | none => exact ⟨refines, rfl⟩
  | some handle =>
    simp only [Option.map_some, FileStore.read, refines.contents_eq, Contents.readAt,
      FileHandle.onObject]
    exact ⟨refines.moved found refines.wellFormed refines.accounts refines.objects rfl rfl, rfl⟩

/-- Writing is simulated. -/
theorem step_write (refines : Refines session model) (n : Nat) (data : Bytes) :
    Refines (session.step (.write n data)).1 (model.step (.write n data)).1 ∧
      (session.step (.write n data)).2.view? = some (model.step (.write n data)).2 := by
  simp only [FileSession.step, FileSession.withHandle, ObjectStore.step, ObjectStore.withHandle,
    refines.lookup_handles]
  cases found : session.handles.lookup n with
  | none => exact ⟨refines, rfl⟩
  | some handle =>
    have written : model.objects.set handle.data
        (Contents.writeAt (model.contents handle.data) handle.offset data) =
          (session.store.write handle data).1.data := by
      refine List.ext_getElem? fun i => ?_
      simp only [refines.objects, refines.contents_eq, FileStore.contents, FileStore.write,
        List.getElem?_set, List.getElem?_modify, List.getD_eq_getElem?_getD]
      by_cases own : handle.data = i
      · subst own
        rcases Nat.lt_or_ge handle.data session.store.data.length with within | past
        · simp only [if_true, within, List.getElem?_eq_getElem, Option.getD_some, Option.map_eq_map,
            Option.map_some]
        · simp only [if_true, Nat.not_lt_of_ge past, if_false, List.getElem?_eq_none past,
            Option.map_eq_map, Option.map_none]
      · simp only [own, if_false, Option.map_eq_map, Option.map_id']
    have wellFormed' := FileStore.wellFormed_write refines.wellFormed handle data
    have accounts' := FileStore.accounts_write refines.accounts handle data
    simp only [Option.map_some, FileStore.write_snd, FileHandle.onObject,
      ObjectStore.patched_eq_writeAt]
    exact ⟨refines.moved found wellFormed' accounts' written rfl rfl, rfl⟩

/-- Each call is simulated. -/
theorem step (refines : Refines session model) (call : StoreCall)
    (fits : (model.step call).1.Fits) :
    Refines (session.step call.action).1 (model.step call).1 ∧
      (session.step call.action).2.view? = some (model.step call).2 := by
  have valid : ∀ name : FileName, FileName.ofBytes name.bytes = .ok name :=
    fun name => FileName.ofBytes_eq_ok_iff.2 rfl
  cases call with
  | create name owner => exact refines.step_create name owner fits
  | openLinked name owner => exact refines.step_openLinked name owner fits
  | unlink name => exact refines.step_unlink name
  | contains name =>
    simp only [StoreCall.action, FileSession.step, FileSession.withName, valid, ObjectStore.step,
      FileAnswer.view?, (refines.step_stat name).1]
    exact ⟨refines, trivial⟩
  | stat name =>
    simp only [StoreCall.action, FileSession.step, FileSession.withName, valid, ObjectStore.step,
      FileAnswer.view?, (refines.step_stat name).2]
    exact ⟨refines, trivial⟩
  | isEmpty =>
    simp only [StoreCall.action, FileSession.step, ObjectStore.step, FileAnswer.view?,
      refines.size_eq]
    exact ⟨refines, trivial⟩
  | read n count => exact refines.step_read n count
  | write n data => exact refines.step_write n data
  | info n =>
    simp only [StoreCall.action, FileSession.step, FileSession.withHandle, ObjectStore.step,
      ObjectStore.withHandle, refines.lookup_handles]
    cases session.handles.lookup n with
    | none => exact ⟨refines, rfl⟩
    | some handle => exact ⟨refines, rfl⟩
  | drop n =>
    simp only [StoreCall.action, FileSession.step, FileSession.withHandle, ObjectStore.step,
      ObjectStore.withHandle, refines.lookup_handles]
    cases found : session.handles.lookup n with
    | none => exact ⟨refines, rfl⟩
    | some handle => exact ⟨refines.dropped found, rfl⟩

/-- A session and the object store that it refines answer every list of calls alike, as long as
the object store fits. -/
theorem runAll (refines : Refines session model) (calls : List StoreCall)
    (fits : model.KeepsFitting calls) :
    (session.runAll (calls.map StoreCall.action)).map (fun (answer, size) => (answer.view?, size)) =
      (model.runAll calls).map fun (answer, size) => (some answer, size) := by
  induction calls generalizing session model with
  | nil => rfl
  | cons call rest ih =>
    obtain ⟨now, later⟩ := fits
    obtain ⟨refines', answer⟩ := refines.step call now
    simp only [List.map_cons, FileSession.runAll, ObjectStore.runAll, answer, refines'.size_eq,
      ih refines' later]

end Refines

/-! ### What fits -/

namespace ObjectStore

variable {store : ObjectStore}

/-- A call makes one object at most. -/
theorem length_objects_step_le (store : ObjectStore) (call : StoreCall) :
    (store.step call).1.objects.length ≤ store.objects.length + 1 := by
  cases call with
  | create name owner =>
    simp only [step]
    split
    · exact Nat.le_succ_of_le (Nat.le_of_eq List.length_set)
    · split
      · exact Nat.le_succ _
      · exact Nat.le_of_eq List.length_append
  | openLinked name owner =>
    simp only [step]
    split <;> exact Nat.le_succ _
  | unlink name =>
    simp only [step]
    split <;> exact Nat.le_succ _
  | contains name => exact Nat.le_succ _
  | stat name => exact Nat.le_succ _
  | isEmpty => exact Nat.le_succ _
  | read n count =>
    simp only [step, withHandle]
    split <;> exact Nat.le_succ _
  | write n data =>
    simp only [step, withHandle]
    split
    · exact Nat.le_succ _
    · exact Nat.le_succ_of_le (Nat.le_of_eq List.length_set)
  | info n =>
    simp only [step, withHandle]
    split <;> exact Nat.le_succ _
  | drop n =>
    simp only [step, withHandle]
    split <;> exact Nat.le_succ _

/-- A call gives one handle at most. -/
theorem length_handles_step_le (store : ObjectStore) (call : StoreCall) :
    (store.step call).1.handles.length ≤ store.handles.length + 1 := by
  have forgotten : ∀ n, (store.forget n).handles.length ≤ store.handles.length :=
    fun n => List.length_filter_le _ _
  cases call with
  | create name owner =>
    simp only [step]
    split
    · exact Nat.le_refl _
    · split
      · exact Nat.le_succ _
      · exact Nat.le_refl _
  | openLinked name owner =>
    simp only [step]
    split
    · exact Nat.le_succ _
    · exact Nat.le_refl _
  | unlink name =>
    simp only [step]
    split <;> exact Nat.le_succ _
  | contains name => exact Nat.le_succ _
  | stat name => exact Nat.le_succ _
  | isEmpty => exact Nat.le_succ _
  | read n count =>
    simp only [step, withHandle]
    split
    · exact Nat.le_succ _
    · exact Nat.succ_le_succ (forgotten n)
  | write n data =>
    simp only [step, withHandle]
    split
    · exact Nat.le_succ _
    · exact Nat.succ_le_succ (forgotten n)
  | info n =>
    simp only [step, withHandle]
    split <;> exact Nat.le_succ _
  | drop n =>
    simp only [step, withHandle]
    split
    · exact Nat.le_succ _
    · exact Nat.le_succ_of_le (forgotten n)

/-- There are no more files than objects, and no more handles on one than handles. -/
theorem fits_of_length_lt (objects : store.objects.length < wordCount)
    (handles : store.handles.length < wordCount) : store.Fits where
  size_le := by
    have files : store.size ≤ store.objects.length := by
      have kept := List.length_filter_le
        (fun object => store.isLinked object || decide (0 < store.handleCount object))
        (List.range store.objects.length)
      rwa [List.length_range] at kept
    omega
  handleCount_lt _ := Nat.lt_of_le_of_lt List.countP_le_length handles

/-- A store keeps fitting for as many calls as it has room for. -/
theorem keepsFitting_of_length_lt {calls : List StoreCall}
    (objects : store.objects.length + calls.length < wordCount)
    (handles : store.handles.length + calls.length < wordCount) : store.KeepsFitting calls := by
  induction calls generalizing store with
  | nil => trivial
  | cons call rest ih =>
    have made := store.length_objects_step_le call
    have given := store.length_handles_step_le call
    rw [List.length_cons] at objects handles
    exact ⟨fits_of_length_lt (by omega) (by omega), ih (by omega) (by omega)⟩

end ObjectStore

end SyscallKernel
