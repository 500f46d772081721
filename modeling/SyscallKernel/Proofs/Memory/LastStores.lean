import Mathlib.Algebra.Group.Int.Defs
import SyscallKernel.Proofs.Memory.FirstFaults
import SyscallKernel.Proofs.Memory.Flat
import SyscallKernel.Proofs.Sessions

/-!
# What is read is what was stored last

A session on paged memory is a session on the flat memory that it stands for. A store that
succeeds puts its bytes where it was told to, marks the pages it touches, and leaves every other
byte and flag alone; one that fails leaves everything alone. So whatever the actions before, a
byte that may be read is the one that was stored last at its address, or zero if none was.
-/

namespace SyscallKernel

/-- Bytes to be stored. -/
structure StoreOrder where
  /-- The access that has to be granted. -/
  kind : AccessKind
  /-- The address of the first byte. -/
  addr : UserAddr
  /-- The bytes. -/
  data : Bytes

namespace StoreOrder

/-- An address at which bytes are to be stored. -/
def Covers (order : StoreOrder) (address : Nat) : Prop :=
  order.addr.value ≤ address ∧ address < order.addr.value + order.data.length

instance (order : StoreOrder) (address : Nat) : Decidable (order.Covers address) :=
  inferInstanceAs (Decidable (_ ∧ _))

/-- Two orders that have no address in common. -/
def Apart (one two : StoreOrder) : Prop := ∀ address, one.Covers address → ¬ two.Covers address

/-- The byte that is to be stored at an address, if there is one. -/
def byteAt? (order : StoreOrder) (address : Nat) : Option UInt8 :=
  if order.Covers address then order.data[address - order.addr.value]? else none

end StoreOrder

/-- The bytes that an action stores. A loader may write whatever may be read. -/
def PagedAction.store? : PagedAction → Option StoreOrder
  | .space (.write addr data) => some ⟨.write, addr, data⟩
  | .space (.writeWord addr value) => some ⟨.write, addr, Bytes.ofWord value.toUInt32⟩
  | .load addr data => some ⟨.read, addr, data⟩
  | _ => none

/-- The byte that an action stored at an address, if its answer says that it stored one. -/
def storedAt? (address : Nat) : PagedAction × MemoryAnswer → Option UInt8
  | (action, .done) => action.store?.bind fun order => order.byteAt? address
  | _ => none

/-- The byte that was stored last at an address, or zero if none was. -/
def lastStored (transcript : List (PagedAction × MemoryAnswer)) (address : Nat) : UInt8 :=
  (transcript.reverse.findSome? (storedAt? address)).getD 0

namespace PagedMemory

variable {memory memory' : PagedMemory} {action : PagedAction} {order one two : StoreOrder}
  {count : Nat} {actions : List PagedAction}

/-- A memory in which an order was carried out. -/
structure Stored (memory : PagedMemory) (order : StoreOrder) (memory' : PagedMemory) : Prop where
  /-- The bytes are where they were to be stored, and no other byte of any page has changed. -/
  byte?_eq : ∀ address, memory'.byte? address =
    if order.Covers address then order.data[address - order.addr.value]?
    else memory.byte? address
  /-- Exactly the pages that the bytes touch are marked used and dirty, and no other flag of any
  page has changed. -/
  flags?_eq : ∀ n, memory'.flags? n = (memory.flags? n).map fun flags =>
    if Touches order.addr.value order.data.length n then { flags with used := true, dirty := true }
    else flags

/-! ### One action -/

/-- Bytes and flags determine a memory. -/
theorem ext_of_bytes (bytes : ∀ address, memory.byte? address = memory'.byte? address)
    (flags : ∀ n, memory.flags? n = memory'.flags? n) : memory = memory' := by
  have pages : memory.pages = memory'.pages := by
    refine List.ext_getElem? fun n => ?_
    have marks := flags n
    rw [flags?, flags?] at marks
    cases found : memory.pages[n]? with
    | none =>
      rw [found, Option.map_none, eq_comm, Option.map_eq_none_iff] at marks
      exact marks.symm
    | some page =>
      rw [found, Option.map_some, eq_comm, Option.map_eq_some_iff] at marks
      obtain ⟨page', found', same⟩ := marks
      have frames : page'.frame = page.frame := by
        refine List.ext_getElem? fun i => ?_
        rcases Nat.lt_or_ge i pageSize with inside | outside
        · have byte := bytes (n * pageSize + i)
          rw [byte?, byte?, byteIn?, byteIn?, div_of_offset inside, mod_of_offset inside, found,
            found'] at byte
          exact byte.symm
        · have short : ∀ page : Page, page.frame.length ≤ i := by
            intro page
            rw [page.length_frame]
            exact outside
          rw [List.getElem?_eq_none (short page'), List.getElem?_eq_none (short page)]
      rw [found']
      cases page
      cases page'
      cases frames
      cases same
      rfl
  cases memory
  cases memory'
  cases pages
  rfl

/-- An action that stores bytes stores them if its access is granted. -/
theorem run_of_store? (stores : action.store? = some order) (memory : PagedMemory) :
    action.run memory = SpaceAction.afterStore memory
      ((memory.checkRange order.addr order.data.length order.kind).map fun () =>
        memory.store order.addr order.data) := by
  have written := fun addr data => congrArg (SpaceAction.afterStore memory)
    (memory.writeBytes_eq addr data)
  cases action with
  | space action =>
    cases action with
    | write addr data =>
      cases stores
      exact written addr data
    | writeWord addr value =>
      cases stores
      exact written addr _
    | _ => cases stores
  | load addr data =>
    cases stores
    exact congrArg (SpaceAction.afterStore memory) (memory.load_eq addr data)
  | _ => cases stores

theorem stored_store
    (checked : memory.checkRange order.addr order.data.length order.kind = .ok ()) :
    memory.Stored order (memory.store order.addr order.data) where
  byte?_eq := (overlaid_store fun i within => (checkRange_eq_ok_iff.1 checked i within).2).byte?_eq
  flags?_eq := flags?_store memory order.addr order.data

/-- The memory after an action that is to store bytes whose range was checked. -/
theorem run_of_checked (stores : action.store? = some order)
    (checked : memory.checkRange order.addr order.data.length order.kind = .ok ()) :
    (action.run memory).1 = memory.store order.addr order.data := by
  rw [run_of_store? stores, checked, Except.map, SpaceAction.afterStore]

/-- The memory after an action that is to store bytes whose range was refused. -/
theorem run_of_refused {fault : Fault} (stores : action.store? = some order)
    (refused : memory.checkRange order.addr order.data.length order.kind = .error fault) :
    (action.run memory).1 = memory := by
  rw [run_of_store? stores, refused, Except.map, SpaceAction.afterStore]

/-- An action that is to store bytes is answered by the check of its range. -/
theorem answer_run (stores : action.store? = some order) (memory : PagedMemory) :
    (action.run memory).2 = .ofAccess (fun () => .done)
      (memory.checkRange order.addr order.data.length order.kind) := by
  rw [run_of_store? stores]
  cases memory.checkRange order.addr order.data.length order.kind <;> rfl

/-- What comes of an action that is to store bytes. -/
theorem run_cases (stores : action.store? = some order) (memory : PagedMemory) :
    (memory.checkRange order.addr order.data.length order.kind = .ok () ∧
      (action.run memory).2 = .done ∧
      (action.run memory).1 = memory.store order.addr order.data) ∨
    (∃ fault, memory.checkRange order.addr order.data.length order.kind = .error fault ∧
      (action.run memory).2 = .faulted fault ∧ (action.run memory).1 = memory) := by
  rw [answer_run stores]
  cases checked : memory.checkRange order.addr order.data.length order.kind with
  | error fault => exact .inr ⟨fault, rfl, rfl, run_of_refused stores checked⟩
  | ok done => exact .inl ⟨rfl, rfl, run_of_checked stores checked⟩

/-- An action that stores nothing changes no byte. -/
theorem byte?_run_of_store?_eq_none (idle : action.store? = none) (address : Nat) :
    (action.run memory).1.byte? address = memory.byte? address := by
  cases action with
  | space action =>
    cases action with
    | write => cases idle
    | writeWord => cases idle
    | _ => rfl
  | load => cases idle
  | protect n =>
    rw [← getElem?_flatten, ← getElem?_flatten]
    exact congrArg (·.bytes[address]?) (memory.flatten_modify n Page.protect
      (fun flags => { flags with readOnly := true }) (fun _ => rfl) fun _ => rfl)
  | unmap n =>
    rw [← getElem?_flatten, ← getElem?_flatten]
    exact congrArg (·.bytes[address]?) (memory.flatten_modify n Page.invalidate
      (fun flags => { flags with valid := false }) (fun _ => rfl) fun _ => rfl)
  | _ => rfl

/-- A byte after an action is the one that the action stored, or else the one before. -/
theorem byte?_run (memory : PagedMemory) (action : PagedAction) (address : Nat) :
    (action.run memory).1.byte? address = (memory.byte? address).map fun byte =>
      (storedAt? address (action, (action.run memory).2)).getD byte := by
  cases stores : action.store? with
  | none =>
    have nothing : storedAt? address (action, (action.run memory).2) = none := by
      cases (action.run memory).2 with
      | done => rw [storedAt?, stores, Option.bind_none]
      | _ => rfl
    simp only [byte?_run_of_store?_eq_none stores, nothing, Option.getD_none, Option.map_id']
  | some order =>
    rcases run_cases stores memory with ⟨checked, done, after⟩ | ⟨fault, -, faulted, after⟩
    · rw [after, done, (stored_store checked).byte?_eq]
      simp only [storedAt?, stores, Option.bind_some, StoreOrder.byteAt?]
      split
      · rename_i covered
        obtain ⟨i, place⟩ := Nat.exists_eq_add_of_le covered.1
        have within : i < order.data.length := by
          have before := covered.2
          omega
        obtain ⟨byte, old⟩ := exists_byteIn? (checkRange_eq_ok_iff.1 checked i within).2
        rw [byte?, place, old, Nat.add_sub_cancel_left, List.getElem?_eq_getElem within]
        rfl
      · simp only [Option.getD_none, Option.map_id']
    · simp only [after, faulted, storedAt?, Option.getD_none, Option.map_id']

/-! ### Sessions -/

/-- The memory of a session on `count` new pages. -/
abbrev reached (count : Nat) (actions : List PagedAction) : PagedMemory :=
  Session.after PagedAction.run (ofPageCount count) actions

/-- The actions of a session on `count` new pages, each with its answer. -/
abbrev recorded (count : Nat) (actions : List PagedAction) : List (PagedAction × MemoryAnswer) :=
  Session.transcript PagedAction.run (ofPageCount count) actions

/-- A byte after some actions is the one that was stored last, or else the one before them. -/
theorem byte?_after (memory : PagedMemory) (actions : List PagedAction) (address : Nat) :
    (Session.after PagedAction.run memory actions).byte? address =
      (memory.byte? address).map fun byte =>
        ((Session.transcript PagedAction.run memory actions).reverse.findSome?
          (storedAt? address)).getD byte := by
  induction actions generalizing memory with
  | nil => simp only [Session.after, Session.transcript, List.reverse_nil, List.findSome?_nil,
      Option.getD_none, Option.map_id']
  | cons action rest ih =>
    rw [Session.after, ih, byte?_run, Option.map_map]
    congr 1
    funext byte
    rw [Session.transcript, List.reverse_cons, List.findSome?_append, List.findSome?_singleton,
      Option.getD_or, Function.comp_apply]

/-- A byte of a new memory is zero. -/
theorem eq_zero_of_byte?_ofPageCount {address : Nat} {byte : UInt8}
    (found : (ofPageCount count).byte? address = some byte) : byte = 0 := by
  rw [← getElem?_flatten, flatten_ofPageCount] at found
  exact List.eq_of_mem_replicate (List.mem_of_getElem? found)

/-- Whatever may be read was stored last, or is zero. -/
theorem readBytes_reached {addr : UserAddr} {len : Nat}
    (checked : (reached count actions).checkRange addr len .read = .ok ()) :
    (reached count actions).readBytes addr len =
      .ok ((List.range len).map fun i => lastStored (recorded count actions) (addr.value + i)) := by
  refine readBytes_eq_ok_iff.2 ⟨checked, by rw [List.length_map, List.length_range], ?_⟩
  intro i within
  rw [List.length_map, List.length_range] at within
  obtain ⟨byte, found⟩ := exists_byteIn? (checkRange_eq_ok_iff.1 checked i within).2
  have now : (reached count actions).byte? (addr.value + i) = some byte := found
  have old := byte?_after (ofPageCount count) actions (addr.value + i)
  rw [now, eq_comm, Option.map_eq_some_iff] at old
  obtain ⟨first, start, last⟩ := old
  rw [eq_zero_of_byte?_ofPageCount start] at last
  rw [now, List.getElem?_map, List.getElem?_range within, Option.map_some, lastStored, last]

/-! ### Laws of stores -/

/-- What was stored can be read. -/
theorem readBytes_store
    (checked : memory.checkRange order.addr order.data.length order.kind = .ok ()) :
    (memory.store order.addr order.data).readBytes order.addr order.data.length =
      .ok order.data := by
  have allowed := fun i within => (checkRange_eq_ok_iff.1 checked i within)
  refine readBytes_eq_ok_iff.2 ⟨?_, rfl, ?_⟩
  · rw [checkRange_store]
    exact checkRange_eq_ok_iff.2 fun i within =>
      ⟨(allowed i within).1, allows_read (allowed i within).2⟩
  · exact (overlaid_store fun i within => (allowed i within).2).shows

/-- Stores that have no address in common can be made in either order. -/
theorem store_store (apart : one.Apart two)
    (first : memory.checkRange one.addr one.data.length one.kind = .ok ())
    (second : memory.checkRange two.addr two.data.length two.kind = .ok ()) :
    (memory.store one.addr one.data).store two.addr two.data =
      (memory.store two.addr two.data).store one.addr one.data := by
  have first' := (memory.checkRange_store two.addr two.data _ _ _).trans first
  have second' := (memory.checkRange_store one.addr one.data _ _ _).trans second
  have left := stored_store first
  have left' := stored_store second'
  have right := stored_store second
  have right' := stored_store first'
  refine ext_of_bytes (fun address => ?_) fun n => ?_
  · rw [left'.byte?_eq, left.byte?_eq, right'.byte?_eq, right.byte?_eq]
    by_cases covered : one.Covers address
    · rw [if_neg (apart address covered), if_pos covered, if_pos covered]
    · rw [if_neg covered, if_neg covered]
  · rw [left'.flags?_eq, left.flags?_eq, right'.flags?_eq, right.flags?_eq, Option.map_map,
      Option.map_map]
    -- Marking a page twice is marking it once, in whichever order.
    congr 1
    funext flags
    simp only [Function.comp_apply]
    split <;> split <;> rfl

/-- A register is stored as the word that it is modulo `2 ^ 32`. -/
theorem toInt_toNat_toUInt32 (value : Register) :
    (value.toUInt32.toNat : Int) = value.toInt % 2 ^ 32 := by
  have signed : value.toInt = Int.bmod value.toUInt32.toNat (2 ^ 32) :=
    BitVec.toInt_eq_toNat_bmod value.toBitVec
  have small := value.toUInt32.toNat_lt
  rw [signed]
  have whole : Int.bmod value.toUInt32.toNat (2 ^ 32) % 2 ^ 32 =
      (value.toUInt32.toNat : Int) % 2 ^ 32 := Int.bmod_emod
  omega

/-- What comes of an action that is to store bytes. -/
structure CarriesOut (memory : PagedMemory) (action : PagedAction) (order : StoreOrder) : Prop where
  /-- It succeeds exactly if its range has addresses and every byte of it is granted. -/
  succeeds_iff : (action.run memory).2 = .done ↔
    order.addr.value + order.data.length ≤ addressCount ∧
      ∀ address, order.Covers address → memory.Grants order.kind address
  /-- If it succeeds, the bytes are stored and their pages marked, and nothing else changes. -/
  stores : (action.run memory).2 = .done → memory.Stored order (action.run memory).1
  /-- If it fails, nothing changes. -/
  fails : (action.run memory).2 ≠ .done → (action.run memory).1 = memory
  /-- A read of the range gives the bytes that were stored in it. -/
  reads_back : (action.run memory).2 = .done →
    (action.run memory).1.readBytes order.addr order.data.length = .ok order.data

/-- Two actions can be taken in either order: each is answered alike in both, and both leave the
same memory. -/
structure Commute (memory : PagedMemory) (action action' : PagedAction) : Prop where
  /-- The memories are the same. -/
  memory_eq : (action'.run (action.run memory).1).1 = (action.run (action'.run memory).1).1
  /-- The second action is answered as if the first had not been taken. -/
  answer'_eq : (action'.run (action.run memory).1).2 = (action'.run memory).2
  /-- The first action is answered as if the second had been taken before it. -/
  answer_eq : (action.run (action'.run memory).1).2 = (action.run memory).2

theorem carriesOut (memory : PagedMemory) (stores : action.store? = some order) :
    memory.CarriesOut action order := by
  rcases run_cases stores memory with ⟨checked, done, after⟩ | ⟨fault, refused, faulted, after⟩
  · have granted := checkRange_eq_ok_iff_grants.1 checked
    constructor
    · simp only [done, true_iff, StoreOrder.Covers, and_imp]
      exact granted
    · intro _
      rw [after]
      exact stored_store checked
    · intro failed
      exact absurd done failed
    · intro _
      rw [after]
      exact readBytes_store checked
  · have notDone : (action.run memory).2 ≠ .done := by
      rw [faulted]
      exact nofun
    constructor
    · simp only [notDone, false_iff, StoreOrder.Covers, and_imp]
      rw [← checkRange_eq_ok_iff_grants, refused]
      exact nofun
    · intro done
      exact absurd done notDone
    · intro _
      exact after
    · intro done
      exact absurd done notDone

/-- No action changes what an action that is to store bytes is answered, if it stores bytes too. -/
theorem answer_run_run {action' : PagedAction} (stores : action.store? = some one)
    (stores' : action'.store? = some two) (memory : PagedMemory) :
    (action'.run (action.run memory).1).2 = (action'.run memory).2 := by
  rcases run_cases stores memory with ⟨-, -, after⟩ | ⟨fault, -, -, after⟩
  · rw [after, answer_run stores', answer_run stores', checkRange_store]
  · rw [after]

/-- Stores that have no address in common commute, whether they succeed or not. -/
theorem commute_of_apart (memory : PagedMemory) {action' : PagedAction}
    (stores : action.store? = some one) (stores' : action'.store? = some two)
    (apart : one.Apart two) : memory.Commute action action' := by
  refine ⟨?_, answer_run_run stores stores' memory, answer_run_run stores' stores memory⟩
  have still := fun order : StoreOrder => memory.checkRange_store order.addr order.data
  cases first : memory.checkRange one.addr one.data.length one.kind with
  | error fault =>
    rw [run_of_refused stores first]
    cases second : memory.checkRange two.addr two.data.length two.kind with
    | error fault' => rw [run_of_refused stores' second, run_of_refused stores first]
    | ok done =>
      rw [run_of_checked stores' second]
      exact (run_of_refused stores ((still two _ _ _).trans first)).symm
  | ok done =>
    rw [run_of_checked stores first]
    cases second : memory.checkRange two.addr two.data.length two.kind with
    | error fault =>
      rw [run_of_refused stores' second, run_of_checked stores first]
      exact run_of_refused stores' ((still one _ _ _).trans second)
    | ok done' =>
      rw [run_of_checked stores' second, run_of_checked stores' ((still one _ _ _).trans second),
        run_of_checked stores ((still two _ _ _).trans first)]
      exact store_store apart first second

/-- A word that was stored reads as the register modulo `2 ^ 32`. -/
theorem readWord_of_writeWord {addr : UserAddr} {value : Register}
    (written : AddressSpace.writeWord memory addr value = .ok memory') :
    ∃ word, AddressSpace.readWord memory' addr = .ok word ∧
      (word.toNat : Int) = value.toInt % 2 ^ 32 := by
  refine ⟨value.toUInt32, ?_, toInt_toNat_toUInt32 value⟩
  have stored : PagedAction.run memory (.space (.writeWord addr value)) = (memory', .done) := by
    rw [PagedAction.run, SpaceAction.run, written]
    rfl
  have carried : memory.CarriesOut (.space (.writeWord addr value))
      ⟨.write, addr, Bytes.ofWord value.toUInt32⟩ := carriesOut memory rfl
  have read := carried.reads_back (congrArg Prod.snd stored)
  rw [stored, Bytes.length_ofWord] at read
  have loaded : AddressSpace.readBytes memory' addr 4 = .ok (Bytes.ofWord value.toUInt32) := read
  rw [AddressSpace.readWord, loaded, Except.map, Bytes.toWord_ofWord]

/-- A session on new pages is a session on flat memory, and reads what was stored last. -/
structure ActsFlat (count : Nat) (actions : List PagedAction) : Prop where
  /-- Paged and flat memory answer every action alike, and stay in step. -/
  refines : (reached count actions).flatten = Session.after FlatMemory.run (.zeros count) actions ∧
    recorded count actions = Session.transcript FlatMemory.run (.zeros count) actions
  /-- The next store does what it should and nothing else. -/
  stores : ∀ action order, action.store? = some order →
    (reached count actions).CarriesOut action order
  /-- Stores to disjoint ranges commute. -/
  commutes : ∀ action action' one two, action.store? = some one → action'.store? = some two →
    one.Apart two → (reached count actions).Commute action action'
  /-- A word that was just stored reads as the register modulo `2 ^ 32`, also where it lies
  across the end of a page. -/
  words : ∀ addr value memory',
    AddressSpace.writeWord (reached count actions) addr value = .ok memory' →
    ∃ word, AddressSpace.readWord memory' addr = .ok word ∧
      (word.toNat : Int) = value.toInt % 2 ^ 32
  /-- A range that may be read shows at each address the byte that was stored there last, or
  zero. -/
  reads : ∀ addr len, (reached count actions).checkRange addr len .read = .ok () →
    (reached count actions).readBytes addr len =
      .ok ((List.range len).map fun i => lastStored (recorded count actions) (addr.value + i))

/-- Paged memory acts as a flat byte string with rights for each page. -/
theorem acts_flat (count : Nat) (actions : List PagedAction) : ActsFlat count actions := by
  have square : ∀ (memory : PagedMemory) (flat : FlatMemory) (action : PagedAction),
      memory.flatten = flat →
      (action.run memory).1.flatten = (flat.run action).1 ∧
        id (action.run memory).2 = (flat.run action).2 := by
    rintro memory flat action rfl
    rw [run_flatten]
    exact ⟨rfl, rfl⟩
  obtain ⟨state, answers⟩ := Session.simulation square (flatten_ofPageCount count) actions
  refine ⟨⟨state, ?_⟩, fun _ _ stores => carriesOut _ stores,
    fun _ _ _ _ stores stores' apart => commute_of_apart _ stores stores' apart,
    fun _ _ _ written => readWord_of_writeWord written, fun _ _ => readBytes_reached⟩
  exact (List.map_id' _).symm.trans answers

end PagedMemory

end SyscallKernel
