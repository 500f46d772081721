import SyscallKernel.Proofs.Kernel.Pointers

/-!
# Argument vectors in user memory

A vector is an array of pointers to strings. It is read entry by entry, and the first entry
that leads to no string, or whose string does not fit with those before it, decides the error.
So a vector is accepted exactly if each of its conditions holds, and otherwise refused for the
first that does not.
-/

namespace SyscallKernel

variable {σ : Type}

namespace ByteView

variable {view : ByteView} {vector i first count budget : Nat} {arg : Bytes} {args earlier : List Bytes}
  {error : SysError}

/-! ### Entries -/

/-- An entry of a vector holds a pointer, little-endian. -/
def EntryHolds (view : ByteView) (vector i : Nat) (pointer : UInt32) : Prop :=
  view.Holds (vector + i * Argument.entrySize) (Bytes.ofWord pointer)

/-- An entry leads to a string: its pointer is not null, and the string stands there with its
terminator and is not too long. -/
structure LeadsTo (view : ByteView) (vector i : Nat) (arg : Bytes) : Prop where
  /-- It has a pointer, which is not null, and the string stands there. -/
  pointer : ∃ pointer : UInt32, view.EntryHolds vector i pointer ∧ pointer ≠ 0 ∧
    view.Spells pointer.toNat arg
  /-- The string is not too long. -/
  short : arg.length ≤ maxArgLength

/-- What is wrong with an entry that leads to no string. -/
inductive EntryFlaw (view : ByteView) (vector i : Nat) : SysError → Prop where
  /-- Its pointer is null. -/
  | null (null : view.EntryHolds vector i 0) : EntryFlaw view vector i .badAddress
  /-- Its string runs into bytes that may not be read. -/
  | unmapped {pointer : UInt32} (held : view.EntryHolds vector i pointer) (nonnull : pointer ≠ 0)
    (breaks : view.Breaks pointer.toNat (maxArgLength + 1)) : EntryFlaw view vector i .badAddress
  /-- Its string has no terminator in time. -/
  | unterminated {pointer : UInt32} (held : view.EntryHolds vector i pointer)
    (nonnull : pointer ≠ 0) (unended : view.Unended pointer.toNat (maxArgLength + 1)) :
    EntryFlaw view vector i .invalidArgument

/-- An entry that may be read leads to a string, or something is wrong with it. -/
theorem leadsTo_or_flaw (covers : view.Covers (vector + i * Argument.entrySize) Argument.entrySize) :
    (∃ arg, view.LeadsTo vector i arg) ∨ ∃ error, view.EntryFlaw vector i error := by
  obtain ⟨data, length, holds⟩ := covers.exists_holds
  rw [← Bytes.ofWord_toWord length] at holds
  by_cases null : Bytes.toWord data = 0
  · exact .inr ⟨_, .null (null ▸ holds)⟩
  · rcases view.spells_or_unended_or_breaks (Bytes.toWord data).toNat (maxArgLength + 1) with
      ⟨arg, short, spells⟩ | unended | breaks
    · exact .inl ⟨arg, ⟨_, holds, null, spells⟩, Nat.le_of_lt_succ short⟩
    · exact .inr ⟨_, .unterminated holds null unended⟩
    · exact .inr ⟨_, .unmapped holds null breaks⟩

/-! ### Several entries -/

/-- The bytes of some arguments, terminators included. -/
def argumentBytes : List Bytes → Nat
  | [] => 0
  | arg :: rest => arg.length + 1 + argumentBytes rest

theorem argumentBytes_snoc (args : List Bytes) (arg : Bytes) :
    argumentBytes (args ++ [arg]) = argumentBytes args + (arg.length + 1) := by
  induction args with
  | nil => exact Nat.add_comm _ 0
  | cons head args ih =>
    rw [List.cons_append, argumentBytes, ih]
    exact (Nat.add_assoc ..).symm

/-- The entries from one on lead to some strings, in order. -/
def Entries (view : ByteView) (vector first : Nat) (args : List Bytes) : Prop :=
  ∀ (k : Nat) (within : k < args.length), view.LeadsTo vector (first + k) args[k]

/-- What is wrong with some entries whose strings should fit into a budget. All that comes
before is in order. -/
inductive EntriesFlaw (view : ByteView) (vector first count budget : Nat) : SysError → Prop where
  /-- An entry leads to no string. -/
  | entry {earlier : List Bytes} {error : SysError} (fewer : earlier.length < count)
    (strings : view.Entries vector first earlier) (fits : argumentBytes earlier ≤ budget)
    (flaw : view.EntryFlaw vector (first + earlier.length) error) :
    EntriesFlaw view vector first count budget error
  /-- A string does not fit any more. -/
  | budget {earlier : List Bytes} {arg : Bytes} (fewer : earlier.length < count)
    (strings : view.Entries vector first (earlier ++ [arg]))
    (fits : argumentBytes earlier ≤ budget) (excess : budget < argumentBytes (earlier ++ [arg])) :
    EntriesFlaw view vector first count budget .invalidArgument

theorem entries_nil (view : ByteView) (vector first : Nat) : view.Entries vector first [] :=
  fun _ within => nomatch within

theorem entries_cons : view.Entries vector first (arg :: args) ↔
    view.LeadsTo vector first arg ∧ view.Entries vector (first + 1) args := by
  constructor
  · intro strings
    refine ⟨strings 0 (Nat.succ_pos _), fun k within => ?_⟩
    rw [Nat.add_assoc, Nat.add_comm 1 k]
    exact strings (k + 1) (Nat.succ_lt_succ within)
  · rintro ⟨string, strings⟩ k within
    cases k with
    | zero => exact string
    | succ k =>
      have later := strings k (Nat.lt_of_succ_lt_succ within)
      rwa [Nat.add_assoc, Nat.add_comm 1 k] at later

theorem entries_snoc : view.Entries vector first (args ++ [arg]) ↔
    view.Entries vector first args ∧ view.LeadsTo vector (first + args.length) arg := by
  induction args generalizing first with
  | nil =>
    rw [List.nil_append, entries_cons, and_iff_left (entries_nil view vector (first + 1)),
      and_iff_right (entries_nil view vector first)]
    rfl
  | cons head args ih =>
    rw [List.cons_append, entries_cons, entries_cons, ih, List.length_cons, and_assoc,
      Nat.add_assoc, Nat.add_comm 1]

/-- Entries that may be read lead to strings that fit, or something is wrong with them. -/
theorem entries_or_flaw (budget : Nat)
    (covers : view.Covers vector ((first + count) * Argument.entrySize)) :
    (∃ args, args.length = count ∧ view.Entries vector first args ∧ argumentBytes args ≤ budget) ∨
      ∃ error, view.EntriesFlaw vector first count budget error := by
  induction count with
  | zero => exact .inl ⟨[], rfl, entries_nil view vector first, Nat.zero_le _⟩
  | succ count ih =>
    have wider : (first + count) * Argument.entrySize + Argument.entrySize =
        (first + (count + 1)) * Argument.entrySize := by
      rw [← Nat.add_assoc, Nat.succ_mul]
    rcases ih fun i within => covers i (by omega) with ⟨args, rfl, strings, fits⟩ | ⟨error, flaw⟩
    · have slot : view.Covers (vector + (first + args.length) * Argument.entrySize)
          Argument.entrySize := by
        intro i within
        rw [Nat.add_assoc]
        exact covers _ (by omega)
      rcases leadsTo_or_flaw slot with ⟨arg, string⟩ | ⟨error, flaw⟩
      · have more := entries_snoc.2 ⟨strings, string⟩
        rcases Nat.lt_or_ge budget (argumentBytes (args ++ [arg])) with excess | enough
        · exact .inr ⟨_, .budget (Nat.lt_succ_self _) more fits excess⟩
        · refine .inl ⟨args ++ [arg], ?_, more, enough⟩
          rw [List.length_append, List.length_singleton]
      · exact .inr ⟨error, .entry (Nat.lt_succ_self _) strings fits flaw⟩
    · refine .inr ⟨error, ?_⟩
      cases flaw with
      | entry fewer strings fits flaw =>
        exact .entry (Nat.lt_succ_of_lt fewer) strings fits flaw
      | budget fewer strings fits excess =>
        exact .budget (Nat.lt_succ_of_lt fewer) strings fits excess

/-! ### Whole vectors -/

variable {config : Config} {argv argc : Register}

/-- Two registers describe a vector of some strings. -/
structure HoldsVector (view : ByteView) (config : Config) (argv argc : Register)
    (args : List Bytes) : Prop where
  /-- One register holds their number. -/
  counted : argc.toNat? = some args.length
  /-- There are not too many. -/
  few : args.length ≤ config.maxArgs
  /-- Unless there are none, the other register leads to the array of pointers, all of which
  may be read, and its entries lead to the strings in order. -/
  array : 0 < args.length → ∃ vector, argv.toNat? = some vector ∧ 0 < vector ∧
    view.Covers vector (args.length * Argument.entrySize) ∧ view.Entries vector 0 args
  /-- The strings and their terminators fit into the budget. -/
  fits : argumentBytes args ≤ config.argBytes

/-- What is wrong first with two registers that describe no vector. -/
inductive VectorFlaw (view : ByteView) (config : Config) (argv argc : Register) :
    SysError → Prop where
  /-- The number of strings is negative. -/
  | negative (negative : argc.toNat? = none) : VectorFlaw view config argv argc .invalidArgument
  /-- There are too many. -/
  | tooMany {count : Nat} (held : argc.toNat? = some count) (excess : config.maxArgs < count) :
    VectorFlaw view config argv argc .invalidArgument
  /-- There is no array of pointers that may be read. -/
  | array {count : Nat} (held : argc.toNat? = some count) (few : count ≤ config.maxArgs)
    (wanted : 0 < count) (missing : ∀ vector, argv.toNat? = some vector → 0 < vector →
      ¬ view.Covers vector (count * Argument.entrySize)) :
    VectorFlaw view config argv argc .badAddress
  /-- Something is wrong with the entries of the array. -/
  | entries {count vector : Nat} {error : SysError} (held : argc.toNat? = some count)
    (few : count ≤ config.maxArgs) (named : argv.toNat? = some vector) (above : 0 < vector)
    (covers : view.Covers vector (count * Argument.entrySize))
    (flaw : view.EntriesFlaw vector 0 count config.argBytes error) :
    VectorFlaw view config argv argc error

/-- Two registers describe a vector, or something is wrong with them. -/
theorem holdsVector_or_flaw (view : ByteView) (config : Config) (argv argc : Register) :
    (∃ args, view.HoldsVector config argv argc args) ∨
      ∃ error, view.VectorFlaw config argv argc error := by
  cases held : argc.toNat? with
  | none => exact .inr ⟨_, .negative held⟩
  | some count =>
    rcases Nat.lt_or_ge config.maxArgs count with excess | few
    · exact .inr ⟨_, .tooMany held excess⟩
    · rcases Nat.eq_zero_or_pos count with rfl | wanted
      · exact .inl ⟨[], held, few, fun wanted => absurd wanted (Nat.lt_irrefl 0), Nat.zero_le _⟩
      · by_cases found : ∃ vector, argv.toNat? = some vector ∧ 0 < vector ∧
          view.Covers vector (count * Argument.entrySize)
        · obtain ⟨vector, named, above, covers⟩ := found
          have reached : view.Covers vector ((0 + count) * Argument.entrySize) := by
            rwa [Nat.zero_add]
          rcases entries_or_flaw config.argBytes reached with
            ⟨args, rfl, strings, fits⟩ | ⟨error, flaw⟩
          · exact .inl ⟨args, held, few, fun _ => ⟨vector, named, above, covers, strings⟩, fits⟩
          · exact .inr ⟨error, .entries held few named above covers flaw⟩
        · exact .inr ⟨_, .array held few wanted fun vector named above covers =>
            found ⟨vector, named, above, covers⟩⟩

end ByteView

namespace Argument

variable [AddressSpace σ] {memory : σ} {view : ByteView} {vector : UserAddr}
  {i first count budget : Nat} {arg : Bytes} {args earlier : List Bytes} {error : SysError}

/-- The pointer that an entry holds is read. -/
theorem readWord_of_holds (reads : AddressSpace.Reads memory view) {pointer : UInt32}
    (held : view.EntryHolds vector.value i pointer) :
    ∃ slot, vector.add? (i * entrySize) = some slot ∧
      AddressSpace.readWord memory slot = .ok pointer := by
  have first := held.covers 0 (by rw [Bytes.length_ofWord]; decide)
  have bound : vector.value + i * entrySize < addressCount := reads.lt_of_isSome _ first
  exact ⟨⟨_, bound⟩, UserAddr.add?_eq_some.2 rfl, reads.readWord_eq_ok_iff.2 held⟩

/-- The string that a word leads to is searched for far below the last address. -/
theorem scanned_ofWord (reads : AddressSpace.Reads memory view) (pointer : UInt32) :
    view.Scanned pointer.toNat (maxArgLength + 1)
        (AddressSpace.readString memory (.ofWord pointer) maxArgLength) ∧
      pointer.toNat + (maxArgLength + 1) < addressCount := by
  have scanned := reads.readString_scanned (.ofWord pointer) (by decide : maxArgLength < _)
  rw [UserAddr.value_ofWord] at scanned
  have small := pointer.toNat_lt
  have far : 2 ^ 32 + (maxArgLength + 1) < addressCount := by decide
  exact ⟨scanned, by omega⟩

/-- An entry that leads to a string is read as that string. -/
theorem entry_of_leadsTo (reads : AddressSpace.Reads memory view)
    (string : view.LeadsTo vector.value i arg) : entry memory vector i = .ok arg := by
  obtain ⟨⟨pointer, held, nonnull, spells⟩, short⟩ := string
  obtain ⟨slot, reached, read⟩ := readWord_of_holds reads held
  have found := (scanned_ofWord reads pointer).1.found_iff.2 ⟨Nat.lt_succ_of_le short, spells⟩
  simp only [entry, reached, read, if_neg nonnull, found]

/-- An entry that leads to no string is refused for what is wrong with it. -/
theorem entry_of_flaw (reads : AddressSpace.Reads memory view)
    (flaw : view.EntryFlaw vector.value i error) : entry memory vector i = .error error := by
  cases flaw with
  | null held =>
    obtain ⟨slot, reached, read⟩ := readWord_of_holds reads held
    simp only [entry, reached, read, if_true]
  | @unmapped pointer held nonnull breaks =>
    obtain ⟨slot, reached, read⟩ := readWord_of_holds reads held
    obtain ⟨scanned, room⟩ := scanned_ofWord reads pointer
    obtain ⟨fault, faults⟩ := (scanned.error_iff room).2 breaks
    simp only [entry, reached, read, if_neg nonnull, faults, Fault.toSysError]
  | @unterminated pointer held nonnull unended =>
    obtain ⟨slot, reached, read⟩ := readWord_of_holds reads held
    obtain ⟨scanned, room⟩ := scanned_ofWord reads pointer
    simp only [entry, reached, read, if_neg nonnull, scanned.none_iff.2 ⟨unended, room⟩]

/-- Entries that lead to strings that fit are read, and the others after them. -/
theorem entries_append (reads : AddressSpace.Reads memory view) (count : Nat)
    (strings : view.Entries vector.value first earlier)
    (fits : ByteView.argumentBytes earlier ≤ budget) :
    entries memory vector (earlier.length + count) first budget =
      (entries memory vector count (first + earlier.length)
        (budget - ByteView.argumentBytes earlier)).map (earlier ++ ·) := by
  induction earlier generalizing first budget with
  | nil =>
    have nothing : ByteView.argumentBytes [] = 0 := rfl
    rw [List.length_nil, Nat.zero_add, Nat.add_zero, nothing, Nat.sub_zero]
    cases entries memory vector count first budget <;> rfl
  | cons arg earlier ih =>
    obtain ⟨string, strings⟩ := ByteView.entries_cons.1 strings
    have size : ByteView.argumentBytes (arg :: earlier) =
        arg.length + 1 + ByteView.argumentBytes earlier := rfl
    have rest := ih strings (by omega : _ ≤ budget - (arg.length + 1))
    rw [List.length_cons, Nat.add_right_comm, entries, entry_of_leadsTo reads string]
    simp only [if_neg (by omega : ¬ budget < arg.length + 1), rest, size, Nat.sub_sub,
      Nat.add_assoc, Nat.add_comm 1]
    cases entries memory vector count _ _ <;> rfl

/-- Entries that lead to strings that fit are read as those strings. -/
theorem entries_of_entries (reads : AddressSpace.Reads memory view)
    (strings : view.Entries vector.value first args)
    (fits : ByteView.argumentBytes args ≤ budget) :
    entries memory vector args.length first budget = .ok args := by
  have read := entries_append reads 0 strings fits
  rw [Nat.add_zero, entries] at read
  rw [read, Except.map, List.append_nil]

/-- Entries with a flaw are refused for it. -/
theorem entries_of_flaw (reads : AddressSpace.Reads memory view)
    (flaw : view.EntriesFlaw vector.value first count budget error) :
    entries memory vector count first budget = .error error := by
  cases flaw with
  | @entry earlier _ fewer strings fits flaw =>
    obtain ⟨more, rfl⟩ := Nat.exists_eq_add_of_lt fewer
    rw [Nat.add_assoc, entries_append reads _ strings fits, entries, entry_of_flaw reads flaw]
    rfl
  | @budget earlier arg fewer strings fits excess =>
    obtain ⟨more, rfl⟩ := Nat.exists_eq_add_of_lt fewer
    obtain ⟨strings, string⟩ := ByteView.entries_snoc.1 strings
    rw [ByteView.argumentBytes_snoc] at excess
    rw [Nat.add_assoc, entries_append reads _ strings fits, entries,
      entry_of_leadsTo reads string]
    simp only [if_pos (by omega : budget - ByteView.argumentBytes earlier < arg.length + 1)]
    rfl

/-! ### Whole vectors -/

variable {E : PagedMemory.Embedding σ} {paged : PagedMemory} {config : Config}
  {argv argc : Register}

/-- The array of a vector lies far below the last address. -/
theorem room_of_held (held : argc.toNat? = some count) :
    Pid.limit + count * entrySize < addressCount := by
  have small := (Register.toInt_of_toNat? held).2
  have far : Pid.limit + Pid.limit * entrySize < addressCount := by decide
  have size := Nat.mul_le_mul_right entrySize small
  omega

/-- A vector is read as the strings its registers describe. -/
theorem vector_of_holdsVector (holds : paged.view.HoldsVector config argv argc args) :
    Argument.vector config (E.embed paged) argv argc = .ok args := by
  rw [Argument.vector, holds.counted]
  simp only [if_neg (Nat.not_lt.2 holds.few)]
  split
  · rename_i nothing
    rw [List.length_eq_zero_iff.1 nothing]
  · rename_i something
    have wanted := Nat.pos_of_ne_zero something
    obtain ⟨start, named, above, covers, strings⟩ := holds.array wanted
    have value := UserAddr.value_ofBuffer named
    rw [← value] at named above covers strings
    have found := (buffer_read_eq_ok_iff (E := E) (Nat.mul_pos wanted (by decide))
      (room_of_held holds.counted)).2 ⟨named, above, covers⟩
    simp only [found]
    exact entries_of_entries (E.reads paged) strings holds.fits

/-- Registers that describe no vector are refused for what is wrong first. -/
theorem vector_of_flaw (flaw : paged.view.VectorFlaw config argv argc error) :
    Argument.vector config (E.embed paged) argv argc = .error error := by
  cases flaw with
  | negative negative => rw [Argument.vector, negative]
  | tooMany held excess =>
    rw [Argument.vector, held]
    exact if_pos excess
  | @array count held few wanted missing =>
    have room := room_of_held held
    rw [Argument.vector, held]
    simp only [if_neg (Nat.not_lt.2 few), if_neg (Nat.ne_of_gt wanted)]
    rw [buffer_read_of_not_covers (Nat.mul_pos wanted (by decide)) room missing]
  | @entries count start _ held few named above covers flaw =>
    have wanted : 0 < count := by
      cases flaw with
      | entry fewer | budget fewer => exact Nat.zero_lt_of_lt fewer
    have value := UserAddr.value_ofBuffer named
    rw [← value] at named above covers flaw
    have found := (buffer_read_eq_ok_iff (E := E) (Nat.mul_pos wanted (by decide))
      (room_of_held held)).2 ⟨named, above, covers⟩
    rw [Argument.vector, held]
    simp only [if_neg (Nat.not_lt.2 few), if_neg (Nat.ne_of_gt wanted), found]
    exact entries_of_flaw (E.reads paged) flaw

/-- A vector is read exactly if its registers describe it. -/
theorem vector_eq_ok_iff : Argument.vector config (E.embed paged) argv argc = .ok args ↔
    paged.view.HoldsVector config argv argc args := by
  refine ⟨fun read => ?_, vector_of_holdsVector⟩
  rcases paged.view.holdsVector_or_flaw config argv argc with ⟨args', holds⟩ | ⟨error, flaw⟩
  · have same := (vector_of_holdsVector (E := E) holds).symm.trans read
    cases same
    exact holds
  · exact nomatch (vector_of_flaw (E := E) flaw).symm.trans read

/-- Registers are refused exactly for what is wrong with them first. -/
theorem vector_eq_error_iff : Argument.vector config (E.embed paged) argv argc = .error error ↔
    paged.view.VectorFlaw config argv argc error := by
  refine ⟨fun refused => ?_, vector_of_flaw⟩
  rcases paged.view.holdsVector_or_flaw config argv argc with ⟨args', holds⟩ | ⟨error, flaw⟩
  · exact nomatch (vector_of_holdsVector (E := E) holds).symm.trans refused
  · have same := (vector_of_flaw (E := E) flaw).symm.trans refused
    cases same
    exact flaw

end Argument

end SyscallKernel
