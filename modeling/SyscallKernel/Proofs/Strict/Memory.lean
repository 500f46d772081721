import SyscallKernel.Memory.Space
import SyscallKernel.Proofs.Memory.Strings
import SyscallKernel.Proofs.Strict.Words

/-!
# Strict user memory

Checks, reads and stores of paged memory as a machine carries them out: page by page, with an
index into the page table, a slice of a frame, and a cursor of 64 bits. The check in front of
an access covers every page that the access touches, so no access meets a hazard, however
many pages there are and whatever their flags. It only has to end before the last address.
-/

namespace SyscallKernel.PagedMemory

variable {memory : PagedMemory} {addr cursor : UserAddr} {kind : AccessKind} {page : Page}

/-! ### Checks -/

/-- The first address in page `vpn` of a range that begins at `addr`. -/
def strictPosition (addr : UserAddr) (vpn : Nat) : Strict Nat :=
  if vpn = addr.pageNumber then .ok addr.value else Strict.mul64 vpn pageSize

/-- Checks `count` pages from page `vpn` on, for a range that begins at `addr`. -/
def strictWalk (memory : PagedMemory) (addr : UserAddr) (kind : AccessKind) :
    (count vpn : Nat) → Strict (Except Fault Unit)
  | 0, _ => .ok (.ok ())
  | count + 1, vpn => do
    let position ← strictPosition addr vpn
    match memory.pages[vpn]?.elim (some .unmapped) fun page => page.flags.refusal? kind with
    | some refusal => .ok (.error ⟨.ofNat position, refusal⟩)
    | none => memory.strictWalk addr kind count (vpn + 1)

/-- Checks a range. -/
def strictCheck (memory : PagedMemory) (addr : UserAddr) (len : Nat) (kind : AccessKind) :
    Strict (Except Fault Unit) :=
  if len = 0 then .ok (.ok ())
  else do
    let ahead ← Strict.sub len 1
    match addr.add? ahead with
    | none => .ok (.error ⟨addr, .overflow⟩)
    | some final =>
      memory.strictWalk addr kind (final.pageNumber + 1 - addr.pageNumber) addr.pageNumber

/-- What a walk along the pages says of a range. -/
def verdict : Option (Nat × FaultKind) → Except Fault Unit
  | none => .ok ()
  | some (bad, refusal) => .error ⟨.ofNat bad, refusal⟩

/-- The rest of a walk, from some way into a page on. It covers as many pages as it has to. -/
theorem strictWalk_eq {count vpn offset len : Nat} (inside : offset < pageSize)
    (start : vpn = addr.pageNumber ∧ vpn * pageSize + offset = addr.value ∨
      addr.pageNumber < vpn ∧ offset = 0)
    (enough : offset + len ≤ count * pageSize)
    (needed : count = 0 ∨ 0 < len ∧ count * pageSize < offset + len + pageSize)
    (bound : 0 < len → vpn * pageSize + offset + len ≤ 2 ^ 64) :
    memory.strictWalk addr kind count vpn =
      .ok (verdict (firstRefusal? kind (memory.pages.drop vpn) (vpn * pageSize + offset) len)) := by
  induction count generalizing vpn offset len with
  | zero =>
    have empty : len = 0 := by omega
    rw [empty, strictWalk]
    cases memory.pages.drop vpn <;> rfl
  | succ count ih =>
    obtain ⟨left, rfl⟩ : ∃ left, len = left + 1 := ⟨len - 1, by omega⟩
    have position : strictPosition addr vpn = .ok (vpn * pageSize + offset) := by
      unfold strictPosition
      rcases start with ⟨first, value⟩ | ⟨later, rfl⟩
      · rw [if_pos first, value]
      · rw [if_neg (Nat.ne_of_gt later), Strict.mul64_eq (by omega), Nat.add_zero]
    have rest : (memory.pages.drop vpn).tail = memory.pages.drop (vpn + 1) := List.tail_drop
    rw [strictWalk, position, Strict.ok_bind, ← List.head?_drop]
    cases pages : memory.pages.drop vpn with
    | nil => rfl
    | cons page pages' =>
      rw [pages, List.tail_cons] at rest
      simp only [List.head?_cons, Option.elim_some, firstRefusal?]
      cases page.flags.refusal? kind with
      | some refusal => rfl
      | none =>
        have pages := Nat.add_one_mul count pageSize
        have ahead := Nat.add_one_mul vpn pageSize
        have next : vpn * pageSize + offset + (pageSize - offset) = (vpn + 1) * pageSize + 0 := by
          omega
        have more : count = 0 ∨ pageSize ≤ count * pageSize :=
          count.eq_zero_or_pos.imp_right (Nat.le_mul_of_pos_left pageSize)
        simp only [mod_of_offset inside, next, rest]
        exact ih pageSize_pos (.inr ⟨by omega, rfl⟩) (by omega) (by omega) (by omega)

/-- A check of any range meets no hazard. -/
theorem strictCheck_eq (memory : PagedMemory) (addr : UserAddr) (len : Nat) (kind : AccessKind) :
    memory.strictCheck addr len kind = .ok (memory.checkRange addr len kind) := by
  unfold strictCheck checkRange
  split
  · rfl
  · rename_i nonempty
    rw [Strict.sub_eq (by omega), Strict.ok_bind]
    cases reached : addr.add? (len - 1) with
    | none => rfl
    | some final =>
      have value := UserAddr.add?_eq_some.1 reached
      have top : final.value < 2 ^ 64 := final.isLt
      have start := addr.pageNumber_mul_add_pageOffset
      have stop := final.pageNumber_mul_add_pageOffset
      have inside := addr.pageOffset_lt
      have inside' := final.pageOffset_lt
      obtain ⟨count, pages⟩ : ∃ count, final.pageNumber = addr.pageNumber + count :=
        Nat.exists_eq_add_of_le (by
          rw [UserAddr.pageNumber_eq, UserAddr.pageNumber_eq]
          exact Nat.div_le_div_right (by omega))
      have counted : final.pageNumber + 1 - addr.pageNumber = count + 1 := by omega
      rw [pages, Nat.add_mul] at stop
      have more := Nat.add_one_mul count pageSize
      have walk := @strictWalk_eq memory addr kind (count + 1) addr.pageNumber addr.pageOffset len
        inside (.inl ⟨rfl, start⟩) (by omega) (by omega) fun _ => by omega
      rw [start] at walk
      simp only [counted, walk, Option.isNone_some, Bool.false_eq_true, if_false]
      cases firstRefusal? kind (memory.pages.drop addr.pageNumber) addr.value len <;> rfl

/-! ### Reads and stores -/

/-- Stores data from `cursor` on, in at most `rounds` pieces, each of them inside one page. -/
def strictScatter : (rounds : Nat) → PagedMemory → (cursor : Nat) → Bytes → Strict PagedMemory
  | _, memory, _, [] => .ok memory
  | 0, _, _, _ :: _ => .error .endless
  | rounds + 1, memory, cursor, byte :: data => do
    let vpn := cursor / pageSize
    let offset := cursor % pageSize
    let room ← Strict.sub pageSize offset
    let chunk := min (byte :: data).length room
    let page ← Strict.index memory.pages vpn
    let stop ← Strict.add64 offset chunk
    let piece ← Strict.slice (byte :: data) 0 chunk
    let page ← page.strictStore offset stop piece
    let rest ← Strict.slice (byte :: data) chunk (byte :: data).length
    let next ← Strict.add64 cursor chunk
    strictScatter rounds ⟨memory.pages.set vpn page⟩ next rest

/-- Reads `len` bytes from `cursor` on, in at most `rounds` pieces, each of them inside one
page. -/
def strictGather (memory : PagedMemory) : (rounds cursor len : Nat) → Strict Bytes
  | _, _, 0 => .ok []
  | 0, _, _ + 1 => .error .endless
  | rounds + 1, cursor, len + 1 => do
    let vpn := cursor / pageSize
    let offset := cursor % pageSize
    let room ← Strict.sub pageSize offset
    let chunk := min (len + 1) room
    let left ← Strict.sub (len + 1) chunk
    let page ← Strict.index memory.pages vpn
    let stop ← Strict.add64 offset chunk
    let piece ← Strict.slice page.frame offset stop
    Strict.sameLength chunk piece.length
    let next ← Strict.add64 cursor chunk
    let rest ← memory.strictGather rounds next left
    return piece ++ rest

/-- Reads `len` bytes. -/
def strictRead (memory : PagedMemory) (addr : UserAddr) (len : Nat) :
    Strict (Except Fault Bytes) := do
  match ← memory.strictCheck addr len .read with
  | .error fault => return .error fault
  | .ok () =>
    let data ← memory.strictGather len addr.value len
    return .ok data

/-- Stores bytes with the rights of the user. -/
def strictWrite (memory : PagedMemory) (addr : UserAddr) (data : Bytes) :
    Strict (Except Fault PagedMemory) := do
  match ← memory.strictCheck addr data.length .write with
  | .error fault => return .error fault
  | .ok () =>
    let stored ← strictScatter data.length memory addr.value data
    return .ok stored

/-- A page that the rest of a range begins in is there. -/
theorem exists_page {vpn offset len : Nat} (pages : List Page)
    (covered : vpn * pageSize + offset + (len + 1) ≤ pages.length * pageSize) :
    ∃ page, pages[vpn]? = some page ∧ pages.drop vpn = page :: pages.drop (vpn + 1) := by
  have within : vpn < pages.length :=
    Nat.lt_of_mul_lt_mul_right (a := pageSize) (by omega)
  exact ⟨pages[vpn], List.getElem?_eq_getElem within, List.drop_eq_getElem_cons within⟩

theorem strictScatter_nil (rounds : Nat) (memory : PagedMemory) (cursor : Nat) :
    strictScatter rounds memory cursor [] = .ok memory := by
  cases rounds <;> rfl

theorem scatter_nil (pages : List Page) (offset : Nat) : scatter pages offset [] = pages := by
  cases pages <;> rfl

/-- One round of a store lays as much of the data over its page as the page takes. -/
theorem strictScatter_round {rounds vpn offset : Nat} {data : Bytes} (inside : offset < pageSize)
    (found : memory.pages[vpn]? = some page) (nonempty : data ≠ [])
    (bound : vpn * pageSize + offset + data.length < 2 ^ 64) {chunk : Nat}
    (least : min data.length (pageSize - offset) = chunk) :
    strictScatter (rounds + 1) memory (vpn * pageSize + offset) data =
      strictScatter rounds ⟨memory.pages.set vpn (page.store offset (data.take chunk))⟩
        (vpn * pageSize + offset + chunk) (data.drop chunk) := by
  obtain ⟨byte, data', rfl⟩ := List.exists_cons_of_ne_nil nonempty
  rw [strictScatter]
  simp only [div_of_offset inside, mod_of_offset inside]
  generalize byte :: data' = data at bound least ⊢
  have length : (data.take chunk).length = chunk := by
    rw [List.length_take]
    omega
  have stored := @Page.strictStore_eq page offset (data.take chunk) (by omega)
  rw [length] at stored
  rw [Strict.sub_eq (Nat.le_of_lt inside), Strict.ok_bind, Strict.index_eq found,
    Strict.ok_bind, least, Strict.add64_eq (by omega), Strict.ok_bind,
    Strict.slice_zero (by omega), Strict.ok_bind, stored, Strict.ok_bind,
    Strict.slice_length (by omega), Strict.ok_bind, Strict.add64_eq (by omega), Strict.ok_bind]

/-- Stores inside the pages that are there meet no hazard. -/
theorem strictScatter_eq {rounds vpn offset : Nat} {data : Bytes} (inside : offset < pageSize)
    (covered : data ≠ [] → vpn * pageSize + offset + data.length ≤ memory.pages.length * pageSize)
    (bound : vpn * pageSize + offset + data.length < 2 ^ 64) (rounded : data.length ≤ rounds) :
    strictScatter rounds memory (vpn * pageSize + offset) data =
      .ok ⟨memory.pages.take vpn ++ scatter (memory.pages.drop vpn) offset data⟩ := by
  induction rounds generalizing memory vpn offset data with
  | zero =>
    cases List.length_eq_zero_iff.1 (Nat.le_zero.1 rounded)
    rw [strictScatter_nil, scatter_nil, List.take_append_drop]
  | succ rounds ih =>
    cases data with
    | nil => rw [strictScatter_nil, scatter_nil, List.take_append_drop]
    | cons byte data =>
      have covered := covered (List.cons_ne_nil _ _)
      obtain ⟨page, found, pages⟩ := exists_page memory.pages covered
      have within : vpn < memory.pages.length := (List.getElem?_eq_some_iff.1 found).1
      obtain ⟨chunk, least⟩ : ∃ chunk, min (byte :: data).length (pageSize - offset) = chunk :=
        ⟨_, rfl⟩
      have nonempty : 0 < (byte :: data).length := Nat.succ_pos _
      rw [strictScatter_round inside found (List.cons_ne_nil _ _) bound least, pages, scatter]
      generalize byte :: data = data at covered bound rounded nonempty least ⊢
      have piece : data.take (pageSize - offset) = data.take chunk :=
        List.take_eq_take_iff.2 (by omega)
      have rest : data.drop (pageSize - offset) = data.drop chunk :=
        List.drop_eq_drop_iff.2 (by omega)
      rw [piece, rest]
      cases left : data.drop chunk with
      | nil =>
        rw [strictScatter_nil, scatter_nil, List.set_eq_take_append_cons_drop, if_pos within]
      | cons byte more =>
        -- The piece has filled the page, so the rest begins at the start of the next one.
        have size := congrArg List.length left
        rw [List.length_drop, List.length_cons] at size
        have next : vpn * pageSize + offset + chunk = (vpn + 1) * pageSize + 0 := by
          have ahead := Nat.add_one_mul vpn pageSize
          omega
        have stores := @ih ⟨memory.pages.set vpn (page.store offset (data.take chunk))⟩ (vpn + 1) 0
          (data.drop chunk) pageSize_pos
          (fun _ => by rw [List.length_set, List.length_drop]; omega)
          (by rw [List.length_drop]; omega) (by rw [List.length_drop]; omega)
        rw [next, ← left, stores, List.take_add_one, List.take_set_of_le (Nat.le_refl _),
          List.getElem?_set_self within, List.drop_set, if_pos (Nat.lt_succ_self vpn),
          Option.toList_some, List.append_assoc, List.singleton_append]

theorem strictGather_zero (memory : PagedMemory) (rounds cursor : Nat) :
    memory.strictGather rounds cursor 0 = .ok [] := by
  cases rounds <;> rfl

theorem gather_zero (pages : List Page) (offset : Nat) : gather pages offset 0 = [] := by
  cases pages <;> rfl

/-- One round of a read takes as much of what is wanted as its page has. -/
theorem strictGather_round {rounds vpn offset len : Nat} (inside : offset < pageSize)
    (found : memory.pages[vpn]? = some page)
    (bound : vpn * pageSize + offset + (len + 1) < 2 ^ 64) {chunk : Nat}
    (least : min (len + 1) (pageSize - offset) = chunk) :
    memory.strictGather (rounds + 1) (vpn * pageSize + offset) (len + 1) =
      (memory.strictGather rounds (vpn * pageSize + offset + chunk) (len + 1 - chunk)).map
        (page.fetch offset chunk ++ ·) := by
  have frame := page.length_frame
  have piece :
      (page.frame.drop offset).take (offset + chunk - offset) = page.fetch offset chunk := by
    rw [Nat.add_sub_cancel_left]
    rfl
  have length : chunk = (page.fetch offset chunk).length := by
    rw [Page.length_fetch]
    omega
  rw [strictGather]
  simp only [div_of_offset inside, mod_of_offset inside]
  rw [Strict.sub_eq (Nat.le_of_lt inside), Strict.ok_bind, least, Strict.sub_eq (by omega),
    Strict.ok_bind, Strict.index_eq found, Strict.ok_bind, Strict.add64_eq (by omega),
    Strict.ok_bind, Strict.slice_eq (Nat.le_add_right _ _) (by omega), Strict.ok_bind, piece,
    Strict.sameLength_eq length, Strict.ok_bind, Strict.add64_eq (by omega), Strict.ok_bind]
  rfl

/-- Reads inside the pages that are there meet no hazard. -/
theorem strictGather_eq {rounds vpn offset len : Nat} (inside : offset < pageSize)
    (covered : 0 < len → vpn * pageSize + offset + len ≤ memory.pages.length * pageSize)
    (bound : vpn * pageSize + offset + len < 2 ^ 64) (rounded : len ≤ rounds) :
    memory.strictGather rounds (vpn * pageSize + offset) len =
      .ok (gather (memory.pages.drop vpn) offset len) := by
  induction rounds generalizing vpn offset len with
  | zero => rw [Nat.le_zero.1 rounded, strictGather_zero, gather_zero]
  | succ rounds ih =>
    cases len with
    | zero => rw [strictGather_zero, gather_zero]
    | succ len =>
      have covered := covered (Nat.succ_pos _)
      obtain ⟨page, found, pages⟩ := exists_page memory.pages covered
      obtain ⟨chunk, least⟩ : ∃ chunk, min (len + 1) (pageSize - offset) = chunk := ⟨_, rfl⟩
      have piece : page.fetch offset (len + 1) = page.fetch offset chunk := by
        refine List.take_eq_take_iff.2 ?_
        rw [List.length_drop, page.length_frame]
        omega
      have rest : len + 1 - (pageSize - offset) = len + 1 - chunk := by omega
      rw [strictGather_round inside found bound least, pages, gather, piece, rest]
      cases left : len + 1 - chunk with
      | zero =>
        rw [strictGather_zero, gather_zero]
        rfl
      | succ more =>
        -- The piece has emptied the page, so the rest begins at the start of the next one.
        have next : vpn * pageSize + offset + chunk = (vpn + 1) * pageSize + 0 := by
          have ahead := Nat.add_one_mul vpn pageSize
          omega
        rw [next, ih pageSize_pos (fun _ => by omega) (by omega) (by omega)]
        rfl

/-- A range that passes its check ends inside the pages. -/
theorem covered_of_checkRange {len : Nat} (checked : memory.checkRange addr len kind = .ok ())
    (nonempty : 0 < len) :
    addr.pageNumber * pageSize + addr.pageOffset + len ≤ memory.pages.length * pageSize := by
  have final := lt_of_allows (checkRange_eq_ok_iff.1 checked (len - 1) (by omega)).2
  have start := addr.pageNumber_mul_add_pageOffset
  omega

/-- A read that ends before the last address meets no hazard. -/
theorem strictRead_eq (memory : PagedMemory) {addr : UserAddr} {len : Nat}
    (bound : addr.value + len < 2 ^ 64) :
    memory.strictRead addr len = .ok (memory.readBytes addr len) := by
  rw [strictRead, strictCheck_eq, Strict.ok_bind, readBytes]
  cases checked : memory.checkRange addr len .read with
  | error fault => rfl
  | ok done =>
    have start := addr.pageNumber_mul_add_pageOffset
    rw [← start] at bound
    have gathers := strictGather_eq addr.pageOffset_lt (covered_of_checkRange checked) bound
      (Nat.le_refl len)
    rw [start] at gathers
    simp only [gathers, Strict.ok_bind]
    rfl

/-- A store that ends before the last address meets no hazard. -/
theorem strictWrite_eq (memory : PagedMemory) {addr : UserAddr} {data : Bytes}
    (bound : addr.value + data.length < 2 ^ 64) :
    memory.strictWrite addr data = .ok (memory.writeBytes addr data) := by
  rw [strictWrite, strictCheck_eq, Strict.ok_bind, writeBytes]
  cases checked : memory.checkRange addr data.length .write with
  | error fault => rfl
  | ok done =>
    have start := addr.pageNumber_mul_add_pageOffset
    rw [← start] at bound
    have scatters := strictScatter_eq addr.pageOffset_lt
      (fun nonempty => covered_of_checkRange checked (List.length_pos_iff.2 nonempty)) bound
      (Nat.le_refl data.length)
    rw [start] at scatters
    simp only [scatters, Strict.ok_bind]
    rfl

/-! ### Strings and words -/

/-- Looks for the end of a string of less than `probe` bytes, of which those before `cursor` are
`found`, in at most `rounds` pieces. -/
def strictScan (memory : PagedMemory) (probe : Nat) :
    (rounds : Nat) → (cursor : UserAddr) → (found : Bytes) → Strict (Except Fault (Option Bytes))
  | 0, _, found => if probe ≤ found.length then .ok (.ok none) else .error .endless
  | rounds + 1, cursor, found =>
    if probe ≤ found.length then .ok (.ok none)
    else do
      let inPage ← Strict.sub pageSize cursor.pageOffset
      let left ← Strict.sub probe found.length
      let step := min inPage left
      let window ← Strict.slice Page.zero.frame 0 step
      match ← memory.strictRead cursor window.length with
      | .error fault => return .error fault
      | .ok chunk =>
        if 0 ∈ chunk then
          let head ← Strict.slice chunk 0 (chunk.idxOf 0)
          return .ok (some (found ++ head))
        else
          match cursor.add? step with
          | none => return .error ⟨cursor, .overflow⟩
          | some next => memory.strictScan probe rounds next (found ++ chunk)

/-- Reads the zero-terminated string of at most `maxLength` bytes at `addr`. -/
def strictString (memory : PagedMemory) (addr : UserAddr) (maxLength : Nat) :
    Strict (Except Fault (Option Bytes)) :=
  let probe := min (maxLength + 1) (addressCount - 1)
  memory.strictScan probe probe addr []

/-- Reads the little-endian word at `addr`. -/
def strictWord (memory : PagedMemory) (addr : UserAddr) : Strict (Except Fault UInt32) := do
  let data ← memory.strictRead addr 4
  return data.map Bytes.toWord

/-- A scan that ends before the last address meets no hazard. -/
theorem strictScan_eq {probe rounds : Nat} {found : Bytes} (few : found.length ≤ probe)
    (bound : cursor.value + (probe - found.length) < 2 ^ 64)
    (rounded : probe - found.length ≤ rounds) :
    memory.strictScan probe rounds cursor found =
      .ok ((AddressSpace.scanString memory cursor (probe - found.length)).map
        (Option.map (found ++ ·))) := by
  induction rounds generalizing cursor found with
  | zero =>
    have whole : probe ≤ found.length := by omega
    rw [strictScan, if_pos whole, AddressSpace.scanString, dif_pos (by omega)]
    rfl
  | succ rounds ih =>
    rw [strictScan, AddressSpace.scanString]
    by_cases whole : probe ≤ found.length
    · rw [if_pos whole, dif_pos (by omega)]
      rfl
    · have room : 0 < pageSize - cursor.pageOffset := Nat.sub_pos_of_lt cursor.pageOffset_lt
      obtain ⟨step, least⟩ :
        ∃ step, min (pageSize - cursor.pageOffset) (probe - found.length) = step := ⟨_, rfl⟩
      have inPage : step ≤ Page.zero.frame.length := by
        rw [Page.length_frame]
        omega
      rw [if_neg whole, dif_neg (by omega), Strict.sub_eq (Nat.le_of_lt cursor.pageOffset_lt),
        Strict.ok_bind, Strict.sub_eq (by omega), Strict.ok_bind]
      simp only [least, AddressSpace.readBytes]
      rw [Strict.slice_zero inPage, Strict.ok_bind, List.length_take_of_le inPage,
        strictRead_eq memory (by omega), Strict.ok_bind]
      cases loaded : memory.readBytes cursor step with
      | error fault => rfl
      | ok chunk =>
        have length := (readBytes_eq_ok_iff.1 loaded).2.1
        simp only
        by_cases ends : 0 ∈ chunk
        · rw [if_pos ends, if_pos ends, Strict.slice_zero List.idxOf_le_length, Strict.ok_bind,
            Bytes.takeWhile_ne_zero]
          rfl
        · rw [if_neg ends, if_neg ends]
          cases reached : cursor.add? step with
          | none => rfl
          | some next =>
            have value := UserAddr.add?_eq_some.1 reached
            have grown : (found ++ chunk).length = found.length + step := by
              rw [List.length_append, length]
            have rest : probe - (found ++ chunk).length = probe - found.length - step := by omega
            have scans := @ih next (found ++ chunk) (by omega) (by omega) (by omega)
            simp only [scans, rest]
            cases AddressSpace.scanString memory next (probe - found.length - step) with
            | error fault => rfl
            | ok text =>
              cases text with
              | none => rfl
              | some text =>
                simp only [Except.map, Option.map_some, List.append_assoc]

/-- A string that ends before the last address is read without a hazard. -/
theorem strictString_eq (memory : PagedMemory) {maxLength : Nat}
    (bound : addr.value + (maxLength + 1) < 2 ^ 64) :
    memory.strictString addr maxLength = .ok (AddressSpace.readString memory addr maxLength) := by
  have scans := @strictScan_eq memory addr (min (maxLength + 1) (addressCount - 1))
    (min (maxLength + 1) (addressCount - 1)) [] (Nat.zero_le _) (by
      rw [List.length_nil]
      omega) (Nat.sub_le _ _)
  rw [strictString, scans, AddressSpace.readString]
  cases AddressSpace.scanString memory addr (min (maxLength + 1) (addressCount - 1)) with
  | error fault => rfl
  | ok text => cases text <;> rfl

/-- A word that ends before the last address is read without a hazard. -/
theorem strictWord_eq (memory : PagedMemory) (bound : addr.value + 4 < 2 ^ 64) :
    memory.strictWord addr = .ok (AddressSpace.readWord memory addr) := by
  rw [strictWord, strictRead_eq memory bound]
  rfl

/-- A string is no longer than it may be. -/
theorem length_readString_le {maxLength : Nat} {text : Bytes}
    (read : AddressSpace.readString memory addr maxLength = .ok (some text)) :
    text.length ≤ maxLength := by
  have short := ((memory.reads.scanned addr _).found_iff.1 read).1
  omega

end SyscallKernel.PagedMemory
