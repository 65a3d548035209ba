import Bootloader.Proofs.Act.Ends
import Bootloader.Proofs.SystemPage.Records
import Bootloader.SystemPage.View

/-!
# Views of bytes that nobody vouches for

The kernel looks at a block of bytes that may hold anything. It checks the places of the tables
once, when it parses the block, and relies on that check from then on: the accessors add and
multiply what the header says, cut the block at the results, and walk the tables slot by slot,
and nothing of this may leave the range of a machine word or the block.

Here all of this is done in machine words, and crashes (with `none`) where a sum or a product
does not fit a word, where bytes are cut that are not there, and where a record is decoded from
too few of them. It turns out that nothing crashes: parsing ends as the parser does that needs
no words (`parseIn?_eq`), it accepts exactly the blocks with a fitting header and all tables
inside the stated size (`parse_eq_ok_iff`), and on an accepted block every table gives the number
of records that was promised, slot after slot (`Iterator.Sound.gives`), whatever lies behind
the stated size (`view_safe`).
-/

set_option autoImplicit false

namespace Bootloader.SystemPage

open Layout

/-! ## Machine words -/

/-- The sum of two sizes, if it is less than the limit of machine words. -/
def add? (limit first second : Nat) : Option Nat :=
  if first + second < limit then some (first + second) else none

/-- The product of two sizes, if it is less than the limit of machine words. -/
def multiply? (limit first second : Nat) : Option Nat :=
  if first * second < limit then some (first * second) else none

/-- The bytes from `start` to `stop`, if these are places in the bytes, in this order. -/
def cut? (bytes : Bytes) (start stop : Nat) : Option Bytes :=
  if start ≤ stop ∧ stop ≤ bytes.length then some (bytes.slice start (stop - start)) else none

theorem add?_eq {limit first second : Nat} (small : first + second < limit) :
    add? limit first second = some (first + second) :=
  if_pos small

theorem multiply?_eq {limit first second : Nat} (small : first * second < limit) :
    multiply? limit first second = some (first * second) :=
  if_pos small

theorem cut?_eq {bytes : Bytes} {start count : Nat} (inside : start + count ≤ bytes.length) :
    cut? bytes start (start + count) = some (bytes.slice start count) := by
  rw [cut?, if_pos ⟨by omega, inside⟩, Nat.add_sub_cancel_left]

theorem cut?_zero {bytes : Bytes} {count : Nat} (inside : count ≤ bytes.length) :
    cut? bytes 0 count = some (bytes.take count) := by
  rw [cut?, if_pos ⟨Nat.zero_le _, inside⟩]
  rfl

/-- The place behind `count` records of a size that start at `offset`. -/
def stop? (limit offset count size : Nat) : Option Nat := do
  let bytes ← multiply? limit count size
  add? limit offset bytes

/-- The product is no larger than the sum, so only the sum has to fit. -/
theorem stop?_eq (limit offset count size : Nat) :
    stop? limit offset count size = add? limit offset (count * size) := by
  by_cases small : count * size < limit
  · rw [stop?, multiply?_eq small]
    rfl
  · rw [stop?, multiply?, if_neg small, add?, if_neg (by omega)]
    rfl

namespace View

/-! ## The parser in machine words -/

/-- A place that fits a word and lies inside the block. -/
def checkStop (length : Nat) (stop? : Option Nat) : Except ViewError Unit :=
  match stop? with
  | none => .error .outOfBounds
  | some stop => if length < stop then .error .outOfBounds else .ok ()

/-- A table has to be aligned and to end inside the block. -/
def checkTableIn (limit length : Nat) (table : TableReference) (size : Nat) :
    Except ViewError Unit :=
  if table.offset.toNat % tableAlignment ≠ 0 then .error .badAlignment
  else checkStop length (stop? limit table.offset.toNat table.count.toNat size)

/-- Check a block of bytes. It is cut to its stated size before its tables are looked at. -/
def parseIn? (limit : Nat) (block : Bytes) : Option (Except ViewError View) := do
  if block.length < Header.layout.size then return .error .tooShort
  let header ← Header.decode? block
  if header.magic ≠ magic then return .error .badMagic
  let size := header.size.toNat
  if block.length < size ∨ size < Header.layout.size then return .error .outOfBounds
  let bytes ← cut? block 0 size
  return do
    checkTableIn limit bytes.length header.maps MapRecord.layout.size
    checkTableIn limit bytes.length header.programs ProgramRecord.layout.size
    checkTableIn limit bytes.length header.partitions PartitionRecord.layout.size
    checkTableIn limit bytes.length header.windows WindowRecord.layout.size
    checkStop bytes.length (add? limit header.arguments.offset.toNat header.arguments.count.toNat)
    return { bytes, header }

/-- What does not fit a word lies behind any block. -/
theorem checkStop_add? {limit length : Nat} (small : length < limit) (first second : Nat) :
    checkStop length (add? limit first second) =
      if length < first + second then .error .outOfBounds else .ok () := by
  rw [add?]
  split
  · rfl
  · rw [if_pos (by omega)]
    rfl

theorem checkTableIn_eq {limit length : Nat} (small : length < limit) (table : TableReference)
    (size : Nat) : checkTableIn limit length table size = checkTable length table size := by
  rw [checkTableIn, checkTable, stop?_eq, checkStop_add? small]

/-- The header can be decoded from a block that is long enough for it. -/
theorem decode?_header {block : Bytes} (long : Header.layout.size ≤ block.length) :
    Header.decode? block = some (Header.layout.read block) := by
  rw [codec_header.decode, readFrom?, if_pos (Nat.le_trans canonical_header.reach_le long)]

/-- **In machine words, parsing does not crash and ends as it does without them.** -/
theorem parseIn?_eq {limit : Nat} (wide : UInt32.size ≤ limit) (block : Bytes) :
    parseIn? limit block = some (parse block) := by
  rw [parseIn?, parse]
  by_cases short : block.length < Header.layout.size
  · rw [if_pos short, if_pos short]
    rfl
  have long : Header.layout.size ≤ block.length := Nat.le_of_not_lt short
  simp only [if_neg short, decode?_header long, Option.bind_eq_bind, Option.bind_some]
  by_cases foreign : (Header.layout.read block).magic ≠ magic
  · rw [if_pos foreign, if_pos foreign]
    rfl
  rw [if_neg foreign, if_neg foreign]
  by_cases outside : block.length < (Header.layout.read block).size.toNat ∨
      (Header.layout.read block).size.toNat < Header.layout.size
  · rw [if_pos outside, if_pos outside]
    rfl
  rw [if_neg outside, if_neg outside]
  have size : (Header.layout.read block).size.toNat < limit :=
    Nat.lt_of_lt_of_le (UInt32.toNat_lt _) wide
  have cut : cut? block 0 (Header.layout.read block).size.toNat =
      some (block.take (Header.layout.read block).size.toNat) := cut?_zero (by omega)
  have length : (block.take (Header.layout.read block).size.toNat).length =
      (Header.layout.read block).size.toNat := by
    rw [List.length_take]
    omega
  simp only [cut, Option.bind_some, length, checkTableIn_eq size, checkStop_add? size]
  by_cases behind : (Header.layout.read block).size.toNat <
      (Header.layout.read block).arguments.offset.toNat +
        (Header.layout.read block).arguments.count.toNat
  · simp only [if_pos behind]
    rfl
  · simp only [if_neg behind]
    rfl

/-! ## Which blocks are accepted -/

/-- A table that is aligned and ends inside the first `length` bytes. -/
structure TableInside (length : Nat) (table : TableReference) (size : Nat) : Prop where
  aligned : table.offset.toNat % tableAlignment = 0
  inside : table.offset.toNat + table.count.toNat * size ≤ length

/-- A block with a header, all of whose tables end inside the size that it states. -/
structure Acceptable (block : Bytes) (header : Header) : Prop where
  fits : Header.layout.size ≤ block.length
  magic : header.magic = magic
  least : Header.layout.size ≤ header.size.toNat
  most : header.size.toNat ≤ block.length
  maps : TableInside header.size.toNat header.maps MapRecord.layout.size
  programs : TableInside header.size.toNat header.programs ProgramRecord.layout.size
  partitions : TableInside header.size.toNat header.partitions PartitionRecord.layout.size
  windows : TableInside header.size.toNat header.windows WindowRecord.layout.size
  arguments : header.arguments.offset.toNat + header.arguments.count.toNat ≤ header.size.toNat

instance (length : Nat) (table : TableReference) (size : Nat) :
    Decidable (TableInside length table size) :=
  decidable_of_decidable_of_iff (p := table.offset.toNat % tableAlignment = 0 ∧
      table.offset.toNat + table.count.toNat * size ≤ length)
    ⟨fun ⟨aligned, inside⟩ => ⟨aligned, inside⟩, fun ⟨aligned, inside⟩ => ⟨aligned, inside⟩⟩

theorem acceptable_iff {block : Bytes} {header : Header} :
    Acceptable block header ↔ Header.layout.size ≤ block.length ∧
      header.magic = SystemPage.magic ∧ Header.layout.size ≤ header.size.toNat ∧
      header.size.toNat ≤ block.length ∧
      TableInside header.size.toNat header.maps MapRecord.layout.size ∧
      TableInside header.size.toNat header.programs ProgramRecord.layout.size ∧
      TableInside header.size.toNat header.partitions PartitionRecord.layout.size ∧
      TableInside header.size.toNat header.windows WindowRecord.layout.size ∧
      header.arguments.offset.toNat + header.arguments.count.toNat ≤ header.size.toNat :=
  ⟨fun ⟨fits, magic, least, most, maps, programs, partitions, windows, arguments⟩ =>
      ⟨fits, magic, least, most, maps, programs, partitions, windows, arguments⟩,
    fun ⟨fits, magic, least, most, maps, programs, partitions, windows, arguments⟩ =>
      ⟨fits, magic, least, most, maps, programs, partitions, windows, arguments⟩⟩

instance (block : Bytes) (header : Header) : Decidable (Acceptable block header) :=
  decidable_of_decidable_of_iff acceptable_iff.symm

theorem checkTable_bind_eq_ok {α : Type} {length size : Nat} {table : TableReference}
    {next : Unit → Except ViewError α} {value : α} :
    (checkTable length table size >>= next) = .ok value ↔
      TableInside length table size ∧ next () = .ok value := by
  rw [checkTable]
  by_cases crooked : table.offset.toNat % tableAlignment ≠ 0
  · rw [if_pos crooked]
    exact ⟨nofun, fun both => absurd both.1.aligned crooked⟩
  rw [if_neg crooked]
  by_cases outside : length < table.offset.toNat + table.count.toNat * size
  · rw [if_pos outside]
    exact ⟨nofun, fun both => absurd both.1.inside (Nat.not_le_of_lt outside)⟩
  rw [if_neg outside]
  exact ⟨fun rest => ⟨⟨Decidable.not_not.mp crooked, Nat.le_of_not_lt outside⟩, rest⟩,
    fun both => both.2⟩

/-- **A block is accepted exactly if its header is acceptable**; the view is the header with the
bytes that it speaks of. -/
theorem parse_eq_ok_iff {block : Bytes} {view : View} :
    parse block = .ok view ↔
      view.header = Header.layout.read block ∧
        view.bytes = block.take view.header.size.toNat ∧ Acceptable block view.header := by
  unfold parse
  simp only [Act.guarded_eq_ok, checkTable_bind_eq_ok, Nat.not_lt, ne_eq, Decidable.not_not,
    not_or]
  constructor
  · rintro ⟨fits, magic, ⟨most, least⟩, maps, programs, partitions, windows, arguments, same⟩
    cases same
    exact ⟨rfl, rfl, fits, magic, least, most, maps, programs, partitions, windows, arguments⟩
  · obtain ⟨bytes, header⟩ := view
    rintro ⟨rfl, cut, accepted⟩
    have cut : bytes = block.take (Header.layout.read block).size.toNat := cut
    exact ⟨accepted.fits, accepted.magic, ⟨accepted.most, accepted.least⟩, accepted.maps,
      accepted.programs, accepted.partitions, accepted.windows, accepted.arguments, by
        rw [cut]
        rfl⟩

/-- What lies behind the stated size does not matter. -/
theorem parse_of_take_eq {block other : Bytes} {view : View} (accepted : parse block = .ok view)
    (same : other.take view.header.size.toNat = block.take view.header.size.toNat) :
    parse other = .ok view := by
  obtain ⟨header, cut, acceptable⟩ := parse_eq_ok_iff.mp accepted
  have least := acceptable.least
  have most := acceptable.most
  have length : view.header.size.toNat ≤ other.length := by
    have lengths := congrArg List.length same
    rw [List.length_take, List.length_take, Nat.min_eq_left most] at lengths
    omega
  refine parse_eq_ok_iff.mpr ⟨?_, cut.trans same.symm, { acceptable with
    fits := Nat.le_trans least length
    most := length }⟩
  rw [header, ← canonical_header.read_take least acceptable.fits, ← same,
    canonical_header.read_take least (Nat.le_trans least length)]

/-! ## Walking a table -/

/-- What is left of the walk through a table: its bytes, and the next of its slots. -/
structure Iterator where
  bytes : Bytes
  index : Nat
  count : Nat
  deriving DecidableEq, Repr

/-- Begin to walk a table. -/
def iterator? (limit : Nat) (view : View) (table : TableReference) (size : Nat) :
    Option Iterator := do
  let stop ← stop? limit table.offset.toNat table.count.toNat size
  let bytes ← cut? view.bytes table.offset.toNat stop
  return { bytes, index := 0, count := table.count.toNat }

namespace Iterator

variable {α : Type}

/-- The record in the next slot and what is left behind it, or nothing behind the last slot. -/
def next? (limit : Nat) (layout : Layout α) (decode? : Bytes → Option α) (iterator : Iterator) :
    Option (Option (α × Iterator)) := do
  if iterator.count ≤ iterator.index then return none
  let offset ← multiply? limit iterator.index layout.size
  let index ← add? limit iterator.index 1
  let stop ← add? limit offset layout.size
  let slot ← cut? iterator.bytes offset stop
  let record ← decode? slot
  return some (record, { iterator with index })

variable {limit : Nat} {layout : Layout α} {decode? : Bytes → Option α}

/-- Asked again and again, the iterator gives these records and then ends. -/
inductive Gives (limit : Nat) (layout : Layout α) (decode? : Bytes → Option α) :
    Iterator → List α → Prop where
  | ended {iterator : Iterator} (exhausted : iterator.next? limit layout decode? = some none) :
      Gives limit layout decode? iterator []
  | next {iterator rest : Iterator} {record : α} {others : List α}
      (first : iterator.next? limit layout decode? = some (some (record, rest)))
      (behind : Gives limit layout decode? rest others) :
      Gives limit layout decode? iterator (record :: others)

/-- Asked until it gives a record that is wanted, or ends, the iterator finds this. -/
inductive Finds (limit : Nat) (layout : Layout α) (decode? : Bytes → Option α)
    (wanted : α → Bool) : Iterator → Option α → Prop where
  | ended {iterator : Iterator} (exhausted : iterator.next? limit layout decode? = some none) :
      Finds limit layout decode? wanted iterator none
  | found {iterator rest : Iterator} {record : α}
      (first : iterator.next? limit layout decode? = some (some (record, rest)))
      (this : wanted record = true) :
      Finds limit layout decode? wanted iterator (some record)
  | passed {iterator rest : Iterator} {record : α} {result : Option α}
      (first : iterator.next? limit layout decode? = some (some (record, rest)))
      (other : wanted record = false) (behind : Finds limit layout decode? wanted rest result) :
      Finds limit layout decode? wanted iterator result

/-- A search stops at the first wanted record of the whole walk. -/
theorem Gives.finds {iterator : Iterator} {records : List α}
    (gives : iterator.Gives limit layout decode? records) (wanted : α → Bool) :
    iterator.Finds limit layout decode? wanted (records.find? wanted) := by
  induction gives with
  | ended exhausted => exact .ended exhausted
  | @next iterator rest record others first _ ih =>
      cases this : wanted record with
      | true =>
          rw [List.find?_cons_of_pos this]
          exact .found first this
      | false =>
          rw [List.find?_cons_of_neg (Bool.eq_false_iff.mp this)]
          exact .passed first this ih

/-- An iterator whose bytes are as many as its slots take, in numbers that fit a word. -/
structure Sound (limit size : Nat) (iterator : Iterator) : Prop where
  filled : iterator.bytes.length = iterator.count * size
  counted : iterator.count < limit
  sized : iterator.count * size < limit

/-- **One step**: the record of the next slot is given, and the rest is as sound. -/
theorem Sound.next {iterator : Iterator} (sound : iterator.Sound limit layout.size)
    (decode : ∀ bytes, decode? bytes = layout.readFrom? bytes) (reach : layout.reach ≤ layout.size)
    (more : iterator.index < iterator.count) :
    iterator.next? limit layout decode? = some (some
      (layout.read (iterator.bytes.slice (iterator.index * layout.size) layout.size),
        { iterator with index := iterator.index + 1 })) := by
  have counted := sound.counted
  have sized := sound.sized
  have filled := sound.filled
  have slot : iterator.index * layout.size + layout.size ≤ iterator.count * layout.size := by
    rw [← Nat.succ_mul]
    exact Nat.mul_le_mul_right _ more
  have taken : layout.reach ≤
      (iterator.bytes.slice (iterator.index * layout.size) layout.size).length := by
    rw [Bytes.slice, List.length_take, List.length_drop]
    omega
  rw [next?, if_neg (Nat.not_le_of_lt more), multiply?_eq (by omega), add?_eq (by omega)]
  simp only [Option.bind_eq_bind, Option.bind_some]
  rw [add?_eq (by omega), Option.bind_some, cut?_eq (by omega), Option.bind_some, decode,
    readFrom?, if_pos taken]
  rfl

/-- **A whole walk**: the records of all slots that are left are given, one after the other. -/
theorem Sound.gives {iterator : Iterator} (sound : iterator.Sound limit layout.size)
    (decode : ∀ bytes, decode? bytes = layout.readFrom? bytes)
    (reach : layout.reach ≤ layout.size) :
    iterator.Gives limit layout decode? ((List.range' iterator.index
      (iterator.count - iterator.index)).map fun index =>
        layout.read (iterator.bytes.slice (index * layout.size) layout.size)) := by
  -- by induction on the number of slots that are left
  induction left : iterator.count - iterator.index generalizing iterator with
  | zero =>
      refine .ended ?_
      rw [next?, if_pos (by omega)]
      rfl
  | succ left ih =>
      have rest := @ih { iterator with index := iterator.index + 1 }
        ⟨sound.filled, sound.counted, sound.sized⟩ (by simp only; omega)
      exact .next (sound.next decode reach (by omega)) rest

end Iterator

/-! ## What an accepted block shows -/

/-- The argument string, which ends at its first zero. -/
def argumentsIn? (limit : Nat) (view : View) : Option Bytes := do
  let start := view.header.arguments.offset.toNat
  let stop ← add? limit start view.header.arguments.count.toNat
  let bytes ← cut? view.bytes start stop
  match bytes.findIdx? (· == 0) with
  | some ending => cut? bytes 0 ending
  | none => return bytes

/-- A table is walked without a crash. It gives as many records as were promised, from slots
that follow each other inside the stated size. -/
structure TableSafe {α : Type} (limit : Nat) (block : Bytes) (view : View) (table : TableReference)
    (layout : Layout α) (decode? : Bytes → Option α) (records : List α) : Prop where
  walk : ∃ iterator, view.iterator? limit table layout.size = some iterator ∧
    iterator.Gives limit layout decode? records
  length : records.length = table.count.toNat
  slots : ∀ index < table.count.toNat,
    table.offset.toNat + (index + 1) * layout.size ≤ view.header.size.toNat ∧
      records[index]? = some (layout.read
        (block.slice (table.offset.toNat + index * layout.size) layout.size))

/-- All that is asked of an accepted block is answered without a crash, and by the bytes inside
its stated size. -/
structure Safe (limit : Nat) (block : Bytes) (view : View) : Prop where
  maps : TableSafe limit block view view.header.maps MapRecord.layout MapRecord.decode? view.maps
  programs : TableSafe limit block view view.header.programs ProgramRecord.layout
    ProgramRecord.decode? view.programs
  partitions : TableSafe limit block view view.header.partitions PartitionRecord.layout
    PartitionRecord.decode? view.partitions
  windows : TableSafe limit block view view.header.windows WindowRecord.layout
    WindowRecord.decode? view.windows
  arguments : view.argumentsIn? limit = some view.arguments
  map : ∀ id, ∃ iterator,
    view.iterator? limit view.header.maps MapRecord.layout.size = some iterator ∧
      iterator.Finds limit MapRecord.layout MapRecord.decode? (fun record => record.id = id)
        (view.map? id)
  confined : ∀ other : Bytes,
    other.take view.header.size.toNat = block.take view.header.size.toNat →
      parse other = .ok view

section

variable {α : Type} {limit : Nat} {block : Bytes} {view : View} {table : TableReference}
  {layout : Layout α} {gaps : List Gap}

/-- The records of a table, slot by slot. -/
theorem records_eq_map (canonical : layout.Canonical gaps)
    (inside : table.offset.toNat + table.count.toNat * layout.size ≤ view.bytes.length) :
    view.records table layout = (List.range table.count.toNat).map fun index =>
      layout.read (view.bytes.slice (table.offset.toNat + index * layout.size) layout.size) := by
  have room : table.count.toNat * layout.size ≤
      (view.bytes.drop table.offset.toNat).length := by
    rw [List.length_drop]
    omega
  rw [records, canonical.readMany_eq room]
  refine List.map_congr_left fun index _ => ?_
  rw [Bytes.slice_drop]

/-- An iterator over a table that lies inside gives the records of the table. -/
theorem iterator_gives (canonical : layout.Canonical gaps) {decode? : Bytes → Option α}
    (decode : ∀ bytes, decode? bytes = layout.readFrom? bytes) (wide : UInt32.size ≤ limit)
    (small : view.bytes.length < limit)
    (inside : table.offset.toNat + table.count.toNat * layout.size ≤ view.bytes.length) :
    ∃ iterator, view.iterator? limit table layout.size = some iterator ∧
      iterator.Gives limit layout decode? (view.records table layout) := by
  have opened : view.iterator? limit table layout.size = some
      ⟨view.bytes.slice table.offset.toNat (table.count.toNat * layout.size), 0,
        table.count.toNat⟩ := by
    rw [iterator?, stop?_eq, add?_eq (by omega)]
    simp only [Option.bind_eq_bind, Option.bind_some]
    rw [cut?_eq inside]
    rfl
  have filled : (view.bytes.slice table.offset.toNat
      (table.count.toNat * layout.size)).length = table.count.toNat * layout.size := by
    rw [Bytes.slice, List.length_take, List.length_drop]
    omega
  have fits : table.count.toNat * layout.size < limit := by omega
  have sound : Iterator.Sound limit layout.size
      ⟨view.bytes.slice table.offset.toNat (table.count.toNat * layout.size), 0,
        table.count.toNat⟩ :=
    ⟨filled, Nat.lt_of_lt_of_le (UInt32.toNat_lt _) wide, fits⟩
  have slots : view.records table layout = (List.range' 0 (table.count.toNat - 0)).map
      fun index => layout.read ((view.bytes.slice table.offset.toNat
        (table.count.toNat * layout.size)).slice (index * layout.size) layout.size) := by
    rw [records_eq_map canonical inside, Nat.sub_zero, ← List.range_eq_range']
    refine List.map_congr_left fun index member => ?_
    have slot : index * layout.size + layout.size ≤ table.count.toNat * layout.size := by
      rw [← Nat.succ_mul]
      exact Nat.mul_le_mul_right _ (List.mem_range.mp member)
    rw [Bytes.slice_slice slot]
  refine ⟨_, opened, ?_⟩
  rw [slots]
  exact sound.gives decode canonical.reach_le

/-- **A table inside the stated size is walked safely.** -/
theorem TableInside.safe (inside : TableInside view.header.size.toNat table layout.size)
    (canonical : layout.Canonical gaps) {decode? : Bytes → Option α}
    (decode : ∀ bytes, decode? bytes = layout.readFrom? bytes) (wide : UInt32.size ≤ limit)
    (most : view.header.size.toNat ≤ block.length)
    (cut : view.bytes = block.take view.header.size.toNat) :
    TableSafe limit block view table layout decode? (view.records table layout) := by
  have length : view.bytes.length = view.header.size.toNat := by
    rw [cut, List.length_take, Nat.min_eq_left most]
  have ends := inside.inside
  rw [← length] at ends
  have small : view.bytes.length < limit := by
    rw [length]
    exact Nat.lt_of_lt_of_le (UInt32.toNat_lt _) wide
  refine ⟨iterator_gives canonical decode wide small ends, ?_, fun index more => ?_⟩
  · rw [records_eq_map canonical ends, List.length_map, List.length_range]
  · have slot : (index + 1) * layout.size ≤ table.count.toNat * layout.size :=
      Nat.mul_le_mul_right _ more
    have within : table.offset.toNat + index * layout.size + layout.size ≤
        view.header.size.toNat := by
      rw [Nat.succ_mul] at slot
      omega
    refine ⟨by omega, ?_⟩
    rw [records_eq_map canonical ends, List.getElem?_map, List.getElem?_range more,
      Option.map_some, cut, Bytes.slice_take within]

end

/-- The argument string is cut out of the block, and cut at its first zero. -/
theorem argumentsIn?_eq {limit : Nat} {view : View} (small : view.bytes.length < limit)
    (inside : view.header.arguments.offset.toNat + view.header.arguments.count.toNat ≤
      view.bytes.length) :
    view.argumentsIn? limit = some view.arguments := by
  rw [argumentsIn?, arguments, Text.beforeZero_eq_take]
  simp only [add?_eq (Nat.lt_of_le_of_lt inside small), cut?_eq inside, Option.bind_eq_bind,
    Option.bind_some]
  generalize view.bytes.slice view.header.arguments.offset.toNat
    view.header.arguments.count.toNat = bytes
  cases found : bytes.findIdx? (· == 0) with
  | none =>
      have nowhere := List.findIdx?_eq_none_iff.mp found
      rw [List.findIdx_eq_length_of_false nowhere, List.take_length]
      rfl
  | some ending =>
      obtain ⟨early, first⟩ := List.findIdx?_eq_some_iff_findIdx_eq.mp found
      rw [first]
      exact cut?_zero (by omega)

/-- **A view is safe on bytes that nobody vouches for.** In machine words that hold every number
of the header, parsing any block ends without a crash. The block is accepted exactly if it
has an acceptable header, and then every question to the view is answered without a crash, from
the bytes inside the stated size. -/
theorem view_safe {limit : Nat} (wide : UInt32.size ≤ limit) (block : Bytes) :
    parseIn? limit block = some (parse block) ∧
      (∀ view, parse block = .ok view ↔ view.header = Header.layout.read block ∧
        view.bytes = block.take view.header.size.toNat ∧ Acceptable block view.header) ∧
      ∀ view, parse block = .ok view → Safe limit block view := by
  refine ⟨parseIn?_eq wide block, fun _ => parse_eq_ok_iff, fun view accepted => ?_⟩
  obtain ⟨_, cut, acceptable⟩ := parse_eq_ok_iff.mp accepted
  have most := acceptable.most
  have length : view.bytes.length = view.header.size.toNat := by
    rw [cut, List.length_take, Nat.min_eq_left most]
  have small : view.bytes.length < limit := by
    rw [length]
    exact Nat.lt_of_lt_of_le (UInt32.toNat_lt _) wide
  have maps := acceptable.maps.safe canonical_map codec_map.decode wide most cut
  obtain ⟨iterator, opened, gives⟩ := maps.walk
  exact
    { maps
      programs := acceptable.programs.safe canonical_program codec_program.decode wide most cut
      partitions :=
        acceptable.partitions.safe canonical_partition codec_partition.decode wide most cut
      windows := acceptable.windows.safe canonical_window codec_window.decode wide most cut
      arguments := argumentsIn?_eq small (by
        rw [length]
        exact acceptable.arguments)
      map := fun id => ⟨iterator, opened, gives.finds _⟩
      confined := fun _ same => parse_of_take_eq accepted same }

/-- A block with one map and an argument string. The table of windows is empty and lies at the
very end. -/
def oneMapBlock : Bytes :=
  Header.layout.write { magic, size := 160, kernel := .unknown, maps := ⟨104, 1⟩,
                        programs := ⟨136, 0⟩, partitions := ⟨136, 0⟩, windows := ⟨160, 0⟩,
                        arguments := ⟨136, 5⟩ } ++
    MapRecord.layout.write { start := ⟨0x100000⟩, stop := ⟨0x20100000⟩, attributes := 7, id := 0,
                             name := Text.toField _ "ddr" } ++
    [1, 97, 98, 32, 0] ++ List.replicate 19 0

theorem view_safe_oneMapBlock : UInt32.size ≤ UInt32.size ∧
    ∃ view, parse oneMapBlock = .ok view ∧ view.maps.length = 1 ∧
      view.arguments = [1, 97, 98, 32] ∧ Safe UInt32.size oneMapBlock view := by
  have accepted : parse oneMapBlock = .ok ⟨oneMapBlock, Header.layout.read oneMapBlock⟩ :=
    parse_eq_ok_iff.mpr (by decide +kernel)
  exact ⟨Nat.le_refl _, _, accepted, by decide +kernel, by decide +kernel,
    (view_safe (Nat.le_refl _) oneMapBlock).2.2 _ accepted⟩

end View

end Bootloader.SystemPage
