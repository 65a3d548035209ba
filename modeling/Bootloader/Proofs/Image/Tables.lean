import Bootloader.Proofs.Act.Losses
import Bootloader.Proofs.Image.Reading
import Mathlib.Data.List.Forall2

/-!
# Walking the tables of an image

A header that was accepted bounds its tables: a table has as many bytes as any table may have,
or no entries at all. So the walk through a table asks for that many bytes at most, and the
search for a name asks for the bytes of one table and of the names. This is said of the same walk
with a source that keeps account of what it is asked for (`Source.recording`, `Asks`). A table
without entries is accepted whatever size it states for them. If that is none, the walk crashes,
without a request; any other walk is lost only if a read is (`openImage_walkable`).
-/

set_option autoImplicit false

namespace Bootloader.Image

open Act

variable {σ ε α β : Type}

/-! ## What a header that was accepted says of its tables -/

/-- What makes a header acceptable. -/
theorem FileHeader.parse_eq_ok {bytes : Bytes} {header : FileHeader} :
    FileHeader.parse bytes = .ok header ↔
      FileHeader.layout.size ≤ bytes.length ∧ header = FileHeader.layout.read bytes ∧
        header.identity.bytes.take 4 = magic ∧ header.identity.bytes.slice 4 2 = [1, 1] ∧
        header.programs.isAcceptable ProgramHeader.layout.size = true ∧
        header.sections.isAcceptable SectionHeader.layout.size = true := by
  unfold FileHeader.parse
  simp only [guarded_eq_ok, Nat.not_lt, ne_eq, Decidable.not_not, Bool.not_eq_true',
    Bool.not_eq_false]
  constructor
  · rintro ⟨long, magical, classed, programs, sections, same⟩
    cases same
    exact ⟨long, rfl, magical, classed, programs, sections⟩
  · rintro ⟨long, rfl, magical, classed, programs, sections⟩
    exact ⟨long, magical, classed, programs, sections, rfl⟩

section

variable {table : Table} {size : Nat}

theorem Table.isAcceptable_iff : table.isAcceptable size = true ↔
    table.count = 0 ∨ table.entrySize.toNat = size ∧
      table.count.toNat * table.entrySize.toNat ≤ Capacity.headerTable := by
  simp [isAcceptable]

/-- An acceptable table whose entries have no size has no entries. -/
theorem Table.count_of_entrySize (acceptable : table.isAcceptable size = true) (positive : 0 < size)
    (sizeless : table.entrySize = 0) : table.count = 0 := by
  rcases Table.isAcceptable_iff.mp acceptable with empty | ⟨sized, _⟩
  · exact empty
  · rw [sizeless] at sized
    exact absurd sized (Nat.ne_of_lt positive)

/-- An acceptable table has no more bytes than any table may have. -/
theorem Table.length_le (acceptable : table.isAcceptable size = true) :
    table.count.toNat * table.entrySize.toNat ≤ Capacity.headerTable := by
  rcases Table.isAcceptable_iff.mp acceptable with empty | ⟨_, fits⟩
  · simp [empty]
  · exact fits

end

/-- The header of an image that was opened was accepted. -/
theorem openImage_ends {source : Source σ ε} {header : FileHeader} {before after : σ}
    (ends : (openImage source).Ends before (.done header) after) :
    ∃ bytes, (source.read 0 FileHeader.layout.size).Ends before (.done bytes) after ∧
      FileHeader.parse bytes = .ok header := by
  obtain ⟨bytes, middle, read, ends⟩ := ends_bind_done.mp ends
  split at ends
  case h_1 other accepted =>
    obtain ⟨done, rfl⟩ := ends
    cases done
    exact ⟨bytes, read, accepted⟩
  case h_2 => cases ends.1

/-! ## Keeping account of requests -/

/-- A range of bytes that a source was asked for. -/
structure Request where
  offset : Nat
  length : Nat
  deriving DecidableEq, Repr

/-- A source that keeps account of what it is asked for. -/
def Source.recording (source : Source σ ε) : Source (σ × List Request) ε where
  read offset length := do
    Act.update fun (state, earlier) => (state, earlier ++ [⟨offset, length⟩])
    Act.zoom Prod.fst (fun state whole => (state, whole.2)) (source.read offset length)
  refuse := source.refuse

/-- Requests for no more bytes than some bounds say, each bound used once at most and in order. -/
def Within (bounds : List Nat) (requests : List Request) : Prop :=
  ∃ chosen, chosen.Sublist bounds ∧
    List.Forall₂ (fun request bound => request.length ≤ bound) requests chosen

/-- With an account of the requests a walk ends as without, and its requests are within bounds. -/
def Asks (bounds : List Nat) (walk : Act σ ε α) (recorded : Act (σ × List Request) ε α) : Prop :=
  ∀ before outcome after earlier, walk.Ends before outcome after →
    ∃ requests, recorded.Ends (before, earlier) outcome (after, earlier ++ requests) ∧
      Within bounds requests

theorem within_nil (bounds : List Nat) : Within bounds [] :=
  ⟨[], List.nil_sublist bounds, .nil⟩

theorem Within.append {first second : List Nat} {requests others : List Request}
    (earlier : Within first requests) (later : Within second others) :
    Within (first ++ second) (requests ++ others) := by
  obtain ⟨chosen, part, bounded⟩ := earlier
  obtain ⟨rest, piece, limited⟩ := later
  exact ⟨chosen ++ rest, part.append piece, List.rel_append bounded limited⟩

section

variable {bounds others : List Nat} {source : Source σ ε}

theorem asks_conclude {outcome : Outcome ε α} :
    Asks bounds (conclude outcome : Act σ ε α) (conclude outcome) := by
  rintro before _ _ earlier ⟨rfl, rfl⟩
  refine ⟨[], ⟨rfl, ?_⟩, within_nil bounds⟩
  simp [conclude]

theorem asks_pure {value : α} : Asks bounds (pure value : Act σ ε α) (pure value) :=
  asks_conclude

theorem asks_ofOption {error : ε} {value? : Option α} :
    Asks bounds (ofOption error value? : Act σ ε α) (ofOption error value?) := by
  cases value? with
  | some value => exact asks_pure
  | none => exact asks_conclude

/-- A read asks once, for as many bytes as it is to bring. -/
theorem asks_read {offset length bound : Nat} (fits : length ≤ bound) :
    Asks [bound] (source.read offset length) (source.recording.read offset length) := by
  intro before outcome after earlier ends
  refine ⟨[⟨offset, length⟩], ?_, [bound], List.Sublist.refl _, .cons fits .nil⟩
  exact (ends_bind_of_done ⟨rfl, rfl⟩).mpr (ends_zoom.mpr ⟨after, ends, rfl⟩)

/-- A guard in front of a walk asks for nothing. -/
theorem asks_require_bind {condition : Bool} {error : ε} {next : Unit → Act σ ε α}
    {following : Unit → Act (σ × List Request) ε α}
    (later : condition = true → Asks bounds (next ()) (following ())) :
    Asks bounds (require condition error >>= next) (require condition error >>= following) := by
  intro before outcome after earlier ends
  rcases ends_require_bind.mp ends with ⟨passed, ends⟩ | ⟨refused, rfl, rfl⟩
  · obtain ⟨requests, recording, within⟩ := later passed _ _ _ earlier ends
    exact ⟨requests, ends_require_bind.mpr (.inl ⟨passed, recording⟩), within⟩
  · refine ⟨[], ends_require_bind.mpr (.inr ⟨refused, rfl, ?_⟩), within_nil bounds⟩
    rw [List.append_nil]

theorem Asks.bind (bounds others : List Nat) {walk : Act σ ε α}
    {recorded : Act (σ × List Request) ε α} {next : α → Act σ ε β}
    {following : α → Act (σ × List Request) ε β} (first : Asks bounds walk recorded)
    (later : ∀ value, Asks others (next value) (following value)) :
    Asks (bounds ++ others) (walk >>= next) (recorded >>= following) := by
  intro before outcome after earlier ends
  rcases ends_bind.mp ends with ⟨value, middle, here, there⟩ | ⟨halt, here, halts⟩
  · obtain ⟨requests, recording, within⟩ := first _ _ _ earlier here
    obtain ⟨rest, further, limited⟩ := later value _ _ _ (earlier ++ requests) there
    refine ⟨requests ++ rest, ?_, within.append limited⟩
    rw [← List.append_assoc]
    exact ends_bind.mpr (.inl ⟨value, _, recording, further⟩)
  · obtain ⟨requests, recording, within⟩ := first _ _ _ earlier here
    refine ⟨requests, ends_bind.mpr (.inr ⟨halt, recording, halts⟩), ?_⟩
    simpa using within.append (within_nil others)

/-! ## Walks -/

/-- No read of the source is lost in a certain way, as long as an invariant holds that the reads
keep. -/
def Source.Avoids (source : Source σ ε) (loss : Loss) (holds : σ → Prop) : Prop :=
  ∀ offset length, (source.read offset length).Avoids loss holds

/-- How a walk through a table goes that was accepted: it asks for no more bytes than it may. If
the entries have a size, it is lost only if a read is. If they have none, the table is empty, and
the walk crashes where it starts. -/
structure Walks (bounds : List Nat) (source : Source σ ε) (table : Table) (walk : Act σ ε α)
    (recorded : Act (σ × List Request) ε α) : Prop where
  asks : Asks bounds walk recorded
  avoids : table.entrySize ≠ 0 → ∀ loss holds, source.Avoids loss holds → walk.Avoids loss holds
  crashes : table.entrySize = 0 → table.count = 0 ∧ ∀ before, walk.Ends before .crashed before

section

variable {table : Table} {walk : Act σ ε α} {recorded : Act (σ × List Request) ε α}

/-- What begins with a walk, if it is lost otherwise than by a read, crashes in an empty table
whose entries have no size, or is lost after the walk. -/
theorem Walks.bind_lost {loss : Loss} {holds : σ → Prop} {next : α → Act σ ε β} {before after : σ}
    {outcome : Outcome ε β} (walks : Walks bounds source table walk recorded)
    (reads : source.Avoids loss holds) (here : holds before)
    (ends : (walk >>= next).Ends before outcome after) (lost : outcome.loss? = some loss) :
    (loss = .crash ∧ table.entrySize = 0 ∧ table.count = 0) ∨
    ∃ value middle, walk.Ends before (.done value) middle ∧ holds middle ∧
      (next value).Ends middle outcome after := by
  by_cases sizeless : table.entrySize = 0
  · obtain ⟨empty, crashes⟩ := walks.crashes sizeless
    have crashed : (walk >>= next).Ends before .crashed before :=
      ends_bind.mpr (.inr ⟨.crashed, crashes before, .crashed⟩)
    obtain ⟨rfl, _⟩ := crashed.unique ends
    exact .inl ⟨(Option.some.inj lost).symm, sizeless, empty⟩
  · exact .inr ((walks.avoids sizeless _ _ reads).bind_lost here ends lost)

/-- What is done with the entries of a table does not change how the walk goes. -/
theorem Walks.bind (bounds others : List Nat) {next : α → Act σ ε β}
    {following : α → Act (σ × List Request) ε β}
    (walks : Walks bounds source table walk recorded)
    (asks : ∀ value, Asks others (next value) (following value))
    (avoids : ∀ value loss holds, source.Avoids loss holds → (next value).Avoids loss holds) :
    Walks (bounds ++ others) source table (walk >>= next) (recorded >>= following) where
  asks := walks.asks.bind _ _ asks
  avoids sized loss holds reads :=
    (walks.avoids sized loss holds reads).bind fun value => avoids value loss holds reads
  crashes sizeless := by
    obtain ⟨empty, crashes⟩ := walks.crashes sizeless
    exact ⟨empty, fun before => ends_bind.mpr (.inr ⟨.crashed, crashes before, .crashed⟩)⟩

end

/-- The walk through an acceptable table. -/
theorem readTable_walks {table : Table} {layout : Layout α}
    (acceptable : table.isAcceptable layout.size = true) (positive : 0 < layout.size) :
    Walks [Capacity.headerTable] source table (readTable source table layout)
      (readTable source.recording table layout) where
  asks := by
    have rest : ∀ bytes, Asks [] (if table.entrySize = 0 then crash
        else pure (layout.readMany table.count.toNat bytes) : Act σ ε (List α))
        (if table.entrySize = 0 then crash
          else pure (layout.readMany table.count.toNat bytes)) := by
      intro bytes
      split
      · exact asks_conclude
      · exact asks_pure
    unfold readTable
    dsimp only
    split
    · exact asks_pure.bind [Capacity.headerTable] [] rest
    · exact (asks_read (Table.length_le acceptable)).bind _ [] rest
  avoids sized loss holds reads := by
    simp only [readTable, sized, if_false]
    split
    · exact avoids_pure.bind fun _ => avoids_pure
    · exact (reads _ _).bind fun _ => avoids_pure
  crashes sizeless := by
    have empty := Table.count_of_entrySize acceptable positive sizeless
    refine ⟨empty, ?_⟩
    intro before
    simp only [readTable, empty, sizeless, if_true]
    exact ends_pure_bind.mpr ⟨rfl, rfl⟩

/-- How all walks go through the tables of an image with a certain header. -/
structure Walkable (source : Source σ ε) (header : FileHeader) : Prop where
  programs : Walks [Capacity.headerTable] source header.programs (programHeaders source header)
    (programHeaders source.recording header)
  sections : Walks [Capacity.headerTable] source header.sections (sectionHeaders source header)
    (sectionHeaders source.recording header)
  bss : Walks [Capacity.headerTable] source header.sections (bss? source header)
    (bss? source.recording header)
  named : ∀ name, Walks [Capacity.headerTable, Capacity.nameTable] source header.sections
    (sectionNamed? source header name) (sectionNamed? source.recording header name)

/-- **A header that was accepted can be walked.** No walk asks for more than the bytes of a table
and of the names, and one that is lost without a read being lost crashes, in an empty table whose
entries have no size. -/
theorem openImage_walkable {header : FileHeader} {before after : σ}
    (opening : (openImage source).Ends before (.done header) after) : Walkable source header := by
  obtain ⟨bytes, _, accepted⟩ := openImage_ends opening
  obtain ⟨_, _, _, _, programs, sections⟩ := FileHeader.parse_eq_ok.mp accepted
  have listed : Walks _ source header.sections (sectionHeaders source header) _ :=
    readTable_walks sections (by decide)
  refine ⟨readTable_walks programs (by decide), listed, ?_, ?_⟩
  · exact listed.bind _ [] (fun _ => asks_pure) fun _ _ _ _ => avoids_pure
  · intro name
    refine listed.bind _ [Capacity.nameTable] ?_ ?_
    · intro entries
      split
      · exact asks_pure
      · refine asks_ofOption.bind [] _ fun table => asks_require_bind ?_
        intro checked
        have fits : table.size.toNat ≤ Capacity.nameTable := by simpa using checked
        exact (asks_read fits).bind _ [] fun _ => asks_pure
    · intro entries loss holds reads
      split
      · exact avoids_pure
      · refine avoids_ofOption.bind fun table => avoids_require.bind fun _ => ?_
        exact (reads _ _).bind fun _ => avoids_pure

end

end Bootloader.Image
