import Bootloader.Image.Builder
import Bootloader.Proofs.Image.Tables
import Bootloader.Proofs.Layout
import Bootloader.Proofs.Text.Encoding
import Mathlib.Data.List.Forall2

/-!
# What was built is read back

The builder of an image works out all offsets before it emits a byte: where each part of the
image lies, where the contents of each segment and of each section, and where each name. The
reader follows these offsets back. Here the whole image is taken apart once: bytes hold a part at
an offset if something that is as long as the offset precedes it (`Bytes.Holds`), and what holds
two parts side by side holds each of them (`Holds.left`, `Holds.right`). So the parts of an image
lie where its header says (`Blueprint.laid`), parts that were put side by side lie at the offsets
that were worked out for them (`holds_offsetsFrom`), and each section header leads to its own name
and nothing else (`Blueprint.bears_of_holds`). As long as an image keeps to the limits of the reader
(`Blueprint.Admissible`), it is opened, lists its segments and its zeros, and has a section for
exactly the names that were given (`built_image_reads`).
-/

set_option autoImplicit false

namespace Bootloader

/-! ## Parts of bytes -/

/-- The bytes hold a part at an offset. -/
def Bytes.Holds (bytes : Bytes) (offset : Nat) (part : Bytes) : Prop :=
  ∃ front rest, bytes = front ++ (part ++ rest) ∧ front.length = offset

namespace Bytes.Holds

variable {bytes first second : Bytes} {offset : Nat}

theorem start (part rest : Bytes) : (part ++ rest).Holds 0 part :=
  ⟨[], rest, rfl, rfl⟩

theorem left (holds : bytes.Holds offset (first ++ second)) : bytes.Holds offset first := by
  obtain ⟨front, rest, rfl, length⟩ := holds
  exact ⟨front, second ++ rest, by rw [List.append_assoc first], length⟩

theorem right (holds : bytes.Holds offset (first ++ second)) :
    bytes.Holds (offset + first.length) second := by
  obtain ⟨front, rest, rfl, length⟩ := holds
  refine ⟨front ++ first, rest, ?_, ?_⟩
  · rw [List.append_assoc front, List.append_assoc first]
  · rw [List.length_append, length]

theorem inside (holds : bytes.Holds offset first) : offset + first.length ≤ bytes.length := by
  obtain ⟨front, rest, rfl, rfl⟩ := holds
  rw [List.length_append, List.length_append]
  omega

theorem drop (holds : bytes.Holds offset first) : ∃ rest, bytes.drop offset = first ++ rest := by
  obtain ⟨front, rest, rfl, rfl⟩ := holds
  exact ⟨rest, List.drop_left⟩

theorem slice (holds : bytes.Holds offset first) : bytes.slice offset first.length = first := by
  obtain ⟨rest, behind⟩ := holds.drop
  rw [Bytes.slice, behind, List.take_left]

end Bytes.Holds

namespace Image

open Act

/-- **Parts that lie side by side lie at the offsets that were worked out for them.** -/
theorem holds_offsetsFrom {α : Type} {bytes : Bytes} (part : α → Bytes) {items : List α}
    {start : Nat} (holds : bytes.Holds start (items.flatMap part)) :
    List.Forall₂ (fun item offset => bytes.Holds offset (part item)) items
      (offsetsFrom start (items.map part)) := by
  induction items generalizing start with
  | nil => exact .nil
  | cons item rest ih =>
      rw [List.flatMap_cons] at holds
      exact .cons holds.left (ih holds.right)

section

variable {α β γ : Type} {items : List α}

/-- What was made of two lists in step goes with the first of them. -/
theorem forall₂_zipWith {relation : α → β → Prop} {others : List β} (make : α → β → γ)
    (related : List.Forall₂ relation items others) :
    List.Forall₂ (fun item made => ∃ other, relation item other ∧ made = make item other) items
      (List.zipWith make items others) := by
  induction related with
  | nil => exact .nil
  | cons first _ ih => exact .cons ⟨_, first, rfl⟩ ih

theorem forall₂_zip {first : α → β → Prop} {second : α → γ → Prop} {ones : List β}
    {others : List γ} (left : List.Forall₂ first items ones)
    (right : List.Forall₂ second items others) :
    List.Forall₂ (fun item pair => first item pair.1 ∧ second item pair.2) items
      (ones.zip others) := by
  induction left generalizing others with
  | nil => exact .nil
  | cons here _ ih =>
      cases right with
      | cons there rest => exact .cons ⟨here, there⟩ (ih rest)

/-- Searched in step, two lists are both searched in vain or come upon a pair that belongs
together. -/
theorem find?_forall₂ {relation : α → β → Prop} {others : List β} {wanted : α → Bool}
    {found : β → Bool}
    (related : List.Forall₂ (fun item other => found other = wanted item ∧ relation item other)
      items others) :
    (items.find? wanted = none ∧ others.find? found = none) ∨
      ∃ item other, items.find? wanted = some item ∧ others.find? found = some other ∧
        relation item other := by
  induction related with
  | nil => exact .inl ⟨rfl, rfl⟩
  | @cons item other _ _ first _ ih =>
      cases here : wanted item with
      | true =>
          rw [List.find?_cons_of_pos here, List.find?_cons_of_pos (first.1.trans here)]
          exact .inr ⟨item, other, rfl, rfl, first.2⟩
      | false =>
          rw [List.find?_cons_of_neg (Bool.eq_false_iff.mp here),
            List.find?_cons_of_neg (Bool.eq_false_iff.mp (first.1.trans here))]
          exact ih

end

/-! ## Reading what lies in place -/

theorem exact_fileHeader : FileHeader.layout.Exact :=
  ((Layout.exact_field 16).both (Layout.exact_word16.both (Layout.exact_word16.both
    (Layout.exact_word32.both (Layout.exact_word32.both (Layout.exact_word32.both
      (Layout.exact_word32.both (Layout.exact_word32.both (Layout.exact_word16.both
        (Layout.exact_word16.both (Layout.exact_word16.both (Layout.exact_word16.both
          (Layout.exact_word16.both Layout.exact_word16))))))))))))).through fun _ => rfl

theorem exact_programHeader : ProgramHeader.layout.Exact :=
  (Layout.exact_word32.both (Layout.exact_word32.both (Layout.exact_word32.both
    (Layout.exact_word32.both (Layout.exact_word32.both (Layout.exact_word32.both
      (Layout.exact_word32.both Layout.exact_word32))))))).through fun _ => rfl

theorem exact_sectionHeader : SectionHeader.layout.Exact :=
  (Layout.exact_word32.both (Layout.exact_word32.both (Layout.exact_word32.both
    (Layout.exact_word32.both (Layout.exact_word32.both (Layout.exact_word32.both
      (Layout.exact_word32.both (Layout.exact_word32.both (Layout.exact_word32.both
        Layout.exact_word32))))))))).through fun _ => rfl

section

variable {σ α : Type} {bytes part : Bytes} {offset : Nat} {before : σ}

theorem read_ofBytes (holds : bytes.Holds offset part) :
    ((Source.ofBytes bytes : Source σ ImageError).read offset part.length).Ends before
      (.done part) before := by
  simp only [Source.ofBytes, if_pos holds.inside, holds.slice]
  exact ⟨rfl, rfl⟩

/-- A table whose entries lie in place is read back. -/
theorem readTable_ofBytes {table : Table} {layout : Layout α} {values : List α}
    (exact : layout.Exact) (holds : bytes.Holds table.offset.toNat (layout.writeMany values))
    (count : table.count.toNat = values.length) (size : table.entrySize.toNat = layout.size)
    (positive : layout.size ≠ 0) :
    (readTable (Source.ofBytes bytes : Source σ ImageError) table layout).Ends before
      (.done values) before := by
  have length : (layout.writeMany values).length = table.count.toNat * table.entrySize.toNat := by
    rw [exact.length_writeMany, count, size]
  have entries : layout.readMany values.length (layout.writeMany values) = values := by
    have whole := exact.readMany_writeMany values []
    rwa [List.append_nil] at whole
  have walked : (if table.entrySize = 0 then crash
      else pure (layout.readMany table.count.toNat (layout.writeMany values)) :
        Act σ ImageError (List α)).Ends before (.done values) before := by
    have walkable : table.entrySize ≠ 0 := by
      rintro zero
      rw [zero] at size
      exact positive size.symm
    rw [if_neg walkable, count, entries]
    exact ⟨rfl, rfl⟩
  unfold readTable
  dsimp only
  split
  · rename_i none
    have empty : layout.writeMany values = [] := by
      rw [none] at count
      rw [List.eq_nil_of_length_eq_zero count.symm]
      rfl
    rw [empty] at walked
    exact ends_bind_done.mpr ⟨[], before, ⟨rfl, rfl⟩, walked⟩
  · rw [← length]
    exact ends_bind_done.mpr ⟨_, before, read_ofBytes holds, walked⟩

end

theorem toNat_saturate32 {number : Nat} (small : number < UInt32.size) :
    (saturate32 number).toNat = number := by
  rw [saturate32, Nat.min_eq_left (by omega), UInt32.toNat_ofNat_of_lt' small]

theorem toNat_orZero16 {number : Nat} (small : number < UInt16.size) :
    (orZero16 number).toNat = number := by
  rw [orZero16, if_pos small, UInt16.toNat_ofNat_of_lt' small]

namespace Blueprint

variable {blueprint : Blueprint}

/-! ## Where the parts of an image lie -/

/-- Everything lies where the header of the image says. -/
structure Laid (blueprint : Blueprint) : Prop where
  header : blueprint.build.Holds 0 (FileHeader.layout.write blueprint.fileHeader)
  programs : blueprint.build.Holds FileHeader.layout.size
    (ProgramHeader.layout.writeMany blueprint.segmentHeaders)
  segments : blueprint.build.Holds blueprint.contentsOffset blueprint.segmentBytes
  contents : blueprint.build.Holds blueprint.sectionsOffset blueprint.sectionBytes
  names : blueprint.build.Holds blueprint.namesOffset blueprint.nameTable
  sections : blueprint.build.Holds blueprint.sectionTableOffset
    (SectionHeader.layout.writeMany blueprint.sectionHeaders)

theorem length_offsetsFrom (start : Nat) (parts : List Bytes) :
    (offsetsFrom start parts).length = parts.length := by
  induction parts generalizing start with
  | nil => rfl
  | cons part rest ih => rw [offsetsFrom, List.length_cons, ih, List.length_cons]

theorem length_segmentHeaders (blueprint : Blueprint) :
    blueprint.segmentHeaders.length = blueprint.segments.length := by
  rw [segmentHeaders, List.length_zipWith, length_offsetsFrom, List.length_map, Nat.min_self]

/-- **The parts of an image lie where its header says.** -/
theorem laid (blueprint : Blueprint) : blueprint.Laid := by
  have head := exact_fileHeader.length_write blueprint.fileHeader
  have programs := exact_programHeader.length_writeMany blueprint.segmentHeaders
  rw [length_segmentHeaders] at programs
  have front : (FileHeader.layout.write blueprint.fileHeader ++
      ProgramHeader.layout.writeMany blueprint.segmentHeaders ++ blueprint.segmentBytes ++
      blueprint.sectionBytes ++ blueprint.nameTable).length =
      blueprint.namesOffset + blueprint.nameTable.length := by
    simp only [List.length_append, head, programs, namesOffset, sectionsOffset, contentsOffset]
  have room : blueprint.namesOffset + blueprint.nameTable.length ≤
      blueprint.sectionTableOffset := by
    rw [sectionTableOffset]
    omega
  have gap : (blueprint.nameTable ++ List.replicate (blueprint.sectionTableOffset -
      (blueprint.namesOffset + blueprint.nameTable.length)) 0).length =
      blueprint.sectionTableOffset - blueprint.namesOffset := by
    rw [List.length_append, List.length_replicate]
    omega
  have whole : blueprint.build.Holds 0 (FileHeader.layout.write blueprint.fileHeader ++
      (ProgramHeader.layout.writeMany blueprint.segmentHeaders ++ (blueprint.segmentBytes ++
        (blueprint.sectionBytes ++ ((blueprint.nameTable ++
          List.replicate (blueprint.sectionTableOffset -
            (blueprint.namesOffset + blueprint.nameTable.length)) 0) ++
          SectionHeader.layout.writeMany blueprint.sectionHeaders))))) := by
    refine ⟨[], [], ?_, rfl⟩
    rw [build, Bytes.resize_of_length_le (by rw [front]; exact room), front]
    simp only [List.append_assoc, List.append_nil, List.nil_append]
  have afterHead := whole.right
  rw [head, Nat.zero_add] at afterHead
  have afterPrograms := afterHead.right
  rw [programs] at afterPrograms
  have afterSegments := afterPrograms.right
  have afterContents := afterSegments.right
  have afterNames := afterContents.right
  rw [gap] at afterNames
  have last : blueprint.namesOffset + (blueprint.sectionTableOffset - blueprint.namesOffset) =
      blueprint.sectionTableOffset := by
    omega
  exact
    { header := whole.left
      programs := afterHead.left
      segments := afterPrograms.left
      contents := afterSegments.left
      names := afterContents.left.left
      sections := last ▸ afterNames }

/-! ## What each header stands for -/

/-- Each program header is that of its segment, whose contents lie where it says. -/
theorem Laid.segmentHeaders (laid : blueprint.Laid) :
    List.Forall₂ (fun segment header => ∃ offset,
        blueprint.build.Holds offset segment.contents ∧ header = segment.header offset)
      blueprint.segments blueprint.segmentHeaders :=
  forall₂_zipWith Segment.header (holds_offsetsFrom Segment.contents laid.segments)

/-- The table of names has the name of each section, behind the two that are always there. -/
theorem holds_titles (blueprint : Blueprint) :
    blueprint.nameTable.Holds fixedNames.length
      (blueprint.sections.flatMap fun entry => terminated entry.1) :=
  ⟨fixedNames, terminated ".shstrtab", List.append_assoc _ _ _, rfl⟩

/-- Each header of a named section leads to its name and to its contents. -/
theorem Laid.namedHeaders (laid : blueprint.Laid) :
    List.Forall₂ (fun entry header => ∃ place : Nat × Nat,
        (blueprint.nameTable.Holds place.1 (terminated entry.1) ∧
          blueprint.build.Holds place.2 entry.2) ∧
        header = plainSection (saturate32 place.1) contentsKind 0 0 (saturate32 place.2)
          (saturate32 entry.2.length))
      blueprint.sections blueprint.namedHeaders :=
  forall₂_zipWith _ (forall₂_zip
    (holds_offsetsFrom (fun entry => terminated entry.1) blueprint.holds_titles)
    (holds_offsetsFrom Prod.snd laid.contents))

/-! ## Names -/

theorem encode_injective {text other : String} (same : Text.encode text = Text.encode other) :
    text = other := by
  rw [← Text.validPrefix_encode text, same, Text.validPrefix_encode]

/-- The section with this header has a title. -/
def Bears (names : Bytes) (header : SectionHeader) (title : String) : Prop :=
  nameAt? names header.name.toNat = some (Text.encode title)

/-- A header that leads to a title and the zero behind it bears that title, and no longer one. -/
theorem bears_of_holds {names : Bytes} {header : SectionHeader} {title : String}
    (holds : names.Holds header.name.toNat (terminated title))
    (nonzero : (0 : UInt8) ∉ Text.encode title) : Bears names header title := by
  have inside := holds.inside
  obtain ⟨rest, behind⟩ := holds.drop
  rw [terminated, List.append_assoc] at behind
  rw [Bears, nameAt?, if_pos (by omega), behind]
  exact congrArg some (Text.beforeZero_append nonzero rest)

/-- Whether a search for a name stops at the section with this header. -/
def isNamed (names : Bytes) (name : String) (header : SectionHeader) : Bool :=
  nameAt? names header.name.toNat == some (Text.encode name)

/-- A search for a name stops at the sections that bear it. -/
theorem Bears.isNamed {names : Bytes} {header : SectionHeader} {title : String}
    (bears : Bears names header title) (name : String) :
    isNamed names name header = (title == name) := by
  rw [Blueprint.isNamed, bears, Option.some_beq_some, Bool.eq_iff_iff, beq_iff_eq, beq_iff_eq]
  exact ⟨encode_injective, congrArg Text.encode⟩

theorem bears_empty (blueprint : Blueprint) : Bears blueprint.nameTable emptySection "" := by
  have empty : terminated "" = [0] := by decide +kernel
  refine bears_of_holds ⟨[], terminated ".bss" ++ ((blueprint.sections.flatMap fun entry =>
    terminated entry.1) ++ terminated ".shstrtab"), ?_, rfl⟩ (by decide +kernel)
  rw [nameTable, fixedNames, empty, List.append_assoc]
  rfl

theorem bears_bss {header : SectionHeader} (member : header ∈ blueprint.bssHeaders) :
    Bears blueprint.nameTable header ".bss" := by
  have name : header.name = 1 := by
    rw [bssHeaders] at member
    split at member
    · rw [List.mem_singleton.mp member]
      rfl
    · cases member
  refine bears_of_holds ⟨[0], (blueprint.sections.flatMap fun entry => terminated entry.1) ++
    terminated ".shstrtab", ?_, ?_⟩ (by decide +kernel)
  · rw [nameTable, fixedNames, List.append_assoc]
    rfl
  · rw [name]
    rfl

theorem bears_names (short : blueprint.nameTable.length < UInt32.size) :
    Bears blueprint.nameTable blueprint.namesHeader ".shstrtab" := by
  have place : (saturate32 (blueprint.nameTable.length -
      (terminated ".shstrtab").length)).toNat =
      (fixedNames ++ blueprint.sections.flatMap fun entry => terminated entry.1).length := by
    rw [toNat_saturate32 (by omega), nameTable, List.length_append, Nat.add_sub_cancel]
  refine bears_of_holds ⟨fixedNames ++ blueprint.sections.flatMap fun entry =>
    terminated entry.1, [], ?_, place.symm⟩ (by decide +kernel)
  rw [List.append_nil]
  rfl

/-! ## Within the limits of the reader -/

/-- What is built keeps to the limits of the reader, and has proper names for its sections. -/
structure Admissible (blueprint : Blueprint) : Prop where
  segments : blueprint.segments.length ≤ 512
  sections : blueprint.sectionHeaders.length ≤ 409
  names : blueprint.nameTable.length ≤ Capacity.nameTable
  size : blueprint.build.length < UInt32.size
  titles : ∀ entry ∈ blueprint.sections, entry.1 ≠ "" ∧ (0 : UInt8) ∉ Text.encode entry.1

/-- The contents that were given first under a name. -/
def first? (blueprint : Blueprint) (name : String) : Option Bytes :=
  (blueprint.sections.find? fun entry => entry.1 == name).map Prod.snd

/-- A segment as its program header tells of it. -/
structure Describes (header : ProgramHeader) (segment : Segment) : Prop where
  isLoad : header.isLoad = true
  virtualAddress : header.virtualAddress = segment.virtualAddress
  physicalAddress : header.physicalAddress = segment.physicalAddress
  fileSize : header.fileSize.toNat = segment.contents.length
  memorySize : header.memorySize = segment.memorySize
  flags : header.flags = segment.flags

/-- Through its header, an image shows what it was built from. -/
structure Shows {σ : Type} (source : Source σ ImageError) (header : FileHeader) (before : σ)
    (blueprint : Blueprint) : Prop where
  entry : header.entry = blueprint.entry
  segments : ∃ headers, (programHeaders source header).Ends before (.done headers) before ∧
    List.Forall₂ (fun segment header => Describes header segment ∧
        (source.read header.offset.toNat header.fileSize.toNat).Ends before
          (.done segment.contents) before)
      blueprint.segments headers
  bss : ∃ zeros?, (bss? source header).Ends before (.done zeros?) before ∧
    zeros?.map (fun place => (place.address, place.size)) = blueprint.bss
  named : ∀ name contents, blueprint.first? name = some contents →
    (name = ".bss" → blueprint.bss = none) →
    ∃ place, (sectionNamed? source header name).Ends before (.done (some place)) before ∧
      place.size.toNat = contents.length ∧
      (source.read place.offset.toNat place.size.toNat).Ends before (.done contents) before
  unnamed : ∀ name, name ≠ "" → blueprint.first? name = none → name ≠ ".bss" →
    name ≠ ".shstrtab" → (sectionNamed? source header name).Ends before (.done none) before

section

variable {σ : Type} {before : σ}

theorem Admissible.holds_lt {part : Bytes} {offset : Nat} (admissible : blueprint.Admissible)
    (holds : blueprint.build.Holds offset part) :
    offset < UInt32.size ∧ part.length < UInt32.size := by
  have inside := holds.inside
  have size := admissible.size
  omega

/-- The header of an admissible image is accepted. -/
theorem Admissible.opens (admissible : blueprint.Admissible) :
    (openImage (Source.ofBytes blueprint.build : Source σ ImageError)).Ends before
      (.done blueprint.fileHeader) before := by
  have length := exact_fileHeader.length_write blueprint.fileHeader
  have read : FileHeader.layout.read (FileHeader.layout.write blueprint.fileHeader) =
      blueprint.fileHeader := by
    have whole := exact_fileHeader.read_write blueprint.fileHeader []
    rwa [List.append_nil] at whole
  have segments := admissible.segments
  have sections := admissible.sections
  have programCount : blueprint.fileHeader.programs.count.toNat = blueprint.segments.length :=
    toNat_orZero16 (Nat.lt_of_le_of_lt segments (by decide))
  have sectionCount : blueprint.fileHeader.sections.count.toNat =
      blueprint.sectionHeaders.length :=
    toNat_orZero16 (Nat.lt_of_le_of_lt sections (by decide))
  have programSize : blueprint.fileHeader.programs.entrySize.toNat = 32 := by
    show (orZero16 _).toNat = 32
    decide
  have sectionSize : blueprint.fileHeader.sections.entrySize.toNat = 40 := by
    show (orZero16 _).toNat = 40
    decide
  have accepted : FileHeader.parse (FileHeader.layout.write blueprint.fileHeader) =
      .ok blueprint.fileHeader := by
    refine FileHeader.parse_eq_ok.mpr ⟨Nat.le_of_eq length.symm, read.symm, rfl, rfl, ?_, ?_⟩
    · refine Table.isAcceptable_iff.mpr (.inr ⟨programSize, ?_⟩)
      rw [programCount, programSize, Capacity.headerTable]
      omega
    · refine Table.isAcceptable_iff.mpr (.inr ⟨sectionSize, ?_⟩)
      rw [sectionCount, sectionSize, Capacity.headerTable]
      omega
  refine ends_bind_done.mpr ⟨_, before, length ▸ read_ofBytes blueprint.laid.header, ?_⟩
  rw [accepted]
  exact ⟨rfl, rfl⟩

/-- Its program headers are listed. -/
theorem Admissible.lists (admissible : blueprint.Admissible) :
    (programHeaders (Source.ofBytes blueprint.build : Source σ ImageError)
      blueprint.fileHeader).Ends before (.done blueprint.segmentHeaders) before := by
  have count : blueprint.fileHeader.programs.count.toNat = blueprint.segmentHeaders.length := by
    rw [length_segmentHeaders]
    exact toNat_orZero16 (Nat.lt_of_le_of_lt admissible.segments (by decide))
  have offset : blueprint.fileHeader.programs.offset.toNat = FileHeader.layout.size :=
    toNat_saturate32 (by decide)
  exact readTable_ofBytes exact_programHeader (offset ▸ blueprint.laid.programs) count
    (toNat_orZero16 (by decide)) (by decide)

/-- So are its section headers. -/
theorem Admissible.listsSections (admissible : blueprint.Admissible) :
    (Image.sectionHeaders (Source.ofBytes blueprint.build : Source σ ImageError)
      blueprint.fileHeader).Ends before (.done blueprint.sectionHeaders) before := by
  have offset : blueprint.fileHeader.sections.offset.toNat = blueprint.sectionTableOffset :=
    toNat_saturate32 (admissible.holds_lt blueprint.laid.sections).1
  exact readTable_ofBytes exact_sectionHeader (offset ▸ blueprint.laid.sections)
    (toNat_orZero16 (Nat.lt_of_le_of_lt admissible.sections (by decide)))
    (toNat_orZero16 (by decide)) (by decide)

/-- A search by name goes through the section headers, and takes their names from the table that
was built for them. -/
theorem Admissible.searches (admissible : blueprint.Admissible) (name : String) (before : σ) :
    (sectionNamed? (Source.ofBytes blueprint.build : Source σ ImageError)
      blueprint.fileHeader name).Ends before (.done (blueprint.sectionHeaders.find?
        (isNamed blueprint.nameTable name))) before := by
  have names := blueprint.laid.names
  have small := admissible.holds_lt names
  have offset : blueprint.namesHeader.offset.toNat = blueprint.namesOffset :=
    toNat_saturate32 small.1
  have size : blueprint.namesHeader.size.toNat = blueprint.nameTable.length :=
    toNat_saturate32 small.2
  have index : blueprint.fileHeader.nameSection.toNat = blueprint.sectionHeaders.length - 1 :=
    toNat_orZero16 (Nat.lt_of_le_of_lt (Nat.sub_le _ _)
      (Nat.lt_of_le_of_lt admissible.sections (by decide)))
  have last : blueprint.sectionHeaders[blueprint.fileHeader.nameSection.toNat]? =
      some blueprint.namesHeader := by
    rw [index, ← List.getLast?_eq_getElem?, sectionHeaders, List.getLast?_cons,
      List.getLast?_append]
    rfl
  unfold sectionNamed?
  refine ends_bind_done.mpr ⟨_, before, admissible.listsSections, ?_⟩
  rw [if_neg (by rw [sectionHeaders]; exact Bool.false_ne_true)]
  refine ends_ofOption_bind.mpr (.inl ⟨_, last, ?_⟩)
  refine ends_require_bind.mpr (.inl ⟨decide_eq_true ?_, ?_⟩)
  · rw [size]
    exact admissible.names
  · rw [offset, size]
    exact ends_bind_done.mpr ⟨_, before, read_ofBytes names, rfl, rfl⟩

/-- The search passes by the empty section and by the zeros. -/
theorem find?_sectionHeaders {name : String} (given : name ≠ "")
    (other : name = ".bss" → blueprint.bss = none) :
    blueprint.sectionHeaders.find? (isNamed blueprint.nameTable name) =
      (blueprint.namedHeaders.find? (isNamed blueprint.nameTable name)).or
        ([blueprint.namesHeader].find? (isNamed blueprint.nameTable name)) := by
  have empty : ¬isNamed blueprint.nameTable name emptySection := by
    rw [(bears_empty blueprint).isNamed name, beq_iff_eq]
    exact given.symm
  have zeros : blueprint.bssHeaders.find? (isNamed blueprint.nameTable name) = none := by
    refine List.find?_eq_none.mpr fun header member => ?_
    rw [(bears_bss member).isNamed name, beq_iff_eq]
    rintro rfl
    rw [bssHeaders, other rfl] at member
    cases member
  rw [sectionHeaders, List.find?_cons_of_neg empty, List.append_assoc, List.find?_append, zeros,
    Option.none_or, List.find?_append]

/-- The only section of zeros is the one that was given. -/
theorem find?_isBss (blueprint : Blueprint) :
    (blueprint.sectionHeaders.find? SectionHeader.isBss).map
      (fun place => (place.address, place.size)) = blueprint.bss := by
  have named : ∀ header ∈ blueprint.namedHeaders, header.isBss = false := by
    intro header member
    obtain ⟨index, here⟩ := List.mem_iff_getElem?.mp member
    obtain ⟨entry, place, _, _, rfl⟩ := List.getElem?_zipWith_eq_some.mp here
    rfl
  cases given : blueprint.bss with
  | some zeros =>
      obtain ⟨address, size⟩ := zeros
      have empty : ¬emptySection.isBss := by decide
      have first : (plainSection 1 noBitsKind (writeFlag ||| allocateFlag) address
          (saturate32 blueprint.namesOffset) size).isBss := by
        simp [SectionHeader.isBss, plainSection, writeFlag, allocateFlag]
      rw [sectionHeaders, bssHeaders, given, List.find?_cons_of_neg empty, List.append_assoc,
        List.singleton_append, List.find?_cons_of_pos first]
      rfl
  | none =>
      have absent : blueprint.sectionHeaders.find? SectionHeader.isBss = none := by
        rw [sectionHeaders, bssHeaders, given]
        refine List.find?_eq_none.mpr fun header member => Bool.eq_false_iff.mp ?_
        rcases List.mem_cons.mp member with rfl | member
        · rfl
        rcases List.mem_append.mp member with member | member
        · exact named header member
        · rw [List.mem_singleton.mp member]
          rfl
      rw [absent]
      rfl

/-- Among the named sections, the search finds the first one that was given under the name. -/
theorem Admissible.find?_namedHeaders (admissible : blueprint.Admissible) (name : String) :
    (blueprint.first? name = none ∧
        blueprint.namedHeaders.find? (isNamed blueprint.nameTable name) = none) ∨
      ∃ contents place, blueprint.first? name = some contents ∧
        blueprint.namedHeaders.find? (isNamed blueprint.nameTable name) = some place ∧
        place.size.toNat = contents.length ∧
        blueprint.build.Holds place.offset.toNat contents := by
  have related : List.Forall₂ (fun entry header =>
      isNamed blueprint.nameTable name header = (entry.1 == name) ∧
        header.size.toNat = entry.2.length ∧
        blueprint.build.Holds header.offset.toNat entry.2)
      blueprint.sections blueprint.namedHeaders := by
    have proper : ∀ entry ∈ blueprint.sections, (0 : UInt8) ∉ Text.encode entry.1 :=
      fun entry member => (admissible.titles entry member).2
    refine ((List.forall₂_and_left _ _).mpr ⟨proper, blueprint.laid.namedHeaders⟩).imp ?_
    rintro entry header ⟨nonzero, place, ⟨title, contents⟩, rfl⟩
    have small := admissible.holds_lt contents
    have short : place.1 < UInt32.size :=
      Nat.lt_of_le_of_lt (Nat.le_trans (Nat.le_of_add_right_le title.inside) admissible.names)
        (by decide)
    refine ⟨Bears.isNamed (bears_of_holds ?_ nonzero) name, toNat_saturate32 small.2, ?_⟩
    · show blueprint.nameTable.Holds (saturate32 place.1).toNat _
      rw [toNat_saturate32 short]
      exact title
    · show blueprint.build.Holds (saturate32 place.2).toNat _
      rw [toNat_saturate32 small.1]
      exact contents
  rcases find?_forall₂ related with ⟨none, found⟩ | ⟨entry, place, some, found, size, contents⟩
  · exact .inl ⟨by rw [first?, none]; rfl, found⟩
  · exact .inr ⟨entry.2, place, by rw [first?, some]; rfl, found, size, contents⟩

/-- **An image within the limits of the reader shows what it was built from**: its entry point, its
segments in order and with their contents, its zeros, and under each name the section that was
given first. No other name leads to a section, apart from those that the builder adds itself. -/
theorem built_image_reads (admissible : blueprint.Admissible) (before : σ) :
    ∃ header, (openImage (Source.ofBytes blueprint.build : Source σ ImageError)).Ends before
        (.done header) before ∧
      Shows (Source.ofBytes blueprint.build) header before blueprint := by
  refine ⟨blueprint.fileHeader, admissible.opens, rfl, ⟨_, admissible.lists, ?_⟩, ?_, ?_, ?_⟩
  · refine blueprint.laid.segmentHeaders.imp ?_
    rintro segment header ⟨offset, holds, rfl⟩
    have small := admissible.holds_lt holds
    have place : (segment.header offset).offset.toNat = offset := toNat_saturate32 small.1
    have size : (segment.header offset).fileSize.toNat = segment.contents.length :=
      toNat_saturate32 small.2
    refine ⟨⟨rfl, rfl, rfl, size, rfl, rfl⟩, ?_⟩
    rw [place, size]
    exact read_ofBytes holds
  · exact ⟨_, ends_bind_done.mpr ⟨_, before, admissible.listsSections, rfl, rfl⟩,
      blueprint.find?_isBss⟩
  · intro name contents given other
    have nonempty : name ≠ "" := by
      rintro rfl
      obtain ⟨entry, found, _⟩ := Option.map_eq_some_iff.mp given
      have title := List.find?_some (p := fun entry : String × Bytes => entry.1 == "") found
      exact (admissible.titles entry (List.mem_of_find?_eq_some found)).1 (beq_iff_eq.mp title)
    rcases admissible.find?_namedHeaders name with
      ⟨absent, _⟩ | ⟨same, place, first, found, size, holds⟩
    · rw [absent] at given
      cases given
    · rw [first] at given
      cases given
      have search := admissible.searches name before
      rw [find?_sectionHeaders nonempty other, found, Option.some_or] at search
      refine ⟨place, search, size, ?_⟩
      rw [size]
      exact read_ofBytes holds
  · intro name nonempty absent zeros names
    have search := admissible.searches name before
    have last : ¬isNamed blueprint.nameTable name blueprint.namesHeader := by
      rw [(bears_names (Nat.lt_of_le_of_lt admissible.names (by decide))).isNamed name, beq_iff_eq]
      exact names.symm
    rcases admissible.find?_namedHeaders name with ⟨_, passed⟩ | ⟨_, _, given, _⟩
    · rwa [find?_sectionHeaders nonempty fun same => absurd same zeros, passed, Option.none_or,
        List.find?_cons_of_neg last, List.find?_nil] at search
    · rw [absent] at given
      cases given

/-- An image with two sections of one name, and one whose name begins in the same way. -/
def twiceNamed : Blueprint where
  entry := 0x80000000
  segments := [.readExecute 0x80000000 [1, 2, 3, 4], .readWrite 0x80010000 [5] 0x20]
  bss := some (0x80010020, 0x4000)
  sections := [(".signature", [6, 7]), (".sign", []), (".signature", [8])]

theorem built_image_reads_twiceNamed : twiceNamed.Admissible ∧
    ∃ header, (openImage (Source.ofBytes twiceNamed.build : Source Unit ImageError)).Ends ()
        (.done header) () ∧
      Shows (Source.ofBytes twiceNamed.build) header () twiceNamed := by
  have admissible : twiceNamed.Admissible :=
    ⟨by decide, by decide, by decide +kernel, by decide +kernel, by decide +kernel⟩
  exact ⟨admissible, built_image_reads admissible ()⟩

end

end Blueprint

end Image

end Bootloader
