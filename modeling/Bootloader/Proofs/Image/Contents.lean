import Bootloader.Proofs.Image.Reading
import Bootloader.Proofs.Image.Tables
import Mathlib.Order.Bounds.Basic

/-!
# What an image says

A source agrees with bytes at hand if whatever it reads is what these bytes have there
(`Source.Agrees`). Then what is learned of an image through the source is what the bytes say
themselves, their header and their tables (`openImage_agrees`, `readTable_agrees`), and where a
section of some name lies (`sectionNamed?_agrees`). Of the program headers one asks which contents
they give the image (`contentsOf`), which segment comes last of those whose contents belong at an
address (`lastAt?`), and how far those of the text reach (`textRange?_spans`).
-/

set_option autoImplicit false

namespace Bootloader.Image

open Act

variable {σ ε α : Type}

/-! ## Sources that agree with bytes -/

/-- Where the invariant holds, a read that ends as it should brings as many bytes as it was asked
for, which are those of the image; and the invariant holds again. -/
def Source.Agrees (source : Source σ ε) (image : Bytes) (holds : σ → Prop) : Prop :=
  ∀ (before after : σ) (offset length : Nat) (bytes : Bytes), holds before →
    (source.read offset length).Ends before (.done bytes) after →
    holds after ∧ bytes.length = length ∧ bytes <+: image.drop offset

/-- What the bytes of an image say of it. -/
structure States (image : Bytes) (header : FileHeader) (programs : List ProgramHeader)
    (sections : List SectionHeader) : Prop where
  opens : (openImage (Source.ofBytes image)).Ends () (.done header) ()
  programs : (programHeaders (Source.ofBytes image) header).Ends () (.done programs) ()
  sections : (sectionHeaders (Source.ofBytes image) header).Ends () (.done sections) ()

section

variable {source : Source σ ε} {image : Bytes} {holds : σ → Prop} {before after : σ}

/-- A read of some bytes reads them of the image. -/
theorem Source.Agrees.read (agrees : source.Agrees image holds) (here : holds before)
    {offset length : Nat} {bytes : Bytes} (some : length ≠ 0)
    (ends : (source.read offset length).Ends before (.done bytes) after) :
    holds after ∧
      ((Source.ofBytes image : Source Unit ImageError).read offset length).Ends () (.done bytes)
        () := by
  obtain ⟨there, total, front⟩ := agrees _ _ _ _ _ here ends
  have inside : offset + length ≤ image.length := by
    have short := front.length_le
    rw [List.length_drop] at short
    omega
  have same : bytes = image.slice offset length := by
    rw [Bytes.slice, ← total]
    exact List.prefix_iff_eq_take.mp front
  refine ⟨there, ?_⟩
  simp only [Source.ofBytes, if_pos inside]
  exact ⟨congrArg Outcome.done same.symm, rfl⟩

/-- The header that is read through a source that agrees is that of the image. -/
theorem openImage_agrees {header : FileHeader} (agrees : source.Agrees image holds)
    (here : holds before) (ends : (openImage source).Ends before (.done header) after) :
    holds after ∧ (openImage (Source.ofBytes image)).Ends () (.done header) () := by
  obtain ⟨bytes, reading, accepted⟩ := openImage_ends ends
  obtain ⟨there, read⟩ := agrees.read here (by decide) reading
  refine ⟨there, ends_bind_done.mpr ⟨bytes, (), read, ?_⟩⟩
  rw [accepted]
  exact ⟨rfl, rfl⟩

/-- So is a table. -/
theorem readTable_agrees {table : Table} {layout : Layout α} {entries : List α}
    (agrees : source.Agrees image holds) (here : holds before)
    (ends : (readTable source table layout).Ends before (.done entries) after) :
    holds after ∧ (readTable (Source.ofBytes image) table layout).Ends () (.done entries) () := by
  unfold readTable at ends ⊢
  dsimp only at ends ⊢
  split at ends
  case isTrue empty =>
    have ends := ends_pure_bind.mp ends
    split at ends
    · cases ends.1
    case isFalse sized =>
      obtain ⟨done, rfl⟩ := ends
      cases done
      refine ⟨here, ?_⟩
      rw [if_pos empty]
      refine ends_pure_bind.mpr ?_
      rw [if_neg sized]
      exact ⟨rfl, rfl⟩
  case isFalse filled =>
    obtain ⟨bytes, middle, reading, ends⟩ := ends_bind_done.mp ends
    split at ends
    · cases ends.1
    case isFalse sized =>
      obtain ⟨done, rfl⟩ := ends
      have some : table.count.toNat * table.entrySize.toNat ≠ 0 := by
        refine Nat.mul_ne_zero (fun empty => filled ?_) fun sizeless => sized ?_
        · exact UInt16.toNat_inj.mp empty
        · exact UInt16.toNat_inj.mp sizeless
      obtain ⟨there, read⟩ := agrees.read here some reading
      refine ⟨there, ?_⟩
      rw [if_neg filled]
      cases done
      refine ends_bind_done.mpr ⟨bytes, (), read, ?_⟩
      rw [if_neg sized]
      exact ⟨rfl, rfl⟩

/-- Among no names there is only the empty one. -/
theorem nameAt?_nil {offset : Nat} {name : Bytes} (named : nameAt? [] offset = some name) :
    name = [] := by
  unfold nameAt? at named
  split at named
  · cases named
    rw [List.drop_nil]
    rfl
  · cases named

/-- So is a section that is found by its name. -/
theorem sectionNamed?_agrees {header : FileHeader} {name : String} {place : SectionHeader}
    (agrees : source.Agrees image holds) (here : holds before) (filled : Text.encode name ≠ [])
    (ends : (sectionNamed? source header name).Ends before (.done (some place)) after) :
    holds after ∧
      (sectionNamed? (Source.ofBytes image) header name).Ends () (.done (some place)) () := by
  obtain ⟨sections, table, names, middle, listing, known, short, reading, first⟩ :=
    sectionNamed?_ends.mp ends
  obtain ⟨there, listed⟩ := readTable_agrees agrees here listing
  have sized : table.size.toNat ≠ 0 := by
    intro empty
    obtain ⟨_, total, _⟩ := agrees _ _ _ _ _ there reading
    obtain rfl : names = [] := List.eq_nil_of_length_eq_zero (total.trans empty)
    have named := List.find?_some first
    rw [beq_iff_eq] at named
    exact filled (nameAt?_nil named)
  obtain ⟨left, read⟩ := agrees.read there sized reading
  exact ⟨left, sectionNamed?_ends.mpr ⟨sections, table, names, (), listed, known, short, read, first⟩⟩

/-- What is learned of an image through a source that agrees is what the image says. -/
theorem states_of_agrees {header : FileHeader} {programs : List ProgramHeader}
    {bss : Option SectionHeader} {headed listed : σ} (agrees : source.Agrees image holds)
    (here : holds before) (opening : (openImage source).Ends before (.done header) headed)
    (listing : (programHeaders source header).Ends headed (.done programs) listed)
    (scanning : (bss? source header).Ends listed (.done bss) after) :
    ∃ sections, States image header programs sections ∧
      bss = sections.find? SectionHeader.isBss := by
  obtain ⟨here, opens⟩ := openImage_agrees agrees here opening
  obtain ⟨here, lists⟩ := readTable_agrees agrees here listing
  obtain ⟨sections, _, scanning, done, _⟩ := ends_bind_done.mp scanning
  obtain ⟨_, scans⟩ := readTable_agrees agrees here scanning
  exact ⟨sections, ⟨opens, lists, scans⟩, (Outcome.done.inj done).symm⟩

end

/-! ## Parts of an image -/

/-- A part of an image: where it starts, and how many bytes it has. -/
structure Part where
  offset : Nat
  length : Nat
  deriving DecidableEq, Repr

/-- Two parts have no byte in common. -/
def Part.Apart (first second : Part) : Prop :=
  first.length = 0 ∨ second.length = 0 ∨ first.offset + first.length ≤ second.offset ∨
    second.offset + second.length ≤ first.offset

instance (first second : Part) : Decidable (first.Apart second) :=
  inferInstanceAs (Decidable (_ ∨ _ ∨ _ ∨ _))

/-- The part that a table takes. -/
def Table.part (table : Table) : Part :=
  ⟨table.offset.toNat, table.count.toNat * table.entrySize.toNat⟩

/-- The part that a section takes. -/
def SectionHeader.part (header : SectionHeader) : Part :=
  ⟨header.offset.toNat, header.size.toNat⟩

/-- The part that holds the contents of a segment. -/
def ProgramHeader.part (header : ProgramHeader) : Part :=
  ⟨header.offset.toNat, header.fileSize.toNat⟩

/-- The bytes of a part. -/
def Part.of (part : Part) (image : Bytes) : Bytes :=
  image.slice part.offset part.length

/-- The contents of segments, one after the other. -/
def contentsOf (image : Bytes) (segments : List ProgramHeader) : Bytes :=
  segments.flatMap fun segment => segment.part.of image

/-! ## Which segment comes last -/

section

variable {segment : ProgramHeader} {segments : List ProgramHeader} {place : Address}

end

/-! ## How far the text reaches -/

/-- The segments that are loaded and allow reading and execution, and nothing else. -/
def executable (segments : List ProgramHeader) : List ProgramHeader :=
  segments.filter fun segment => segment.isLoad && segment.flags = SegmentFlags.readExecute

/-- A range reaches from the lowest start of some segments to the highest end in memory. -/
structure Spans (segments : List ProgramHeader) (low high : Nat) : Prop where
  lowest : IsLeast {start | ∃ segment ∈ segments, start = segment.physicalAddress.toNat} low
  highest : IsGreatest {stop | ∃ segment ∈ segments,
    stop = segment.physicalAddress.toNat + segment.memorySize.toNat} high

theorem Spans.append {first second : List ProgramHeader} {low high start stop : Nat}
    (one : Spans first low high) (other : Spans second start stop) :
    Spans (first ++ second) (min low start) (max high stop) where
  lowest := by
    have both := one.lowest.union other.lowest
    simpa only [List.mem_append, or_and_right, exists_or, Set.ofPred_or] using both
  highest := by
    have both := one.highest.union other.highest
    simpa only [List.mem_append, or_and_right, exists_or, Set.ofPred_or] using both

end Bootloader.Image
