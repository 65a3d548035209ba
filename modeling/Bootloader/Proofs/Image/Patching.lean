import Bootloader.Proofs.Image.Contents
import Bootloader.Proofs.Layout
import Bootloader.Proofs.Memory.Lawful

/-!
# Bytes laid over an image

Bytes that are laid over a part of an image leave its length and all other bytes as they were.
So whatever is read of the image through parts that are apart from that one (`Part.Apart`) is read
alike before and after: its header (`openImage_overlay`), its tables (`readTable_overlay`), and a
section that is found by its name (`sectionNamed?_overlay`).
-/

set_option autoImplicit false

namespace Bootloader

namespace Bytes

variable {bytes patch : Bytes} {offset : Nat}

/-- Where bytes were laid over others, they are found. -/
theorem slice_overlay_self (inside : offset + patch.length ≤ bytes.length) :
    (bytes.overlay offset patch).slice offset patch.length = patch := by
  have front : (bytes.take offset).length = offset := by
    rw [List.length_take]
    omega
  rw [slice, overlay, List.append_assoc, List.drop_left' front, List.take_left]

/-- The same bytes may be laid over others twice. -/
theorem overlay_overlay (inside : offset + patch.length ≤ bytes.length) :
    (bytes.overlay offset patch).overlay offset patch = bytes.overlay offset patch := by
  refine List.ext_getElem? fun index => ?_
  have still : offset + patch.length ≤ (bytes.overlay offset patch).length := by
    rwa [length_overlay inside]
  rw [Window.overlay_getElem? still, Window.overlay_getElem? inside, laidOver, laidOver]
  split
  · rfl
  · rfl

end Bytes

namespace Image

open Act

section

variable {image patch : Bytes} {offset : Nat}

/-- A part that is apart from the bytes that were laid over the image is as it was. -/
theorem Part.of_overlay {part : Part} (inside : offset + patch.length ≤ image.length)
    (apart : part.Apart ⟨offset, patch.length⟩) :
    part.of (image.overlay offset patch) = part.of image := by
  refine List.ext_getElem? fun index => ?_
  unfold Part.of Bytes.slice
  by_cases within : index < part.length
  · rw [List.getElem?_take_of_lt within, List.getElem?_take_of_lt within, List.getElem?_drop,
      List.getElem?_drop, Window.overlay_getElem? inside, laidOver, if_neg]
    simp only [Part.Apart] at apart
    omega
  · rw [List.getElem?_take_eq_none (by omega), List.getElem?_take_eq_none (by omega)]

/-- So it is read alike. -/
theorem read_overlay {σ : Type} {part : Part} (inside : offset + patch.length ≤ image.length)
    (apart : part.Apart ⟨offset, patch.length⟩) :
    (Source.ofBytes (image.overlay offset patch) : Source σ ImageError).read part.offset
      part.length = (Source.ofBytes image).read part.offset part.length := by
  have same : (image.overlay offset patch).slice part.offset part.length =
      image.slice part.offset part.length := Part.of_overlay inside apart
  simp only [Source.ofBytes, Bytes.length_overlay inside, same]

theorem openImage_overlay {σ : Type} (inside : offset + patch.length ≤ image.length)
    (apart : (Part.mk 0 FileHeader.layout.size).Apart ⟨offset, patch.length⟩) :
    (openImage (Source.ofBytes (image.overlay offset patch)) : Act σ ImageError FileHeader) =
      openImage (Source.ofBytes image) := by
  have same := read_overlay (σ := σ) inside apart
  dsimp only at same
  simp only [openImage, same]
  rfl

theorem readTable_overlay {σ α : Type} {table : Table} {layout : Layout α}
    (inside : offset + patch.length ≤ image.length)
    (apart : table.part.Apart ⟨offset, patch.length⟩) :
    (readTable (Source.ofBytes (image.overlay offset patch)) table layout :
      Act σ ImageError (List α)) = readTable (Source.ofBytes image) table layout := by
  have same := read_overlay (σ := σ) inside apart
  dsimp only [Table.part] at same
  simp only [readTable, same]

/-- A section that was found by its name still is, with the same header. -/
theorem sectionNamed?_overlay {header : FileHeader} {name : String}
    {sections : List SectionHeader} {names place : SectionHeader}
    (inside : offset + patch.length ≤ image.length)
    (listed : (sectionHeaders (Source.ofBytes image) header).Ends () (.done sections) ())
    (named : sections[header.nameSection.toNat]? = some names)
    (table : header.sections.part.Apart ⟨offset, patch.length⟩)
    (apart : names.part.Apart ⟨offset, patch.length⟩)
    (found : (sectionNamed? (Source.ofBytes image) header name).Ends () (.done (some place)) ()) :
    (sectionNamed? (Source.ofBytes (image.overlay offset patch)) header name).Ends ()
      (.done (some place)) () := by
  obtain ⟨others, other, bytes, _, again, known, short, read, first⟩ := sectionNamed?_ends.mp found
  cases (listed.unique again).1
  cases named.symm.trans known
  refine sectionNamed?_ends.mpr ⟨sections, names, bytes, (), ?_, named, short, ?_, first⟩
  · rw [sectionHeaders, readTable_overlay inside table]
    exact listed
  · have same := read_overlay (σ := Unit) inside apart
    dsimp only [SectionHeader.part] at same
    rw [same]
    exact read

end

end Image

end Bootloader
