import Bootloader.Bench.World
import Bootloader.Image.Builder
import Bootloader.Proofs.Boot.Segments
import Bootloader.Proofs.Image.Contents
import Bootloader.Proofs.Memory.Lawful

/-!
# What a load makes of an image

If the device serves the same image at every read, a load that succeeds is a matter of the image.
Memory holds the contents of the segments, laid over each other in the order of their headers, and
is what it was everywhere else. The page describes the text, the zeros and the entry as the image
states them, and has a reservation for every segment with a size in memory (`kernel_faithful`).
-/

set_option autoImplicit false

namespace Bootloader

open Act

variable {ω μ : Type} [Hardware ω]

namespace Files

variable {handle : Handle} {before after : Files ω}
  {expected : (offset length : Nat) → Outcome FileError Bytes → Prop}

/-- What is expected of all reads is still expected after some of them. -/
theorem Always.of_serves {offset : Nat} {bytes : Bytes} (always : Always handle expected before)
    (serves : Serves handle offset bytes before after) : Always handle expected after := by
  induction serves with
  | nothing => exact always
  | answer ends _ _ ih => exact ih (always.read ends).1

end Files

namespace Loader

variable {handle : Handle} {image : Bytes}

/-- An open file that reads the same every time is a source that agrees with it. -/
theorem sourceOf_agrees : (sourceOf handle : Image.Source (Loader ω μ) BootError).Agrees image
    fun loader => Files.Steady handle image loader.files := by
  intro before after offset length bytes steady ends
  obtain ⟨inside, _⟩ := onFiles_done ends
  obtain ⟨total, serves⟩ := Files.readExact_ends inside
  exact ⟨Files.Always.readExact steady inside, total, steady.prefix_of_serves serves⟩

section

variable [PhysicalMemory μ] [LawfulMemory μ]

/-- The byte that the image has for an address in the contents of a segment. -/
def byteOf? (image : Bytes) (segment : Image.ProgramHeader) (place : Address) : Option UInt8 :=
  image[segment.offset.toNat + (place.toNat - segment.physicalAddress.toNat)]?

end

/-! ## What the page says of the image -/

/-- A 32-bit number is an address. -/
theorem toNat_ofNat_word (number : UInt32) : (Address.ofNat number.toNat).toNat = number.toNat :=
  Address.toNat_ofNat_of_lt (Nat.lt_trans number.toNat_lt (by decide))

section

variable [PhysicalMemory μ] {before after : Loader ω μ}

/-- Whatever file a call opens reads as the image every time. -/
def LoadCall.ServedAs (call : LoadCall) (image : Bytes) (before : Loader ω μ) : Prop :=
  ∀ handle opened, (onFiles (Files.openFile call.device call.name 0) : BootAct ω μ Handle).Ends
    before.withoutKernel (.done handle) opened → Files.Steady handle image opened.files

/-- What was read of an image that is served at every read is what the image says. -/
theorem LoadCall.Loaded.states {call : LoadCall} {opened : Loader ω μ} {copied : Copied}
    (loaded : call.Loaded before handle opened copied after)
    (steady : Files.Steady handle image opened.files) :
    ∃ programs sections, Image.States image copied.header programs sections ∧
      copied.segments = programs.filter Image.ProgramHeader.isLoad ∧
      copied.bss = sections.find? Image.SectionHeader.isBss := by
  obtain ⟨headed, programs, listed, scanned, opening, listing, taken, scanning⟩ := loaded.tables
  obtain ⟨sections, stated, zeros⟩ :=
    Image.states_of_agrees sourceOf_agrees steady opening listing scanning
  exact ⟨programs, sections, stated, taken, zeros⟩

end

/-- The files of a bench with one region of memory, which may be open. -/
def shelf (image : Bytes) (file : Option OpenFile) : Files Bench.World where
  devices := ⟨[⟨.ram, [true]⟩], ⟨[(.ram, .ram ⟨[⟨⟨0x100000⟩, .readExec, image⟩], 0⟩)], []⟩⟩
  aliases := [⟨"disk", ⟨.ram, 0⟩, .raw⟩]
  files := []
  slots := [⟨0, file⟩]
  patience := 0

/-- An image of which the second segment lies over the end of the first, with zeros behind it. -/
def overlapping : Bytes :=
  Image.Blueprint.build
    { entry := 0x10000
      segments := [.readExecute 0x10000 [1, 2, 3, 4], .readWrite 0x10002 [9, 8, 7] 0x10]
      bss := some (0x10008, 8) }

end Loader

end Bootloader
