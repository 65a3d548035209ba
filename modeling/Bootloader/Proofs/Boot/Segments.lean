import Bootloader.Proofs.Boot.Loading
import Bootloader.Proofs.Boot.Placing

/-!
# Where a load of a kernel writes

A load writes at addresses that the image asks for. However it ends, everything that it writes is
the contents of a segment of the image, at the place that the board gives to the segment
(`LoadCall.run_writes`); everywhere else memory is what it was. A load that ends as it should
took all of the segments, one after the other, and its reservations are the ranges of those that
have a size in memory (`LoadCall.run_loads`).
-/

set_option autoImplicit false

namespace Bootloader

/-! ## Writes that keep to a range -/

section

variable {μ : Type} [PhysicalMemory μ] {allowed wider : Address → Prop} {before middle after : μ}

/-- Memory is different by chunks that lie where it is allowed. -/
def WritesWithin (allowed : Address → Prop) (before after : μ) : Prop :=
  ∃ chunks, writeChunks before chunks = .ok after ∧
    ∀ chunk ∈ chunks, ∀ place, chunk.Holds place → allowed place

theorem WritesWithin.refl (memory : μ) : WritesWithin allowed memory memory :=
  ⟨[], rfl, nofun⟩

theorem writesWithin_of_eq (same : after = before) : WritesWithin allowed before after := by
  rw [same]
  exact .refl before

theorem WritesWithin.trans (earlier : WritesWithin allowed before middle)
    (later : WritesWithin allowed middle after) : WritesWithin allowed before after := by
  obtain ⟨chunks, wrote, inside⟩ := earlier
  obtain ⟨others, further, beyond⟩ := later
  refine ⟨chunks ++ others, writeChunks_append.mpr ⟨_, wrote, further⟩, ?_⟩
  intro chunk member
  rcases List.mem_append.mp member with member | member
  · exact inside chunk member
  · exact beyond chunk member

theorem WritesWithin.mono (writes : WritesWithin allowed before after)
    (widen : ∀ place, allowed place → wider place) : WritesWithin wider before after := by
  obtain ⟨chunks, wrote, inside⟩ := writes
  refine ⟨chunks, wrote, ?_⟩
  intro chunk member place holds
  exact widen place (inside chunk member place holds)

/-- A byte where nothing may be written is what it was. -/
theorem WritesWithin.byteAt_eq [LawfulMemory μ] (sound : LawfulMemory.Sound before)
    (writes : WritesWithin allowed before after) {place : Address} (spared : ¬ allowed place) :
    byteAt? after place = byteAt? before place := by
  obtain ⟨chunks, wrote, inside⟩ := writes
  induction chunks generalizing before with
  | nil =>
      cases wrote
      rfl
  | cons chunk rest ih =>
      obtain ⟨written, first, wrote⟩ := writeChunks_cons.mp wrote
      have later := ih (LawfulMemory.sound_write sound first) wrote fun other member =>
        inside other (List.mem_cons_of_mem _ member)
      rw [later, LawfulMemory.byteAt_write sound first, laidOver]
      exact if_neg fun holds => spared (inside chunk List.mem_cons_self place holds)

end

/-- The contents of a segment are loaded to an address. -/
def Board.Fills (board : Board) (segment : Image.ProgramHeader) (place : Address) : Prop :=
  (board.kernelAddress segment).toNat ≤ place.toNat ∧
    place.toNat < (board.kernelAddress segment).toNat + segment.fileSize.toNat

namespace Loader

open Act
open Trust (Hasher)

variable {ω μ : Type} [Hardware ω] [PhysicalMemory μ] {before after : Loader ω μ}
  {handle : Handle}

/-! ## The image that a call reads -/

/-- The header and the program headers of the image that a call reads, once the former kernel is
forgotten. -/
def LoadCall.Lists (call : LoadCall) (before : Loader ω μ) (header : Image.FileHeader)
    (all : List Image.ProgramHeader) : Prop :=
  ∃ handle opened headed listed,
    (onFiles (Files.openFile call.device call.name 0) : BootAct ω μ Handle).Ends
      before.withoutKernel (.done handle) opened ∧
    (Image.openImage (sourceOf handle)).Ends opened (.done header) headed ∧
    (Image.programHeaders (sourceOf handle) header).Ends headed (.done all) listed

/-- A call reads an image of which a segment is to be loaded to an address. -/
def LoadCall.Copies (call : LoadCall) (before : Loader ω μ) (place : Address) : Prop :=
  ∃ header all segment, call.Lists before header all ∧ segment ∈ all ∧ segment.isLoad = true ∧
    before.board.Fills segment place

omit [PhysicalMemory μ] in
/-- A call reads one image only. -/
theorem LoadCall.Lists.unique {call : LoadCall} {header other : Image.FileHeader}
    {all others : List Image.ProgramHeader} (first : call.Lists before header all)
    (second : call.Lists before other others) : header = other ∧ all = others := by
  obtain ⟨handle, opened, headed, listed, opening, heading, listing⟩ := first
  obtain ⟨_, _, _, _, opening', heading', listing'⟩ := second
  obtain ⟨same, rfl⟩ := opening.unique opening'
  cases same
  obtain ⟨same, rfl⟩ := heading.unique heading'
  cases same
  obtain ⟨same, _⟩ := listing.unique listing'
  cases same
  exact ⟨rfl, rfl⟩

/-! ## Copies that may be broken off -/

omit [Hardware ω] in
/-- A write is one to the places of its bytes, if it is made. -/
theorem writeMemory_writes {address : Address} {data : Bytes} {outcome : Outcome BootError Unit}
    (ends : (writeMemory address data : BootAct ω μ Unit).Ends before outcome after) :
    WritesWithin (fun place => address.toNat ≤ place.toNat ∧
      place.toNat < address.toNat + data.length) before.memory after.memory := by
  rcases writeMemory_ends ends with ⟨memory, wrote, _, rfl⟩ | ⟨_, _, rfl⟩
  · refine ⟨[⟨address, data⟩], writeChunks_cons.mpr ⟨memory, wrote, rfl⟩, ?_⟩
    intro chunk member place holds
    rw [List.mem_singleton.mp member] at holds
    exact holds
  · exact .refl _

/-- However the copy of a segment ends, it wrote to the range that was left to be copied. -/
theorem copySegmentFrom_writes {destination : Address} {offset done remaining : Nat}
    {hasher : Option Hasher} {outcome : Outcome BootError (Option Hasher)}
    (ends : (copySegmentFrom handle destination offset done remaining hasher :
      BootAct ω μ (Option Hasher)).Ends before outcome after) :
    WritesWithin (fun place => destination.toNat + done ≤ place.toNat ∧
      place.toNat < destination.toNat + done + remaining) before.memory after.memory := by
  induction remaining using Nat.strongRecOn generalizing done hasher before with
  | ind remaining ih =>
      rw [copySegmentFrom] at ends
      split at ends
      case isTrue => exact ends.2 ▸ .refl _
      case isFalse more =>
        have positive : 0 < Capacity.chunk := by decide
        rcases ends_bind.mp ends with ⟨bytes, middle, here, ends⟩ | ⟨_, here, _⟩
        · obtain ⟨read, only⟩ := onFiles_done here
          have length := (Files.readExact_ends read).1
          rcases ends_orCrash_bind.mp ends with ⟨address, reached, ends⟩ | ⟨_, _, rfl⟩
          · -- the chunk goes to the front of the range, the rest behind it
            have start := Address.advance?_eq_some_iff.mp reached
            have chunk : ∀ {ending left},
                (writeMemory address bytes : BootAct ω μ Unit).Ends middle ending left →
                WritesWithin (fun place => destination.toNat + done ≤ place.toNat ∧
                  place.toNat < destination.toNat + done + remaining)
                  before.memory left.memory := by
              intro ending left stored
              rw [← only.memory]
              refine (writeMemory_writes stored).mono ?_
              rintro place ⟨low, high⟩
              omega
            rcases ends_bind.mp ends with ⟨_, left, stored, ends⟩ | ⟨_, stored, _⟩
            · refine (chunk stored).trans ((ih _ (by omega) ends).mono ?_)
              rintro place ⟨low, high⟩
              omega
            · exact chunk stored
          · exact writesWithin_of_eq only.memory
        · exact writesWithin_of_eq (respects_onFiles.ends here).memory

/-- The copy of a segment ends like the loop that copies it. -/
theorem copySegment_ends {segment : Image.ProgramHeader} {hasher : Option Hasher}
    {outcome : Outcome BootError (Option Hasher)}
    (ends : (copySegment handle segment hasher : BootAct ω μ (Option Hasher)).Ends before outcome
      after) :
    (copySegmentFrom handle (before.board.kernelAddress segment) segment.offset.toNat 0
      segment.fileSize.toNat hasher : BootAct ω μ (Option Hasher)).Ends before outcome after ∧
      after.board = before.board := by
  have copying : (copySegmentFrom handle (before.board.kernelAddress segment) segment.offset.toNat 0
      segment.fileSize.toNat hasher : BootAct ω μ (Option Hasher)).Ends before outcome after := by
    rcases ends_bind.mp (ends_read_bind.mp ends) with ⟨fed, middle, here, reported⟩ |
      ⟨halt, here, halts⟩
    · obtain ⟨done, same⟩ := ends_note_bind.mp reported
      subst done
      subst same
      exact here
    · cases halts <;> exact here
  refine ⟨copying, ?_⟩
  rw [(respects_copySegmentFrom.ends copying).rest]

/-- However the copies of segments end, they wrote to places where the segments are loaded. -/
theorem copySegments_writes {segments : List Image.ProgramHeader} {hasher : Option Hasher}
    {outcome : Outcome BootError (Option Hasher)}
    (ends : (copySegments handle hasher segments : BootAct ω μ (Option Hasher)).Ends before outcome
      after) :
    WritesWithin (fun place => ∃ segment ∈ segments, before.board.Fills segment place)
      before.memory after.memory := by
  induction segments generalizing hasher before with
  | nil => exact ends.2 ▸ .refl _
  | cons segment rest ih =>
      have first : ∀ {ending left}, (copySegment handle segment hasher :
          BootAct ω μ (Option Hasher)).Ends before ending left →
          WritesWithin (fun place => ∃ other ∈ segment :: rest, before.board.Fills other place)
            before.memory left.memory := by
        intro ending left copying
        refine (copySegmentFrom_writes (copySegment_ends copying).1).mono ?_
        intro place fills
        exact ⟨segment, List.mem_cons_self, fills⟩
      rcases ends_bind.mp ends with ⟨_, middle, copying, ends⟩ | ⟨_, copying, _⟩
      · refine (first copying).trans ((ih ends).mono ?_)
        rintro place ⟨other, member, fills⟩
        exact ⟨other, List.mem_cons_of_mem _ member, (copySegment_ends copying).2 ▸ fills⟩
      · exact first copying

omit [Hardware ω] in
/-- Writes that follow on what turns to the files only. -/
theorem writesWithin_after {α β : Type} {allowed : Address → Prop} {action : BootAct ω μ α}
    {next : α → BootAct ω μ β} {outcome : Outcome BootError β}
    (reads : action.Respects OnlyFiles) (ends : (action >>= next).Ends before outcome after)
    (later : ∀ value middle, action.Ends before (.done value) middle →
      (next value).Ends middle outcome after → WritesWithin allowed middle.memory after.memory) :
    WritesWithin allowed before.memory after.memory := by
  rcases ends_bind.mp ends with ⟨value, middle, here, there⟩ | ⟨_, here, _⟩
  · rw [← (reads.ends here).memory]
    exact later value middle here there
  · exact writesWithin_of_eq (reads.ends here).memory

/-- However the copy of an image ends, it wrote to places where segments of the image are loaded,
and only after their headers were read. -/
theorem copyImage_writes {key : Option KernelKey} {outcome : Outcome BootError Copied}
    (ends : (copyImage handle key : BootAct ω μ Copied).Ends before outcome after) :
    WritesWithin (fun place => ∃ header headed all listed segment,
      (Image.openImage (sourceOf handle)).Ends before (.done header) headed ∧
      (Image.programHeaders (sourceOf handle) header).Ends headed (.done all) listed ∧
      segment ∈ all ∧ segment.isLoad = true ∧ before.board.Fills segment place)
      before.memory after.memory := by
  have reads := respects_sourceOf (ω := ω) (μ := μ) handle
  unfold copyImage at ends
  dsimp only at ends
  refine writesWithin_after (Image.respects_openImage reads) ends
    fun header headed opening ends => ?_
  refine writesWithin_after (Image.respects_programHeaders reads header) ends
    fun all listed listing ends => ?_
  refine writesWithin_after respects_require ends fun _ passed passing ends => ?_
  refine writesWithin_after (Image.respects_bss? reads header) ends
    fun bss scanned scanning ends => ?_
  have only : OnlyFiles before scanned :=
    ((((Image.respects_openImage reads).ends opening).trans
      ((Image.respects_programHeaders reads header).ends listing)).trans
      (respects_require.ends passing)).trans ((Image.respects_bss? reads header).ends scanning)
  have copies : ∀ {signed : Loader ω μ} {hasher : Option Hasher} {finish : Option Hasher → Copied},
      OnlyFiles before signed →
      (copySegments handle hasher (all.filter Image.ProgramHeader.isLoad) >>= fun hasher =>
        pure (finish hasher) : BootAct ω μ Copied).Ends signed outcome after →
      WritesWithin (fun place => ∃ header headed all listed segment,
        (Image.openImage (sourceOf handle)).Ends before (.done header) headed ∧
        (Image.programHeaders (sourceOf handle) header).Ends headed (.done all) listed ∧
        segment ∈ all ∧ segment.isLoad = true ∧ before.board.Fills segment place)
        signed.memory after.memory := by
    intro signed hasher finish only ends
    obtain ⟨_, copying, _⟩ := ends_bind_pure.mp ends
    refine (copySegments_writes copying).mono ?_
    rintro place ⟨segment, member, fills⟩
    obtain ⟨listed', load⟩ := List.mem_filter.mp member
    exact ⟨header, headed, all, listed, segment, opening, listing, listed', load,
      only.board ▸ fills⟩
  cases key with
  | some key =>
      refine writesWithin_after respects_readSignature ends fun signature signed signing ends => ?_
      exact copies (only.trans (respects_readSignature.ends signing)) (ends_pure_bind.mp ends)
  | none => exact copies only (ends_pure_bind.mp ends)

omit [Hardware ω] [PhysicalMemory μ] in
/-- Taking an image for the kernel is a matter of the page. -/
theorem acceptKernel_memory {device : String} {copied : Copied} {outcome : Outcome BootError Unit}
    (ends : (acceptKernel device copied : BootAct ω μ Unit).Ends before outcome after) :
    after.memory = before.memory := by
  obtain ⟨left, reserved, rest, reserves, settled⟩ := acceptKernel_ends ends
  have same : left.memory = before.memory := by rw [reserves.only, describing_memory]
  rcases settled with ⟨_, _, rfl⟩ | ⟨rfl, _⟩
  · exact same
  · exact same

/-- **However a load ends, it wrote to places where segments of the image are loaded.** -/
theorem LoadCall.run_writes {call : LoadCall} {outcome : Outcome BootError Unit}
    (ends : (call.run : BootAct ω μ Unit).Ends before outcome after) :
    WritesWithin (call.Copies before) before.memory after.memory := by
  have copies : ∀ {ending closed},
      (withFile (Files.openFile call.device call.name 0) fun handle => copyImage handle call.key :
        BootAct ω μ Copied).Ends before.withoutKernel ending closed →
      WritesWithin (call.Copies before) before.memory closed.memory := by
    intro ending closed copying
    rcases withFile_ends copying with ⟨handle, opened, _, middle, opening, inside, only, _⟩ |
      ⟨only, _⟩
    · have quiet := (onFiles_done opening).2
      have wrote := copyImage_writes inside
      rw [quiet.memory, quiet.board] at wrote
      rw [only.memory]
      refine wrote.mono ?_
      rintro place ⟨header, headed, all, listed, segment, heading, listing, member, load, fills⟩
      exact ⟨header, all, segment, ⟨handle, opened, headed, listed, opening, heading, listing⟩,
        member, load, fills⟩
    · exact writesWithin_of_eq only.memory
  rw [LoadCall.run, loadKernel, ends_forgetKernel_bind] at ends
  rcases ends_bind.mp ends with ⟨copied, closed, copying, ends⟩ | ⟨_, copying, _⟩
  · refine (copies copying).trans (writesWithin_of_eq ?_)
    rcases ends_bind.mp ends with ⟨_, checked, check, accepting⟩ | ⟨_, check, _⟩
    · obtain rfl : checked = closed := respects_checkSignature.ends check
      exact acceptKernel_memory accepting
    · obtain rfl : after = closed := respects_checkSignature.ends check
      rfl
  · exact copies copying

/-! ## Loads that end as they should -/

/-- Nothing but the files is different, and later reads of a file meet what they would have. -/
def Peruses (handle : Handle) (before after : Loader ω μ) : Prop :=
  OnlyFiles before after ∧ KeepsReads handle before after

omit [PhysicalMemory μ] in
instance : IsPreorder (Loader ω μ) (Peruses handle) where
  refl _ := ⟨.refl _, refl_of (KeepsReads handle) _⟩
  trans _ _ _ earlier later :=
    ⟨earlier.1.trans later.1, trans_of (KeepsReads handle) earlier.2 later.2⟩

omit [PhysicalMemory μ] in
theorem respects_peruses (offset length : Nat) :
    ((sourceOf handle : Image.Source (Loader ω μ) BootError).read offset length).Respects
      (Peruses handle) :=
  fun loader => ⟨respects_onFiles loader, readExact_keepsReads loader⟩

/-- What a copy that was completed read and wrote: the tables of the image, and then the contents
of all segments that are to be loaded, as the file gave them and in the order of their headers. -/
theorem copyImage_segments {key : Option KernelKey} {copied : Copied}
    (ends : (copyImage handle key : BootAct ω μ Copied).Ends before (.done copied) after) :
    ∃ headed all listed scanned signed chunks,
      (Image.openImage (sourceOf handle)).Ends before (.done copied.header) headed ∧
      (Image.programHeaders (sourceOf handle) copied.header).Ends headed (.done all) listed ∧
      copied.segments = all.filter Image.ProgramHeader.isLoad ∧
      (Image.bss? (sourceOf handle) copied.header).Ends listed (.done copied.bss) scanned ∧
      Peruses handle before signed ∧
      SegmentsCopied handle before.board.kernelAddress copied.segments chunks signed.files
        after.files ∧
      writeChunks before.memory chunks.flatten = .ok after.memory := by
  have reads : ∀ offset length, ((sourceOf handle : Image.Source (Loader ω μ) BootError).read offset
      length).Respects (Peruses handle) := respects_peruses
  unfold copyImage at ends
  dsimp only at ends
  obtain ⟨header, headed, opening, ends⟩ := ends_bind_done.mp ends
  obtain ⟨all, listed, listing, ends⟩ := ends_bind_done.mp ends
  rcases ends_require_bind.mp ends with ⟨_, ends⟩ | ⟨_, failed, _⟩
  case inr => cases failed
  obtain ⟨bss, scanned, scanning, ends⟩ := ends_bind_done.mp ends
  have quiet : Peruses handle before scanned :=
    trans_of (Peruses handle) ((Image.respects_openImage reads).ends opening)
      (trans_of (Peruses handle) ((Image.respects_programHeaders reads header).ends listing)
        ((Image.respects_bss? reads header).ends scanning))
  have copies : ∀ {signed : Loader ω μ} {hasher : Option Hasher} {signature : Option _},
      Peruses handle before signed →
      (copySegments handle hasher (all.filter Image.ProgramHeader.isLoad) >>= fun hasher =>
        pure ⟨header, all.filter Image.ProgramHeader.isLoad, bss, signature, hasher⟩ :
          BootAct ω μ Copied).Ends signed (.done copied) after →
      copied.header = header ∧ copied.segments = all.filter Image.ProgramHeader.isLoad ∧
        copied.bss = bss ∧ ∃ chunks, SegmentsCopied handle before.board.kernelAddress
          copied.segments chunks signed.files after.files ∧
        writeChunks before.memory chunks.flatten = .ok after.memory := by
    intro signed hasher signature quiet ends
    obtain ⟨fed, left, copying, done, rfl⟩ := ends_bind_done.mp ends
    cases done
    obtain ⟨chunks, segments, written, _⟩ := copySegments_ends copying
    rw [quiet.1.board] at segments
    rw [quiet.1.memory] at written
    exact ⟨rfl, rfl, rfl, chunks, segments, written⟩
  cases key with
  | some key =>
      obtain ⟨signature, signed, signing, ends⟩ := ends_bind_done.mp ends
      have further := trans_of (Peruses handle) quiet
        ((respects_readSignature_of reads).ends signing)
      obtain ⟨rfl, taken, rfl, chunks, rest⟩ := copies further (ends_pure_bind.mp ends)
      exact ⟨headed, all, listed, scanned, signed, chunks, opening, listing, taken, scanning,
        further, rest⟩
  | none =>
      obtain ⟨rfl, taken, rfl, chunks, rest⟩ := copies quiet (ends_pure_bind.mp ends)
      exact ⟨headed, all, listed, scanned, scanned, chunks, opening, listing, taken, scanning,
        quiet, rest⟩

/-- A load that ended as it should, from the open file on: what it read of the image, what it
wrote of it, and what it put on the page. -/
structure LoadCall.Loaded (call : LoadCall) (before : Loader ω μ) (handle : Handle)
    (opened : Loader ω μ) (copied : Copied) (after : Loader ω μ) : Prop where
  opening : (onFiles (Files.openFile call.device call.name 0) : BootAct ω μ Handle).Ends
    before.withoutKernel (.done handle) opened
  tables : ∃ headed all listed scanned,
    (Image.openImage (sourceOf handle)).Ends opened (.done copied.header) headed ∧
    (Image.programHeaders (sourceOf handle) copied.header).Ends headed (.done all) listed ∧
    copied.segments = all.filter Image.ProgramHeader.isLoad ∧
    (Image.bss? (sourceOf handle) copied.header).Ends listed (.done copied.bss) scanned
  contents : ∃ signed left chunks, Peruses handle opened signed ∧
    SegmentsCopied handle before.board.kernelAddress copied.segments chunks signed.files left ∧
    writeChunks before.memory chunks.flatten = .ok after.memory
  loaded : after.kernelLoaded = true
  kernel : after.page.kernel = describe before.board copied
  reservations : ∃ reserved, after.page.reservations = before.page.reservations ++ reserved ∧
    (Image.occupied copied.segments).map before.board.rangeOf? = reserved.map some

/-- The segments that were loaded are those of the image that the call reads. -/
theorem LoadCall.Loaded.lists {call : LoadCall} {opened : Loader ω μ} {copied : Copied}
    (loaded : call.Loaded before handle opened copied after) :
    ∃ all, call.Lists before copied.header all ∧
      copied.segments = all.filter Image.ProgramHeader.isLoad := by
  obtain ⟨headed, all, listed, _, heading, listing, taken, _⟩ := loaded.tables
  exact ⟨all, ⟨handle, opened, headed, listed, loaded.opening, heading, listing⟩, taken⟩

/-- **A load that ends as it should took all segments of its image.** It copied their contents in
order, described the image, and reserved the ranges of those that have a size in memory. -/
theorem LoadCall.run_loads {call : LoadCall}
    (ends : (call.run : BootAct ω μ Unit).Ends before (.done ()) after) :
    ∃ handle opened copied, call.Loaded before handle opened copied after := by
  rcases loadKernel_steps ends with ⟨refused, _⟩ | ⟨copied, closed, image, accepting⟩
  · exact absurd rfl refused
  · rcases withFile_ends image.copying with
      ⟨handle, opened, _, left, opening, inside, only, yields⟩ | ⟨_, refused⟩
    · rw [yields copied rfl] at inside
      obtain ⟨headed, all, listed, scanned, signed, chunks, heading, listing, taken, scanning,
        peruses, segments, written⟩ := copyImage_segments inside
      have quiet := (onFiles_done opening).2
      rw [quiet.board] at segments
      rw [quiet.memory, ← only.memory] at written
      have board : closed.board = before.board := by
        rw [image.transfers.rest]
        rfl
      have page : closed.page.reservations = before.page.reservations := by
        rw [image.transfers.rest]
        rfl
      have memory := acceptKernel_memory accepting
      obtain ⟨last, reserved, rest, reserves, ⟨_, rfl, rfl⟩ | ⟨_, _, _, _, _, failed, _⟩⟩ :=
        acceptKernel_ends accepting
      · obtain ⟨first, split, ranges⟩ := reserves.ranges
        rw [List.append_nil] at split
        refine ⟨handle, opened, copied, opening, ⟨headed, all, listed, scanned, heading, listing,
          taken, scanning⟩, ⟨signed, left.files, chunks, peruses, segments, ?_⟩, rfl, ?_, reserved,
          ?_, ?_⟩
        · rw [memory]
          exact written
        · exact reserves.keeps.kernel.trans (congrArg (describe · copied) board)
        · exact reserves.reservations.trans (congrArg (· ++ reserved) page)
        · rw [split, ← board]
          exact ranges
      · cases failed
    · exact absurd rfl (refused copied)

end Loader

end Bootloader
