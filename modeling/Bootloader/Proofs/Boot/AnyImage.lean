import Bootloader.Bench.World
import Bootloader.Image.Builder
import Bootloader.Proofs.Boot.Segments
import Bootloader.Proofs.Files.Waiting
import Bootloader.Proofs.Image.Tables

/-!
# Loads of any image

What a device serves for an image may be anything. A line that loads a kernel ends with success
or failure then, unless the load trips over the image (`Trips`): over an empty table whose entries
have no size, or over a segment that the board loads to a place from which it would run over the
last address. That is the only way in which it crashes, and it waits without end only for a host
(`loads_of_any_image`).
-/

set_option autoImplicit false

namespace Bootloader.Loader

open Act
open Trust (Hasher)

variable {ω μ : Type} {loss : Loss}

/-! ## Parts that lose nothing -/

/-- What the files avoid, the loader avoids that turns to them. -/
theorem onFiles_avoids {α : Type} {request : FileAct ω α} {inner : Files ω → Prop}
    (avoids : request.Avoids loss inner) :
    (onFiles request : BootAct ω μ α).Avoids loss fun loader => inner loader.files :=
  Avoids.mapError (avoids.zoom (fun _ here => here) fun _ _ _ left => left)

/-- Checking a signature yields a verdict. -/
theorem checkSignature_avoids {key : Option KernelKey} {copied : Copied} :
    (checkSignature key copied : BootAct ω μ Unit).Avoids loss fun _ => True := by
  have accepting : ∀ accepted : Bool, (if accepted = true
      then note (Log.Component.signatures.report .debug "ECDSA signature verified")
      else do
        note (Log.Component.signatures.report .warn
          "ECDSA signature does not match the public key")
        fail .verifyFailed : Act (Loader ω μ) Trust.Error Unit).Avoids loss fun _ => True := by
    intro accepted
    cases accepted with
    | true => exact avoids_note
    | false => exact avoids_note.bind fun _ => avoids_fail
  unfold checkSignature
  split
  · refine Avoids.bind (Avoids.mapError ?_) fun _ => avoids_note
    unfold Trust.verifySignature
    refine avoids_require.bind fun _ => ?_
    dsimp only
    split
    · exact avoids_note.bind fun _ => avoids_fail.bind fun _ => avoids_require.bind fun _ =>
        accepting _
    · exact avoids_require.bind fun _ => accepting _
  · exact avoids_pure

/-- Taking an image for the kernel yields success or an error. -/
theorem acceptKernel_returns {device : String} {copied : Copied} :
    (acceptKernel device copied : BootAct ω μ Unit).Returns := by
  intro before outcome after ends
  obtain ⟨_, _, _, _, ⟨rfl, _⟩ | ⟨_, _, _, _, _, rfl, _⟩⟩ := acceptKernel_ends ends
  · rfl
  · rfl

/-! ## Copies that are lost -/

section

variable [Hardware ω] [PhysicalMemory μ] {handle : Handle} {before after : Loader ω μ}

/-- What trips a load up that reads an image from an open file. -/
inductive Trips (handle : Handle) (opened : Loader ω μ) : Prop where
  | table (header : Image.FileHeader) (headed : Loader ω μ) (table : Image.Table)
      (opening : (Image.openImage (sourceOf handle)).Ends opened (.done header) headed)
      (stated : table ∈ [header.programs, header.sections])
      (sizeless : table.entrySize = 0) (empty : table.count = 0)
  | segment (header : Image.FileHeader) (headed : Loader ω μ) (all : List Image.ProgramHeader)
      (listed : Loader ω μ) (segment : Image.ProgramHeader)
      (opening : (Image.openImage (sourceOf handle)).Ends opened (.done header) headed)
      (listing : (Image.programHeaders (sourceOf handle) header).Ends headed (.done all) listed)
      (member : segment ∈ all) (load : segment.isLoad = true)
      (beyond : UInt64.size < (opened.board.kernelAddress segment).toNat + segment.fileSize.toNat)

omit [Hardware ω] in
/-- A write to memory yields success or an error, and leaves the files alone. -/
theorem writeMemory_avoids {address : Address} {data : Bytes} :
    (writeMemory address data : BootAct ω μ Unit).Avoids loss fun loader =>
      Files.Prompt loss handle loader.files := by
  intro before outcome after prompt ends
  rcases writeMemory_ends ends with ⟨_, _, rfl, rfl⟩ | ⟨_, rfl, rfl⟩
  · exact ⟨nofun, prompt⟩
  · exact ⟨nofun, prompt⟩

/-- A copy of a segment that is lost, otherwise than by a read, runs over the last address. -/
theorem copySegmentFrom_lost {destination : Address} {offset done remaining : Nat}
    {hasher : Option Hasher} {outcome : Outcome BootError (Option Hasher)}
    (prompt : Files.Prompt loss handle before.files)
    (ends : (copySegmentFrom handle destination offset done remaining hasher :
      BootAct ω μ (Option Hasher)).Ends before outcome after)
    (lost : outcome.loss? = some loss) :
    loss = .crash ∧ UInt64.size < destination.toNat + done + remaining := by
  induction remaining using Nat.strongRecOn generalizing done hasher before with
  | ind remaining ih =>
      rw [copySegmentFrom] at ends
      split at ends
      case isTrue =>
        obtain ⟨rfl, _⟩ := ends
        cases lost
      case isFalse more =>
        have positive : 0 < Capacity.chunk := by decide
        obtain ⟨bytes, middle, _, prompt, ends⟩ :=
          (onFiles_avoids Files.readExact_avoids).bind_lost prompt ends lost
        rcases ends_orCrash_bind.mp ends with ⟨address, reached, ends⟩ | ⟨unreached, rfl, _⟩
        · obtain ⟨_, left, _, prompt, ends⟩ := writeMemory_avoids.bind_lost prompt ends lost
          obtain ⟨crash, beyond⟩ := ih _ (by omega) prompt ends
          exact ⟨crash, by omega⟩
        · have wraps : ¬ destination.toNat + done < UInt64.size := by
            intro fits
            rw [Address.advance?, Address.ofNat?, if_pos fits] at unreached
            cases unreached
          exact ⟨(Option.some.inj lost).symm, by omega⟩

omit [PhysicalMemory μ] in
theorem respects_slots {offset length : Nat} :
    (onFiles (Files.readExact handle offset length) : BootAct ω μ Bytes).Respects
      (Same fun loader => loader.files.slots) := by
  apply respects_of_ends
  intro before outcome after ends
  obtain ⟨_, files, inside, _, rfl⟩ := ends_onFiles.mp ends
  exact (Files.respects_readExact.ends inside).slots

omit [Hardware ω] in
theorem writeMemory_slots {address : Address} {data : Bytes} :
    (writeMemory address data : BootAct ω μ Unit).Respects
      (Same fun loader => loader.files.slots) := by
  apply respects_of_ends
  intro before outcome after ends
  rcases writeMemory_ends ends with ⟨_, _, _, rfl⟩ | ⟨_, _, rfl⟩
  · rfl
  · rfl

/-- Copies of segments that are lost, otherwise than by a read, run over the last address. -/
theorem copySegments_lost {segments : List Image.ProgramHeader} {hasher : Option Hasher}
    {outcome : Outcome BootError (Option Hasher)} (prompt : Files.Prompt loss handle before.files)
    (ends : (copySegments handle hasher segments : BootAct ω μ (Option Hasher)).Ends before outcome
      after)
    (lost : outcome.loss? = some loss) :
    loss = .crash ∧ ∃ segment ∈ segments,
      UInt64.size < (before.board.kernelAddress segment).toNat + segment.fileSize.toNat := by
  induction segments generalizing hasher before with
  | nil =>
      obtain ⟨rfl, _⟩ := ends
      cases lost
  | cons segment rest ih =>
      rcases ends_bind.mp ends with ⟨_, middle, copying, ends⟩ | ⟨halt, copying, halts⟩
      · obtain ⟨loop, board⟩ := copySegment_ends copying
        have slots : middle.files.slots = before.files.slots :=
          (respects_copySegmentFrom_of (fun _ _ => respects_slots) fun _ _ =>
            writeMemory_slots).ends loop
        obtain ⟨crash, other, member, beyond⟩ := ih (prompt.of_slots slots) ends
        exact ⟨crash, other, List.mem_cons_of_mem _ member, board ▸ beyond⟩
      · obtain ⟨crash, beyond⟩ :=
          copySegmentFrom_lost prompt (copySegment_ends copying).1 (halts.loss? ▸ lost)
        exact ⟨crash, segment, List.mem_cons_self, beyond⟩

/-- Since a file was opened that keeps no one waiting, nothing but the files changed. -/
def Reading (loss : Loss) (handle : Handle) (opened loader : Loader ω μ) : Prop :=
  Files.Prompt loss handle loader.files ∧ OnlyFiles opened loader

/-- A copy of an image that is lost, otherwise than by a read, trips over the image. -/
theorem copyImage_lost {key : Option KernelKey} {outcome : Outcome BootError Copied}
    (prompt : Files.Prompt loss handle before.files)
    (ends : (copyImage handle key : BootAct ω μ Copied).Ends before outcome after)
    (lost : outcome.loss? = some loss) : loss = .crash ∧ Trips handle before := by
  have reads : (sourceOf handle : Image.Source (Loader ω μ) BootError).Avoids loss
      (Reading loss handle before) :=
    fun _ _ => (onFiles_avoids Files.readExact_avoids).and_respects respects_onFiles before
  have opens : (Image.openImage (sourceOf handle) : BootAct ω μ Image.FileHeader).Avoids loss
      (Reading loss handle before) := by
    refine (reads _ _).bind fun bytes => ?_
    split
    · exact avoids_pure
    · exact avoids_fail
  unfold copyImage at ends
  dsimp only at ends
  have here : Reading loss handle before before := ⟨prompt, .refl _⟩
  obtain ⟨header, headed, opening, here, ends⟩ := opens.bind_lost here ends lost
  have walkable := Image.openImage_walkable opening
  have trips : ∀ {table : Image.Table}, table ∈ [header.programs, header.sections] →
      loss = .crash ∧ table.entrySize = 0 ∧ table.count = 0 →
      loss = .crash ∧ Trips handle before := by
    rintro table stated ⟨crash, sizeless, empty⟩
    exact ⟨crash, .table header headed table opening stated sizeless empty⟩
  rcases walkable.programs.bind_lost reads here ends lost with tripped |
    ⟨all, listed, listing, here, ends⟩
  case inl => exact trips (by simp) tripped
  obtain ⟨_, _, _, here, ends⟩ := avoids_require.bind_lost here ends lost
  rcases walkable.bss.bind_lost reads here ends lost with tripped | ⟨bss, scanned, _, here, ends⟩
  case inl => exact trips (by simp) tripped
  have copies : ∀ {signed : Loader ω μ} {hasher : Option Hasher} {finish : Option Hasher → Copied},
      Reading loss handle before signed →
      (copySegments handle hasher (all.filter Image.ProgramHeader.isLoad) >>= fun hasher =>
        pure (finish hasher) : BootAct ω μ Copied).Ends signed outcome after →
      loss = .crash ∧ Trips handle before := by
    rintro signed hasher finish ⟨prompt, only⟩ ends
    obtain ⟨ending, copying, rfl⟩ := ends_bind_pure.mp ends
    rw [Outcome.loss?_map] at lost
    obtain ⟨crash, segment, member, beyond⟩ := copySegments_lost prompt copying lost
    obtain ⟨member, load⟩ := List.mem_filter.mp member
    exact ⟨crash, .segment header headed all listed segment opening listing member load
      (only.board ▸ beyond)⟩
  cases key with
  | some key =>
      rw [readSignature, bind_assoc] at ends
      rcases (walkable.named _).bind_lost reads here ends lost with tripped |
        ⟨found, named, _, here, ends⟩
      · exact trips (by simp) tripped
      · obtain ⟨signature, signed, _, here, ends⟩ := Avoids.bind_lost
          (avoids_ofOption.bind fun place => avoids_require.bind fun _ =>
            (reads _ _).bind fun bytes => avoids_ofExcept.mapError) here ends lost
        exact copies here (ends_pure_bind.mp ends)
  | none => exact copies here (ends_pure_bind.mp ends)

/-! ## Calls and lines -/

/-- A call trips over the image that it reads. -/
def LoadCall.Trips (call : LoadCall) (before : Loader ω μ) : Prop :=
  ∃ handle opened, (onFiles (Files.openFile call.device call.name 0) : BootAct ω μ Handle).Ends
    before.withoutKernel (.done handle) opened ∧ Loader.Trips handle opened

/-- A call reads from a host, which may never fall silent. -/
def LoadCall.Awaits (call : LoadCall) (before : Loader ω μ) : Prop :=
  ∃ entry, before.files.findAlias call.device = .ok entry ∧ entry.protocol = .framed

/-- A call that is lost trips over its image, or waits for a host. -/
theorem LoadCall.run_lost {call : LoadCall} {outcome : Outcome BootError Unit}
    (ends : (call.run : BootAct ω μ Unit).Ends before outcome after)
    (lost : outcome.loss? = some loss) :
    loss = .crash ∧ call.Trips before ∨ loss = .stall ∧ call.Awaits before := by
  by_cases raw : loss = .stall → ∀ entry, before.files.findAlias call.device = .ok entry →
    entry.protocol = .raw
  case neg =>
    push Not at raw
    obtain ⟨stall, entry, found, framed⟩ := raw
    refine .inr ⟨stall, entry, found, ?_⟩
    cases spoken : entry.protocol with
    | raw => exact absurd spoken framed
    | framed => rfl
  have copies : ∀ {ending closed},
      (withFile (Files.openFile call.device call.name 0) fun handle => copyImage handle call.key :
        BootAct ω μ Copied).Ends before.withoutKernel ending closed → ending.loss? = some loss →
      loss = .crash ∧ call.Trips before := by
    intro ending closed copying lost
    rcases ends_bind.mp copying with ⟨handle, opened, opening, used⟩ | ⟨halt, opening, halts⟩
    · obtain ⟨_, files, inside, renamed, rfl⟩ := ends_onFiles.mp opening
      rw [mapError_eq_done.mp renamed] at inside
      have granted := (Files.openFile_avoids raw inside).2 handle rfl
      obtain ⟨ended, middle, body, fault⟩ := bracket_lost used lost
      -- the closing is not lost: the file is still the one that was opened
      have slots : middle.files.slots = files.slots :=
        (respects_copyImage_of (fun _ _ => respects_slots) fun _ _ => writeMemory_slots).ends body
      have prompt : Files.Prompt loss handle middle.files := granted.of_slots slots
      rcases fault with lost | ⟨closing, closes | abandons, lost⟩
      · obtain ⟨crash, trips⟩ := copyImage_lost granted body lost
        exact ⟨crash, handle, _, opening, trips⟩
      · obtain ⟨_, _, inside, rfl, _⟩ := ends_onFiles.mp closes
        rw [Outcome.loss?_mapError] at lost
        exact absurd lost (Files.close_avoids prompt inside)
      · obtain ⟨_, _, inside, rfl, _⟩ := ends_onFiles.mp abandons
        rw [Outcome.loss?_mapError] at lost
        exact absurd lost (Files.abandon_avoids prompt inside)
    · obtain ⟨_, files, inside, rfl, _⟩ := ends_onFiles.mp opening
      rw [halts.loss?, Outcome.loss?_mapError] at lost
      exact absurd lost (Files.openFile_avoids raw inside).1
  rw [LoadCall.run, loadKernel, ends_forgetKernel_bind] at ends
  rcases ends_bind.mp ends with ⟨copied, closed, _, ends⟩ | ⟨halt, copying, halts⟩
  · have rest : (checkSignature call.key copied >>= fun _ => acceptKernel call.device copied :
        BootAct ω μ Unit).Avoids loss fun _ => True :=
      checkSignature_avoids.bind fun _ => acceptKernel_returns.avoids
    exact absurd lost (rest _ _ _ trivial ends).1
  · exact .inl (copies copying (halts.loss? ▸ lost))

/-- How a line ends that loads a kernel: with success, with failure, or lost by a load that trips
over its image or waits for a host. -/
inductive LoadExit (line : String) (before : Loader ω μ) : Outcome BootError Exit → Prop where
  | success : LoadExit line before (.done .success)
  | failure : LoadExit line before (.done .failure)
  | trips (call : LoadCall) (asked : loadCall? line before = some call)
      (trips : call.Trips before) : LoadExit line before .crashed
  | awaits (call : LoadCall) (asked : loadCall? line before = some call)
      (awaits : call.Awaits before) : LoadExit line before .stalled

/-- A line that loads a kernel ends in one of these ways. -/
theorem loading_line_ends {line : String} {command : Command} {arguments : List String}
    {outcome : Outcome BootError Exit}
    (called : Command.ofLine? line = some (command, arguments))
    (loads : command = .kernel ∨ command = .kernelSecure)
    (ends : (execute line : BootAct ω μ Exit).Ends before outcome after) :
    LoadExit line before outcome := by
  have settled : ∀ asked : Except BootError LoadCall, loadCall? line before = asked.toOption →
      ∀ ending left, (ofExcept asked >>= LoadCall.run : BootAct ω μ Unit).Ends before ending left →
      LoadExit line before (exitOf ending) := by
    intro asked found ending left ends
    rcases ends_ofExcept_bind.mp ends with ⟨call, rfl, made⟩ | ⟨error, rfl, rfl, _⟩
    · cases lost : ending.loss? with
      | none =>
          rcases Outcome.loss?_eq_none.mp lost with ⟨_, rfl⟩ | ⟨_, rfl⟩
          · exact .success
          · exact .failure
      | some loss =>
          rcases call.run_lost made lost with ⟨rfl, trips⟩ | ⟨rfl, awaits⟩
          · rw [Outcome.loss?_eq_crash.mp lost]
            exact .trips call found trips
          · rw [Outcome.loss?_eq_stall.mp lost]
            exact .awaits call found awaits
    · exact .failure
  rcases execute_ends ends with ⟨idle, _⟩ | ⟨other, words, ending, left, _, called', inside, rfl, _⟩
  · cases called.symm.trans idle
  · cases called.symm.trans called'
    rcases loads with rfl | rfl
    · refine settled (plainCall arguments before) ?_ ending left (kernel_ends.mp inside)
      rw [loadCall?, called]
    · refine settled (secureCall arguments) ?_ ending left ?_
      · rw [loadCall?, called]
      · rw [← kernelSecure_eq]
        exact inside

/-- **Whatever is served for an image, what reads it ends.** A header that was accepted can be
walked, and a line that loads a kernel succeeds or fails. There is no exception but an empty table
whose entries have no size, a segment that runs over the last address, and a host. -/
theorem loads_of_any_image :
    (∀ {σ ε : Type} (source : Image.Source σ ε) (header : Image.FileHeader) (before after : σ),
      (Image.openImage source).Ends before (.done header) after → Image.Walkable source header) ∧
    ∀ (line : String) (command : Command) (arguments : List String) (before after : Loader ω μ)
      (outcome : Outcome BootError Exit),
      Command.ofLine? line = some (command, arguments) →
      command = .kernel ∨ command = .kernelSecure →
      (execute line : BootAct ω μ Exit).Ends before outcome after → LoadExit line before outcome :=
  ⟨fun _ _ _ _ => Image.openImage_walkable, fun _ _ _ _ _ _ => loading_line_ends⟩

end

/-- An image of one segment whose header states section headers of no size, and none of them. -/
def sectionless : Bytes :=
  let whole := Image.Blueprint.build { entry := 0x10000, segments := [.readExecute 0x10000 [1, 2]] }
  whole.take 46 ++ [0, 0, 0, 0] ++ whole.drop 50

/-- A loader that was started on a device with this image. -/
def misled : Loader Bench.World IdentityMemory :=
  let devices : Devices Bench.World :=
    ⟨[⟨.ram, [false]⟩], ⟨[(.ram, .ram ⟨[⟨⟨0x8000000⟩, .readExec, sectionless⟩], 0⟩)], []⟩⟩
  let commands : BootAct Bench.World IdentityMemory Exit := do
    start
    executeLines ["phfs disk 4.0"]
  (commands.run (ofParts Board.standard devices IdentityMemory.zeros 0)).state

/-- The header of this image is accepted, and the walk through its section headers crashes. So
does a line that loads it. -/
theorem sectionless_crashes :
    ∃ header after, (Image.openImage (Image.Source.ofBytes sectionless)).Ends () (.done header) () ∧
      (Image.sectionHeaders (Image.Source.ofBytes sectionless) header).Ends () .crashed () ∧
      (execute "kernel disk").Ends misled .crashed after :=
  ⟨Image.FileHeader.layout.read sectionless, _, ⟨by decide +kernel, rfl⟩,
    ⟨by decide +kernel, rfl⟩, ⟨by decide +kernel, rfl⟩⟩

/-- The walks through this image ask for no more than they may all the same, and the line that
crashes makes a call that trips over it. -/
theorem loads_of_sectionless :
    Image.Walkable (Image.Source.ofBytes sectionless : Image.Source Unit ImageError)
        (Image.FileHeader.layout.read sectionless) ∧
      LoadExit "kernel disk" misled .crashed := by
  obtain ⟨walks, exits⟩ := @loads_of_any_image Bench.World IdentityMemory _ _
  constructor
  · exact walks _ _ () () ⟨by decide +kernel, rfl⟩
  · exact exits "kernel disk" .kernel ["disk"] misled _ _ (by decide +kernel) (.inl rfl)
      ⟨by decide +kernel, rfl⟩

end Bootloader.Loader
