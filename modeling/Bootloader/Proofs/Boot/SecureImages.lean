import Bootloader.Boot.Programs
import Bootloader.Proofs.Boot.Copying

/-!
# Images with an expected digest

A secure command registers an image only if the digest that it computed is the expected one.
An image that was copied lies in memory with exactly the bytes that were hashed, those of the
last attempt if the copy was started over; an image that is used in place was hashed as the
device served it, without a write to memory. If the digests differ, nothing is registered and
nothing reserved (`secure_images_vouched`).
-/

set_option autoImplicit false

namespace Bootloader.Loader

open Act
open Trust (Algorithm Digest Hasher)

variable {ω μ : Type}

/-- Programs, the argument string and reservations are what they were. -/
structure Untouched (before after : Loader ω μ) : Prop where
  programs : after.page.programs = before.page.programs
  arguments : after.page.arguments = before.page.arguments
  reservations : after.page.reservations = before.page.reservations

theorem Copies.untouched [PhysicalMemory μ] {before after : Loader ω μ}
    (copies : Copies before after) : Untouched before after := by
  refine ⟨?_, ?_, ?_⟩
  all_goals rw [copies.rest]

/-! ## Taking arguments apart -/

theorem respects_expectedDigest {algorithm digest : String} :
    (expectedDigest algorithm digest : BootAct ω μ (Algorithm × Digest)).Respects (Same id) :=
  Respects.mapError (respects_ofExcept.bind fun _ => respects_ofExcept.bind fun _ => respects_pure)

theorem respects_checkLists {instructionMaps dataMaps : String} :
    (checkLists instructionMaps dataMaps : BootAct ω μ Unit).Respects (Same id) := by
  have resolves : ∀ (page : SystemPage) (list : String), (Act.mapError BootError.page do
      let _ ← Act.ofExcept (page.resolveList list Capacity.programMaps) :
      BootAct ω μ Unit).Respects (Same id) :=
    fun _ _ => Respects.mapError (respects_ofExcept.bind fun _ => respects_pure)
  exact respects_read.bind fun loader => (resolves loader.page _).bind fun _ =>
    resolves loader.page _

theorem respects_checkMap {map : String} :
    (checkMap map : BootAct ω μ Unit).Respects (Same id) :=
  respects_read.bind fun _ => respects_ofExcept.mapError.bind fun _ => respects_pure

theorem respects_secureProgram {arguments : List String} :
    (secureProgram arguments : BootAct ω μ SecureRequest).Respects (Same id) := by
  unfold secureProgram
  dsimp only
  split
  · refine respects_pure.bind ?_
    intro parts
    split
    · exact respects_expectedDigest.bind fun _ => respects_ofExcept.bind fun _ =>
        respects_ofOption.bind fun _ => respects_checkLists.bind fun _ => respects_pure
    · exact respects_fail
  · exact fun _ => rfl

theorem respects_secureBlob {arguments : List String} :
    (secureBlob arguments : BootAct ω μ SecureRequest).Respects (Same id) := by
  unfold secureBlob
  split
  · exact respects_expectedDigest.bind fun _ => respects_ofExcept.bind fun _ =>
      respects_checkMap.bind fun _ => respects_pure
  · exact respects_fail

/-! ## Measuring -/

section

variable [Hardware ω]

/-- In answer to a request, the device of an open file showed its first bytes at an
address. -/
def ShownAt (handle : Handle) (size : Nat) (address : Address) (before after : Files ω) : Prop :=
  ∃ request : MapRequest, request.offset = 0 ∧ request.size = size ∧
    (Files.map handle request).Ends before (.done (.mappable address)) after ∧
    ∃ file place, before.resolve? handle = some file ∧
      (file.device.device.map { request with offset := place }).Ends before.devices.world
        (.done (.mappable address)) after.devices.world

variable {handle : Handle} {map : String} {mode : Option Attributes} {algorithm : Algorithm}
  {before after : Loader ω μ}

/-- Asking for the size of an open file, for its place and for its bytes respects a relation. -/
structure Peeks (handle : Handle) (relation : Loader ω μ → Loader ω μ → Prop) : Prop where
  stat : (onFiles (Files.stat handle) : BootAct ω μ Nat).Respects relation
  map : ∀ request, (onFiles (Files.map handle request) : BootAct ω μ Mapping).Respects relation
  read : ∀ offset length,
    (onFiles (Files.readExact handle offset length) : BootAct ω μ Bytes).Respects relation

theorem peeks_of_onlyFiles {relation : Loader ω μ → Loader ω μ → Prop}
    (files : ∀ before after, OnlyFiles before after → relation before after) :
    Peeks handle relation :=
  ⟨respects_onFiles.mono files, fun _ => respects_onFiles.mono files,
    fun _ _ => respects_onFiles.mono files⟩

theorem Peeks.mapInPlace {relation : Loader ω μ → Loader ω μ → Prop}
    [IsPreorder (Loader ω μ) relation] (peeks : Peeks handle relation) {size : Nat}
    {mode : Attributes} :
    (mapInPlace handle size mode map : BootAct ω μ (Option Address)).Respects relation := by
  refine respects_read.bind fun loader => respects_ofExcept.mapError.bind ?_
  intro range
  refine respects_ofExcept.mapError.bind ?_
  intro attributes
  refine (peeks.map _).attempt.bind ?_
  intro ending
  split
  · exact respects_pure
  · exact respects_pure
  · exact respects_pure
  · exact respects_fail
  · exact respects_crash
  · exact respects_stall

theorem respects_mapInPlace {size : Nat} {mode : Attributes} :
    (mapInPlace handle size mode map : BootAct ω μ (Option Address)).Respects OnlyFiles :=
  (peeks_of_onlyFiles fun _ _ => id).mapInPlace

/-- An image is used in place only where the device shows it. -/
theorem mapInPlace_ends {size : Nat} {mode : Attributes} {address : Address}
    (ends : (mapInPlace handle size mode map : BootAct ω μ (Option Address)).Ends before
      (.done (some address)) after) : ShownAt handle size address before.files after.files := by
  rw [mapInPlace, ends_read_bind] at ends
  obtain ⟨range, _, here, ends⟩ := ends_bind_done.mp ends
  obtain ⟨_, ⟨_, kept⟩, _⟩ := ends_mapError.mp here
  cases kept
  obtain ⟨attributes, _, here, ends⟩ := ends_bind_done.mp ends
  obtain ⟨_, ⟨_, kept⟩, _⟩ := ends_mapError.mp here
  cases kept
  obtain ⟨ending, shown, asked, ends⟩ := ends_attempt_bind.mp ends
  split at ends
  case h_1 place =>
    obtain ⟨same, left⟩ := ends
    cases same
    cases left
    have inside := (onFiles_done asked).1
    exact ⟨_, rfl, rfl, inside, Files.map_ends inside⟩
  all_goals
    obtain ⟨impossible, _⟩ := ends
    cases impossible

variable [PhysicalMemory μ]

section

variable {relation : Loader ω μ → Loader ω μ → Prop} [IsPreorder (Loader ω μ) relation]
  (peeks : Peeks handle relation)
  (copies : ∀ (map : String) (size : Nat) (algorithm : Option Algorithm),
    (copyToMap handle 0 size map algorithm : BootAct ω μ Placed).Respects relation)

include peeks copies

theorem Peeks.measureAt {size : Nat} (shown : Option Address) :
    (measureAt handle size map algorithm shown : BootAct ω μ Measured).Respects relation := by
  cases shown with
  | some address => exact (respects_hashOnly_of peeks.read).bind fun _ => respects_pure
  | none =>
      exact (copies map size _).bind fun placed => respects_ofOption.bind fun _ => respects_pure

theorem Peeks.measureImage :
    (measureImage handle map mode algorithm : BootAct ω μ Measured).Respects relation := by
  refine peeks.stat.bind ?_
  intro size
  cases mode with
  | some mode => exact peeks.mapInPlace.bind (peeks.measureAt copies)
  | none => exact respects_pure.bind (peeks.measureAt copies)

end

/-- What an image was measured to be. The digest is that of bytes that the file gave; either
the copy left just these in memory, or nothing was written and the file gave them after its
device had shown where they are. -/
structure MeasuredAs (handle : Handle) (algorithm : Algorithm) (before after : Loader ω μ)
    (measured : Measured) (contents : Bytes) : Prop where
  served : ∃ files, Files.Serves handle 0 contents files after.files
  length : contents.length = measured.size
  stop : measured.stop = measured.start.advance? measured.size
  digest : measured.digest = Trust.digestOf algorithm contents
  copied : measured.inPlace = false →
    Deposited before.memory after.memory measured.start.toNat contents
  shown : measured.inPlace = true → after.memory = before.memory ∧
    ∃ asked files, (Files.stat handle).Ends before.files (.done measured.size) asked ∧
      ShownAt handle measured.size measured.start asked files ∧
      Files.Serves handle 0 contents files after.files

section

variable {start : Loader ω μ} {size : Nat} {measured : Measured}

/-- What is copied is measured while it is written. -/
theorem measureCopied_ends (only : OnlyFiles before start)
    (ends : (measureAt handle size map algorithm none : BootAct ω μ Measured).Ends start
      (.done measured) after) :
    ∃ contents, MeasuredAs handle algorithm before after measured contents := by
  obtain ⟨placed, copied, here, ends⟩ := ends_bind_done.mp ends
  rcases ends_ofOption_bind.mp ends with ⟨digest, found, done, same⟩ | ⟨_, failed, _⟩
  · cases done
    cases same
    obtain ⟨contents, landed⟩ := copyToMap_ends here
    have deposited := landed.deposited
    rw [only.memory] at deposited
    have digested : digest = Trust.digestOf algorithm contents :=
      Option.some.inj (found.symm.trans landed.digest)
    exact ⟨contents, landed.served, landed.length, landed.stop.symm, digested,
      fun _ => deposited, nofun⟩
  · cases failed

/-- What the device shows is measured as it serves it. -/
theorem measureShown_ends {address : Address} {asked : Files ω} (only : OnlyFiles before start)
    (sized : (Files.stat handle).Ends before.files (.done size) asked)
    (shown : ShownAt handle size address asked start.files)
    (ends : (measureAt handle size map algorithm (some address) : BootAct ω μ Measured).Ends start
      (.done measured) after) :
    ∃ contents, MeasuredAs handle algorithm before after measured contents := by
  obtain ⟨digest, hashed, hashing, done, same⟩ := ends_bind_done.mp ends
  cases done
  cases same
  obtain ⟨contents, served, length, digested⟩ := hashOnly_ends hashing
  have unwritten := (respects_hashOnly.ends hashing).memory
  rw [only.memory] at unwritten
  exact ⟨contents, ⟨_, served⟩, length, rfl, digested, nofun,
    fun _ => ⟨unwritten, asked, _, sized, shown, served⟩⟩

/-- **The digest of an image is the digest of the bytes that are used.** -/
theorem measureImage_ends
    (ends : (measureImage handle map mode algorithm : BootAct ω μ Measured).Ends before
      (.done measured) after) :
    ∃ contents, MeasuredAs handle algorithm before after measured contents := by
  obtain ⟨size, found, here, ends⟩ := ends_bind_done.mp ends
  obtain ⟨sized, reading⟩ := onFiles_done here
  cases mode with
  | none => exact measureCopied_ends reading (ends_pure_bind.mp ends)
  | some mode =>
      obtain ⟨shown, mapped, asked, ends⟩ := ends_bind_done.mp ends
      have only := reading.trans (respects_mapInPlace.ends asked)
      cases shown with
      | none => exact measureCopied_ends only ends
      | some address => exact measureShown_ends only sized (mapInPlace_ends asked) ends

end

/-! ## Registering -/

omit [Hardware ω] [PhysicalMemory μ] in
theorem respects_checkDigest {relation : Loader ω μ → Loader ω μ → Prop}
    [IsPreorder (Loader ω μ) relation] {digest expected : Digest} :
    (checkDigest digest expected : BootAct ω μ Unit).Respects relation := by
  refine Respects.mapError ?_
  unfold Digest.verify
  split
  · exact respects_pure
  · exact respects_note.bind fun _ => respects_fail

omit [Hardware ω] [PhysicalMemory μ] in
/-- A digest passes only if it is the expected one. -/
theorem checkDigest_done {digest expected : Digest}
    (ends : (checkDigest digest expected : BootAct ω μ Unit).Ends before (.done ()) after) :
    digest.bytes = expected.bytes ∧ before = after := by
  obtain ⟨ending, inside, renamed⟩ := ends_mapError.mp ends
  rw [mapError_eq_done.mp renamed] at inside
  unfold Digest.verify at inside
  split at inside
  case isTrue same => exact ⟨same, inside.2⟩
  case isFalse =>
    obtain ⟨failed, _⟩ := ends_note_bind.mp inside
    cases failed

/-- What questions about the file and copies to maps respect, settling an image respects. -/
theorem Peeks.settleVerified {relation : Loader ω μ → Loader ω μ → Prop}
    [IsPreorder (Loader ω μ) relation] (peeks : Peeks handle relation)
    (copies : ∀ (map : String) (size : Nat) (algorithm : Option Algorithm),
      (copyToMap handle 0 size map algorithm : BootAct ω μ Placed).Respects relation)
    {request : SecureRequest} :
    (settleVerified request handle : BootAct ω μ (Settled × Nat)).Respects relation := by
  refine (peeks.measureImage copies).bind fun measured => respects_checkDigest.bind ?_
  intro _
  split
  · exact respects_note.bind fun _ => respects_orCrash.bind fun _ => respects_pure
  · exact respects_orCrash.bind fun _ => respects_pure

/-- An image is settled only if it was measured to have the expected digest. -/
theorem settleVerified_ends {request : SecureRequest} {settled : Settled} {size : Nat}
    (ends : (settleVerified request handle : BootAct ω μ (Settled × Nat)).Ends before
      (.done (settled, size)) after) :
    ∃ digest : Digest,
      (measureImage handle request.map request.mode request.algorithm :
        BootAct ω μ Measured).Ends before
        (.done ⟨settled.start, some settled.stop, settled.inPlace, size, digest⟩) after ∧
      digest.bytes = request.expected.bytes := by
  obtain ⟨measured, reached, measuring, ends⟩ := ends_bind_done.mp ends
  obtain ⟨_, _, checked, ends⟩ := ends_bind_done.mp ends
  obtain ⟨expected, rfl⟩ := checkDigest_done checked
  have settling : (do
      let stop ← Act.orCrash measured.stop
      return (⟨measured.start, stop, measured.inPlace⟩, measured.size) :
      BootAct ω μ (Settled × Nat)).Ends reached (.done (settled, size)) after := by
    split at ends
    · exact ends_note_bind.mp ends
    · exact ends
  rcases ends_orCrash_bind.mp settling with ⟨stop, found, done, same⟩ | ⟨_, crashed, _⟩
  · cases done
    cases same
    refine ⟨measured.digest, ?_, expected⟩
    rw [← found]
    exact measuring
  · cases crashed

omit [Hardware ω] [PhysicalMemory μ] in
theorem respects_reserve {start : Address} {size : Nat} :
    (onPage (SystemPage.reserve start size) : BootAct ω μ Unit).Respects
      (Same fun loader => (loader.page.programs, loader.memory)) := by
  apply respects_of_ends
  intro before outcome after ends
  obtain ⟨_, page, inside, _, rfl⟩ := ends_onPage.mp ends
  rcases SystemPage.reserve_ends inside with ⟨_, rfl⟩ | ⟨_, _, _, _, _, _, rfl⟩
  · rfl
  · rfl

omit [Hardware ω] [PhysicalMemory μ] in
/-- A registration is refused and changes nothing, or it puts the program on the page; after that
the range of an image that is used in place remains to be reserved. -/
theorem register_steps {settled : Settled} {size : Nat}
    {instructionMaps dataMaps commandLine : String} {flags : ProgramFlags}
    {outcome : Outcome BootError Unit}
    (ends : (register settled size instructionMaps dataMaps commandLine flags :
      BootAct ω μ Unit).Ends before outcome after) :
    (after = before ∧ outcome ≠ .done ()) ∨
    ∃ instructionIds dataIds arguments, before.page.isSaved = false ∧
      before.page.resolveList instructionMaps Capacity.programMaps = .ok instructionIds ∧
      SystemPage.appendArguments? before.page.arguments commandLine = some arguments ∧
      (if settled.inPlace then onPage (SystemPage.reserve settled.start size) else pure () :
        BootAct ω μ Unit).Ends
        { before with page := { before.page with
            arguments
            programs := before.page.programs ++ [⟨settled.start, settled.stop, instructionIds,
              dataIds, Text.toField Capacity.commandLine commandLine, flags⟩] } }
        outcome after := by
  rcases ends_bind.mp ends with ⟨_, registered, here, ends⟩ | ⟨halt, here, halts⟩
  · obtain ⟨ending, page, inside, renamed, rfl⟩ := ends_onPage.mp here
    rcases SystemPage.addProgram_ends inside with ⟨⟨_, failed⟩, _⟩ |
      ⟨_, instructionIds, dataIds, arguments, pending, _, listed, _, _, _, extended, rfl⟩
    · subst failed
      cases renamed
    · exact .inr ⟨instructionIds, dataIds, arguments, pending, listed, extended, ends⟩
  · obtain ⟨ending, page, inside, rfl, rfl⟩ := ends_onPage.mp here
    rcases SystemPage.addProgram_ends inside with ⟨⟨_, rfl⟩, rfl⟩ | ⟨rfl, _⟩
    · exact .inl ⟨rfl, halts.ne_done ()⟩
    · cases halts

omit [Hardware ω] [PhysicalMemory μ] in
/-- Registering adds one program or changes nothing, and writes nothing. Only the range of an
image that is used in place is reserved. -/
theorem register_ends {settled : Settled} {size : Nat}
    {instructionMaps dataMaps commandLine : String} {flags : ProgramFlags}
    {outcome : Outcome BootError Unit}
    (ends : (register settled size instructionMaps dataMaps commandLine flags :
      BootAct ω μ Unit).Ends before outcome after) :
    (after = before ∧ outcome ≠ .done ()) ∨
    ∃ program : Program, after.page.programs = before.page.programs ++ [program] ∧
      program.start = settled.start ∧ program.stop = settled.stop ∧ program.flags = flags ∧
      before.page.resolveList instructionMaps Capacity.programMaps = .ok program.instructionMaps ∧
      program.commandLine = Text.toField Capacity.commandLine commandLine ∧
      after.memory = before.memory ∧
      (settled.inPlace = false → after.page.reservations = before.page.reservations) := by
  rcases register_steps ends with refused | ⟨_, _, _, _, listed, _, ends⟩
  · exact .inl refused
  · have keeps : (if settled.inPlace = true then onPage (SystemPage.reserve settled.start size)
        else pure () : BootAct ω μ Unit).Respects
        (Same fun loader => (loader.page.programs, loader.memory)) := by
      split
      · exact respects_reserve
      · exact respects_pure
    obtain ⟨programs, memory⟩ := Prod.ext_iff.mp (keeps.ends ends)
    refine .inr ⟨⟨settled.start, settled.stop, _, _, _, flags⟩, programs, rfl, rfl, rfl, listed,
      rfl, memory, fun copied => ?_⟩
    rw [copied, if_neg Bool.false_ne_true] at ends
    rw [← ends.2]
    rfl

/-- What a secure command measured, and the loader before and after that. -/
structure Measurement (ω μ : Type) where
  handle : Handle
  measured : Measured
  opened : Loader ω μ
  reached : Loader ω μ

/-- The measurement is that of the image that was asked for. -/
structure Measurement.Taken (measurement : Measurement ω μ) (request : SecureRequest)
    (before : Loader ω μ) : Prop where
  opening : (onFiles (openImage request.device request.image) : BootAct ω μ Handle).Ends before
    (.done measurement.handle) measurement.opened
  measuring : (measureImage measurement.handle request.map request.mode request.algorithm :
    BootAct ω μ Measured).Ends measurement.opened (.done measurement.measured) measurement.reached

/-- A command measures an image in one way only. -/
theorem Measurement.Taken.unique {first second : Measurement ω μ} {request : SecureRequest}
    (taken : first.Taken request before) (again : second.Taken request before) :
    first.measured = second.measured := by
  obtain ⟨handle, opened⟩ := taken.opening.unique again.opening
  have measuring := taken.measuring
  rw [Outcome.done.inj handle, opened] at measuring
  exact Outcome.done.inj (measuring.unique again.measuring).1

variable [LawfulMemory μ]

/-- A measurement vouches for the program that was registered: its image is what the file
gave, and the digest of that is the expected one. If it was copied, it lies in memory;
otherwise nothing was written, and the device served it after it had shown where it is. -/
structure Measurement.Vouches (measurement : Measurement ω μ) (request : SecureRequest)
    (contents : Bytes) (before after : Loader ω μ) (program : Program) : Prop where
  taken : measurement.Taken request before
  registered : after.page.programs = before.page.programs ++ [program]
  served : ∃ files, Files.Serves measurement.handle 0 contents files measurement.reached.files
  hashed : measurement.measured.digest = Trust.digestOf request.algorithm contents
  expected : measurement.measured.digest.bytes = request.expected.bytes
  extent : program.stop.toNat = program.start.toNat + contents.length
  copied : program.flags.noCopy = false →
    Deposited before.memory after.memory program.start.toNat contents ∧
    (LawfulMemory.Sound before.memory →
      bytesAt? after.memory program.start.toNat contents.length = some contents)
  inPlace : program.flags.noCopy = true → after.memory = before.memory ∧
    ∃ asked shown, (Files.stat measurement.handle).Ends measurement.opened.files
        (.done contents.length) asked ∧
      ShownAt measurement.handle contents.length program.start asked shown ∧
      Files.Serves measurement.handle 0 contents shown measurement.reached.files

omit [Hardware ω] [PhysicalMemory μ] [LawfulMemory μ] in
theorem noCopy_of (exec noCopy : Bool) : (ProgramFlags.of exec noCopy).noCopy = noCopy := by
  cases exec <;> cases noCopy <;> rfl

/-- Registering an image that was settled is vouched for by its measurement. -/
theorem vouches_of_register {request : SecureRequest} {settled : Settled} {digest : Digest}
    {contents : Bytes} {opened reached : Loader ω μ} {program : Program}
    (taken : Measurement.Taken ⟨handle, ⟨settled.start, some settled.stop, settled.inPlace,
      contents.length, digest⟩, opened, reached⟩ request before)
    (expected : digest.bytes = request.expected.bytes)
    (measured : MeasuredAs handle request.algorithm opened reached
      ⟨settled.start, some settled.stop, settled.inPlace, contents.length, digest⟩ contents)
    (registered : after.page.programs = before.page.programs ++ [program])
    (start : program.start = settled.start) (stop : program.stop = settled.stop)
    (flags : program.flags = ProgramFlags.of request.exec settled.inPlace)
    (memory : after.memory = reached.memory) :
    Measurement.Vouches ⟨handle, ⟨settled.start, some settled.stop, settled.inPlace,
      contents.length, digest⟩, opened, reached⟩ request contents before after program := by
  have extent : program.stop.toNat = program.start.toNat + contents.length := by
    rw [start, stop]
    exact Address.advance?_eq_some_iff.mp measured.stop.symm
  have unchanged := (onFiles_done taken.opening).2.memory
  refine ⟨taken, registered, measured.served, measured.digest, expected, extent, ?_, ?_⟩
  · intro copied
    rw [flags, noCopy_of] at copied
    have deposited := measured.copied copied
    rw [unchanged, ← memory, ← start] at deposited
    refine ⟨deposited, ?_⟩
    intro sound
    have bound := program.stop.toNat_lt
    exact LawfulMemory.bytesAt?_of_deposited sound deposited (by omega)
  · intro shown
    rw [flags, noCopy_of] at shown
    obtain ⟨unwritten, asked, files, sized, shown, served⟩ := measured.shown shown
    rw [unchanged, ← memory] at unwritten
    rw [start]
    exact ⟨unwritten, asked, files, sized, shown, served⟩

/-- A secure command registers nothing, or a program that its measurement vouches for. -/
theorem placeVerified_ends {request : SecureRequest} {outcome : Outcome BootError Unit}
    (ends : (placeVerified request : BootAct ω μ Unit).Ends before outcome after) :
    (Untouched before after ∧ outcome ≠ .done ()) ∨
    ∃ (measurement : Measurement ω μ) (contents : Bytes) (program : Program),
      measurement.Vouches request contents before after program := by
  have copies : (withFile (openImage request.device request.image) fun handle =>
      settleVerified request handle : BootAct ω μ (Settled × Nat)).Respects Copies :=
    respects_withFile (fun _ _ => OnlyFiles.copies) fun _ =>
      (peeks_of_onlyFiles fun _ _ => OnlyFiles.copies).settleVerified fun _ _ _ =>
        respects_copyToMap
  rcases ends_bind.mp ends with ⟨⟨settled, size⟩, closed, here, ends⟩ | ⟨halt, here, halts⟩
  · have untouched := (copies.ends here).untouched
    rcases register_ends (ends_note_bind.mp ends) with ⟨rfl, refused⟩ |
      ⟨program, registered, start, stop, flags, _, _, memory, _⟩
    · exact .inl ⟨untouched, refused⟩
    · rcases withFile_ends here with ⟨handle, opened, ending, reached, opening, inside, only,
        yields⟩ | ⟨_, refused⟩
      · rw [yields _ rfl] at inside
        obtain ⟨digest, measuring, expected⟩ := settleVerified_ends inside
        obtain ⟨contents, measured⟩ := measureImage_ends measuring
        obtain rfl : contents.length = size := measured.length
        refine .inr ⟨_, contents, program, vouches_of_register ⟨opening, measuring⟩ expected
          measured ?_ start stop flags ?_⟩
        · rw [registered, untouched.programs]
        · rw [memory, only.memory]
      · exact absurd rfl (refused _)
  · exact .inl ⟨(copies.ends here).untouched, halts.ne_done ()⟩

/-! ## The commands -/

/-- What a secure command does, given how it takes its arguments apart. -/
theorem secure_ends {decode : BootAct ω μ SecureRequest} (keeps : decode.Respects (Same id))
    {outcome : Outcome BootError Unit}
    (ends : (do let request ← decode; placeVerified request : BootAct ω μ Unit).Ends before outcome
      after) :
    (Untouched before after ∧ outcome ≠ .done ()) ∨
    ∃ (request : SecureRequest) (measurement : Measurement ω μ) (contents : Bytes)
      (program : Program), decode.Ends before (.done request) before ∧
      measurement.Vouches request contents before after program := by
  rcases ends_bind.mp ends with ⟨request, middle, decoded, placing⟩ | ⟨halt, decoded, halts⟩
  · obtain rfl : middle = before := keeps.ends decoded
    rcases placeVerified_ends placing with refused | ⟨measurement, contents, program, vouches⟩
    · exact .inl refused
    · exact .inr ⟨request, measurement, contents, program, decoded, vouches⟩
  · obtain rfl : after = before := keeps.ends decoded
    exact .inl ⟨⟨rfl, rfl, rfl⟩, halts.ne_done ()⟩

/-- A secure command registers nothing at all, or a program that its measurement vouches for.
Whenever the digest that it computes is not the expected one, it registers nothing and does
not succeed. -/
structure Gated (decode : BootAct ω μ SecureRequest) (command : BootAct ω μ Unit)
    (loader : Loader ω μ) : Prop where
  vouched : Untouched loader (command.run loader).state ∨
    ∃ (request : SecureRequest) (measurement : Measurement ω μ) (contents : Bytes)
      (program : Program), decode.Ends loader (.done request) loader ∧
      measurement.Vouches request contents loader (command.run loader).state program
  refused : ∀ (request : SecureRequest) (measurement : Measurement ω μ),
    decode.Ends loader (.done request) loader → measurement.Taken request loader →
    measurement.measured.digest.bytes ≠ request.expected.bytes →
    Untouched loader (command.run loader).state ∧ (command.run loader).outcome ≠ .done ()

theorem gated_of_decode {decode : BootAct ω μ SecureRequest} (keeps : decode.Respects (Same id))
    (loader : Loader ω μ) :
    Gated decode (do let request ← decode; placeVerified request) loader := by
  rcases secure_ends keeps (ends_run _ loader) with ⟨untouched, refused⟩ |
    ⟨request, measurement, contents, program, decoded, vouches⟩
  · exact ⟨.inl untouched, fun _ _ _ _ _ => ⟨untouched, refused⟩⟩
  · refine ⟨.inr ⟨request, measurement, contents, program, decoded, vouches⟩, ?_⟩
    intro other second again taken differs
    obtain rfl : request = other := Outcome.done.inj (decoded.unique again).1
    rw [taken.unique vouches.taken] at differs
    exact absurd vouches.expected differs

/-- **An image is registered by a secure command only if it has the expected digest.** This
holds of programs and of opaque files, of every argument line, and whatever the devices
answer. -/
theorem secure_images_vouched (arguments : List String) (loader : Loader ω μ) :
    Gated (secureProgram arguments) (appSecure arguments) loader ∧
      Gated (secureBlob arguments) (blobSecure arguments) loader :=
  ⟨gated_of_decode respects_secureProgram loader, gated_of_decode respects_secureBlob loader⟩

end

end Bootloader.Loader
