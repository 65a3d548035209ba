import Bootloader.Proofs.Boot.Accepting
import Bootloader.Proofs.Boot.Copying
import Bootloader.Proofs.Image.Reading

/-!
# Signed kernels

A signed kernel is accepted only if its signature verifies. The signature is what the file
gave for the section with the right name, and the digest is that of exactly the bytes that
were written to memory for the segments, in the order of their headers. What the device
answered to one read need not agree with what it answers to another, so all of this is said
of one and the same run (`SignedLoad.Verified`). As long as the signature was not verified,
there is no kernel (`kernelSecure_verifies`).
-/

set_option autoImplicit false

namespace Bootloader.Loader

open Act
open Trust (Algorithm Curve Hasher ScalarPair)

variable {ω μ : Type}

/-- There is no kernel, and nothing was reserved for one. -/
structure Unloaded (before after : Loader ω μ) : Prop where
  kernelLoaded : after.kernelLoaded = false
  kernel : after.page.kernel = SystemPage.KernelDescriptor.unknown
  reservations : after.page.reservations = before.page.reservations

/-- What a load of a signed kernel is asked for: a file of a device, and the decoded key. -/
def AsksFor (arguments : List String) (device name : String) (key : KernelKey) : Prop :=
  ∃ curve algorithm text, arguments = [device, name, curve, algorithm, text] ∧
    ScalarPair.ofBase64 text = .ok key.key ∧ Curve.ofName curve = .ok key.curve ∧
    Algorithm.ofName algorithm = .ok key.algorithm

/-- What a load of a signed kernel read and wrote, and the loader after each of its steps. -/
structure SignedLoad (ω μ : Type) where
  handle : Handle
  header : Image.FileHeader
  programs : List Image.ProgramHeader
  bss : Option Image.SectionHeader
  sections : List Image.SectionHeader
  nameTable : Image.SectionHeader
  names : Bytes
  place : Image.SectionHeader
  raw : Bytes
  signature : ScalarPair
  chunks : List (List Chunk)
  opened : Loader ω μ
  headed : Loader ω μ
  listed : Loader ω μ
  scanned : Loader ω μ
  searched : Loader ω μ
  named : Loader ω μ
  signed : Loader ω μ
  copied : Loader ω μ
  closed : Loader ω μ

variable [Hardware ω] [PhysicalMemory μ]

/-- The steps follow each other from the open file on. The signature is what the file gave
for the section with its name, and the chunks are all that was written to memory. -/
structure SignedLoad.Traced (load : SignedLoad ω μ) : Prop where
  header : (Image.openImage (sourceOf load.handle)).Ends load.opened
    (.done load.header) load.headed
  programs : (Image.programHeaders (sourceOf load.handle) load.header).Ends load.headed
    (.done load.programs) load.listed
  bss : (Image.bss? (sourceOf load.handle) load.header).Ends load.listed
    (.done load.bss) load.scanned
  sections : (Image.sectionHeaders (sourceOf load.handle) load.header).Ends load.scanned
    (.done load.sections) load.searched
  nameTable : load.sections[load.header.nameSection.toNat]? = some load.nameTable
  names : (onFiles (Files.readExact load.handle load.nameTable.offset.toNat
    load.nameTable.size.toNat) : BootAct ω μ Bytes).Ends load.searched
    (.done load.names) load.named
  place : load.sections.find? (fun section_ =>
    Image.nameAt? load.names section_.name.toNat == some (Text.encode ".signature")) =
    some load.place
  size : load.place.size.toNat = 64
  raw : (onFiles (Files.readExact load.handle load.place.offset.toNat 64) :
    BootAct ω μ Bytes).Ends load.named (.done load.raw) load.signed
  signature : ScalarPair.ofBytes load.raw = .ok load.signature
  segments : SegmentsCopied load.handle load.opened.board.kernelAddress
    (load.programs.filter Image.ProgramHeader.isLoad) load.chunks load.signed.files
    load.copied.files
  written : writeChunks load.opened.memory load.chunks.flatten = .ok load.copied.memory

/-- A load of a file that went as it should: from the loader without a kernel on, on its
board and with no other write to memory, up to a signature that verifies for the digest of
the bytes of its chunks. -/
structure SignedLoad.Verified (load : SignedLoad ω μ) (device name : String) (key : KernelKey)
    (before after : Loader ω μ) : Prop where
  opening : (onFiles (Files.openFile device (some name) 0) : BootAct ω μ Handle).Ends
    before.withoutKernel (.done load.handle) load.opened
  traced : load.Traced
  board : load.opened.board = before.board
  written : writeChunks before.memory load.chunks.flatten = .ok after.memory
  verified : (Trust.verifySignature load.signature
    (Trust.digestOf key.algorithm (Chunk.contents load.chunks.flatten)).bytes key.key
    key.curve.keyBits : Act (Loader ω μ) Trust.Error Unit).Ends load.closed (.done ()) load.closed

/-! ## What the steps leave alone -/

omit [PhysicalMemory μ] in
theorem respects_sourceOf (handle : Handle) (offset length : Nat) :
    ((sourceOf handle : Image.Source (Loader ω μ) BootError).read offset length).Respects
      OnlyFiles :=
  respects_onFiles

section

variable {relation : Loader ω μ → Loader ω μ → Prop} [IsPreorder (Loader ω μ) relation]
  {handle : Handle}
  (reads : ∀ offset length,
    (onFiles (Files.readExact handle offset length) : BootAct ω μ Bytes).Respects relation)

include reads

omit [PhysicalMemory μ] in
theorem respects_readSignature_of {header : Image.FileHeader} :
    (readSignature (sourceOf handle) header : BootAct ω μ ScalarPair).Respects relation := by
  unfold readSignature
  refine (Image.respects_sectionNamed? reads header _).bind ?_
  intro found
  refine respects_ofOption.bind fun place => respects_require.bind ?_
  intro _
  exact (reads _ _).bind fun bytes => respects_ofExcept.mapError

/-- What its reads and its writes respect, the copy of an image respects. -/
theorem respects_copyImage_of {key : Option KernelKey}
    (writes : ∀ address data, (writeMemory address data : BootAct ω μ Unit).Respects relation) :
    (copyImage handle key : BootAct ω μ Copied).Respects relation := by
  unfold copyImage
  dsimp only
  refine (Image.respects_openImage reads).bind ?_
  intro header
  refine (Image.respects_programHeaders reads header).bind ?_
  intro all
  refine respects_require.bind fun _ => (Image.respects_bss? reads header).bind ?_
  intro bss
  cases key with
  | some key =>
      refine (respects_readSignature_of reads).bind ?_
      intro signature
      exact respects_pure.bind fun _ => (respects_copySegments_of reads writes _).bind fun hasher =>
        respects_pure
  | none =>
      exact respects_pure.bind fun _ => (respects_copySegments_of reads writes _).bind fun _ =>
        respects_pure

end

omit [PhysicalMemory μ] in
theorem respects_readSignature {handle : Handle} {header : Image.FileHeader} :
    (readSignature (sourceOf handle) header : BootAct ω μ ScalarPair).Respects OnlyFiles :=
  respects_readSignature_of fun _ _ => respects_onFiles

theorem respects_copyImage {handle : Handle} {key : Option KernelKey} :
    (copyImage handle key : BootAct ω μ Copied).Respects Transfers :=
  respects_copyImage_of (fun _ _ => respects_transfers respects_onFiles)
    fun _ _ => respects_writeMemory

/-- Checking a signature leaves everything alone. -/
theorem verifySignature_keeps {σ : Type} {signature key : ScalarPair} {digest : Bytes} {bits : Nat}
    {before after : σ} {outcome : Outcome Trust.Error Unit}
    (ends : (Trust.verifySignature signature digest key bits : Act σ Trust.Error Unit).Ends before
      outcome after) : after = before := by
  have accepting : ∀ accepted : Bool, (if accepted = true
      then note (Log.Component.signatures.report .debug "ECDSA signature verified")
      else do
        note (Log.Component.signatures.report .warn
          "ECDSA signature does not match the public key")
        fail .verifyFailed : Act σ Trust.Error Unit).Respects (Same id) := by
    intro accepted
    cases accepted with
    | true => exact respects_note
    | false => exact respects_note.bind fun _ => respects_fail
  have keeps : (Trust.verifySignature signature digest key bits :
      Act σ Trust.Error Unit).Respects (Same id) := by
    unfold Trust.verifySignature
    refine respects_require.bind ?_
    intro _
    dsimp only
    split
    · exact respects_note.bind fun _ => respects_fail.bind fun _ =>
        respects_require.bind fun _ => accepting _
    · exact respects_require.bind fun _ => accepting _
  exact keeps.ends ends

/-! ## Loading -/

omit [PhysicalMemory μ] in
/-- The signature was read from a section that was found by its name, and that has as many bytes
as a signature has. -/
theorem readSignature_steps {handle : Handle} {header : Image.FileHeader}
    {before after : Loader ω μ} {signature : ScalarPair}
    (ends : (readSignature (sourceOf handle) header : BootAct ω μ ScalarPair).Ends before
      (.done signature) after) :
    ∃ place raw named,
      (Image.sectionNamed? (sourceOf handle) header Image.signatureSection).Ends before
        (.done (some place)) named ∧
      place.size.toNat = Trust.signatureLength ∧
      (onFiles (Files.readExact handle place.offset.toNat Trust.signatureLength) :
        BootAct ω μ Bytes).Ends named (.done raw) after ∧
      ScalarPair.ofBytes raw = .ok signature := by
  obtain ⟨found, named, here, ends⟩ := ends_bind_done.mp ends
  rcases ends_ofOption_bind.mp ends with ⟨place, rfl, ends⟩ | ⟨_, failed, _⟩
  · rcases ends_require_bind.mp ends with ⟨size, ends⟩ | ⟨_, failed, _⟩
    · obtain ⟨raw, left, read, ends⟩ := ends_bind_done.mp ends
      obtain ⟨parsed, rfl⟩ := ends_ofExcept_done.mp (ends_mapError_done.mp ends)
      exact ⟨place, raw, named, here, by simpa using size, read, parsed⟩
    · cases failed
  · cases failed

/-- The steps of a completed copy of a signed image. -/
theorem copyImage_steps {handle : Handle} {key : KernelKey} {before after : Loader ω μ}
    {copied : Copied}
    (ends : (copyImage handle (some key) : BootAct ω μ Copied).Ends before (.done copied) after) :
    ∃ header programs bss signature hasher headed listed scanned signed,
      (Image.openImage (sourceOf handle)).Ends before (.done header) headed ∧
      (Image.programHeaders (sourceOf handle) header).Ends headed (.done programs) listed ∧
      (Image.bss? (sourceOf handle) header).Ends listed (.done bss) scanned ∧
      (readSignature (sourceOf handle) header : BootAct ω μ ScalarPair).Ends scanned
        (.done signature) signed ∧
      (copySegments handle (some (Hasher.start key.algorithm))
        (programs.filter Image.ProgramHeader.isLoad) : BootAct ω μ (Option Hasher)).Ends signed
        (.done hasher) after ∧
      copied = ⟨header, programs.filter Image.ProgramHeader.isLoad, bss, some signature, hasher⟩ := by
  unfold copyImage at ends
  dsimp only at ends
  obtain ⟨header, headed, opening, ends⟩ := ends_bind_done.mp ends
  obtain ⟨programs, listed, listing, ends⟩ := ends_bind_done.mp ends
  rcases ends_require_bind.mp ends with ⟨_, ends⟩ | ⟨_, failed, _⟩
  · obtain ⟨bss, scanned, scanning, ends⟩ := ends_bind_done.mp ends
    obtain ⟨signature, signed, signing, ends⟩ := ends_bind_done.mp ends
    obtain ⟨hasher, left, copying, done, same⟩ := ends_bind_done.mp (ends_pure_bind.mp ends)
    subst same
    exact ⟨header, programs, bss, signature, hasher, headed, listed, scanned, signed, opening,
      listing, scanning, signing, copying, (Outcome.done.inj done).symm⟩
  · cases failed

/-- What a completed copy of a signed image read and wrote. -/
theorem copyImage_ends {handle : Handle} {key : KernelKey} {before after : Loader ω μ}
    {copied : Copied}
    (ends : (copyImage handle (some key) : BootAct ω μ Copied).Ends before (.done copied) after)
    (closed : Loader ω μ) :
    ∃ load : SignedLoad ω μ, load.handle = handle ∧ load.opened = before ∧ load.copied = after ∧
      load.closed = closed ∧ load.Traced ∧ copied.signature = some load.signature ∧
      copied.hasher = some (((load.chunks.flatten.map Chunk.bytes).foldl Hasher.feed
        (Hasher.start key.algorithm))) := by
  obtain ⟨header, programs, bss, signature, hasher, headed, listed, scanned, signed, opening,
    listing, scanning, signing, copying, rfl⟩ := copyImage_steps ends
  have only : OnlyFiles before signed :=
    ((((Image.respects_openImage (respects_sourceOf handle)).ends opening).trans
      ((Image.respects_programHeaders (respects_sourceOf handle) header).ends listing)).trans
      ((Image.respects_bss? (respects_sourceOf handle) header).ends scanning)).trans
      (respects_readSignature.ends signing)
  obtain ⟨place, raw, named, locating, size, reading, scalars⟩ := readSignature_steps signing
  obtain ⟨sections, nameTable, names, searched, sectioning, table, _, naming, found⟩ :=
    Image.sectionNamed?_ends.mp locating
  obtain ⟨chunks, segments, written, fed⟩ := copySegments_ends copying
  rw [only.board] at segments
  rw [only.memory] at written
  exact ⟨⟨handle, header, programs, bss, sections, nameTable, names, place, raw, signature,
    chunks, before, headed, listed, scanned, searched, named, signed, after, closed⟩, rfl, rfl,
    rfl, rfl, ⟨opening, listing, scanning, sectioning, table, naming, found, size, reading, scalars,
      segments, written⟩, rfl, fed⟩

omit [Hardware ω] in
/-- A transfer leaves a loader that has forgotten its kernel without one. -/
theorem unloaded_of_transfers {before after : Loader ω μ}
    (transfers : Transfers before.withoutKernel after) : Unloaded before after := by
  refine ⟨?_, ?_, ?_⟩
  all_goals
    rw [transfers.rest]
    rfl

omit [Hardware ω] [PhysicalMemory μ] in
/-- The check of a signed image passes only if its signature verifies. -/
theorem checkSignature_ends {key : KernelKey} {copied : Copied} {signature : ScalarPair}
    {hasher : Hasher} (found : copied.signature = some signature)
    (hashed : copied.hasher = some hasher) {before after : Loader ω μ}
    {outcome : Outcome BootError Unit}
    (ends : (checkSignature (some key) copied : BootAct ω μ Unit).Ends before outcome after) :
    after = before ∧ (outcome = .done () →
      (Trust.verifySignature signature hasher.finish.bytes key.key key.curve.keyBits :
        Act (Loader ω μ) Trust.Error Unit).Ends before (.done ()) before) := by
  obtain ⟨_, _, _, _, _⟩ := copied
  cases found
  cases hashed
  rcases ends_bind.mp ends with ⟨_, middle, here, reported⟩ | ⟨halt, here, halts⟩
  · obtain ⟨ending, inside, renamed⟩ := ends_mapError.mp here
    rw [mapError_eq_done.mp renamed] at inside
    have kept := verifySignature_keeps inside
    rw [kept] at inside reported
    exact ⟨(ends_report.mp reported).2.symm, fun _ => inside⟩
  · obtain ⟨ending, inside, _⟩ := ends_mapError.mp here
    exact ⟨verifySignature_keeps inside, fun done => absurd done (halts.ne_done ())⟩

omit [Hardware ω] [PhysicalMemory μ] in
/-- Checking the signature of an image leaves everything alone. -/
theorem respects_checkSignature {key : Option KernelKey} {copied : Copied} :
    (checkSignature key copied : BootAct ω μ Unit).Respects (Same id) := by
  unfold checkSignature
  split
  · refine Respects.bind (Respects.mapError ?_) fun _ => respects_note
    exact respects_of_ends fun ends => verifySignature_keeps ends
  · exact respects_pure

/-- An image that was copied and checked, on the way from a loader without a kernel. -/
structure CopiedImage (device : String) (name : Option String) (key : Option KernelKey)
    (before : Loader ω μ) (copied : Copied) (closed : Loader ω μ) : Prop where
  copying : (withFile (Files.openFile device name 0) fun handle => copyImage handle key :
    BootAct ω μ Copied).Ends before.withoutKernel (.done copied) closed
  checking : (checkSignature key copied : BootAct ω μ Unit).Ends closed (.done ()) closed

theorem respects_copying {device : String} {name : Option String} {key : Option KernelKey} :
    (withFile (Files.openFile device name 0) fun handle => copyImage handle key :
      BootAct ω μ Copied).Respects Transfers :=
  respects_withFile (fun _ _ => OnlyFiles.transfers) fun _ => respects_copyImage

theorem CopiedImage.transfers {device : String} {name : Option String} {key : Option KernelKey}
    {before closed : Loader ω μ} {copied : Copied}
    (image : CopiedImage device name key before copied closed) :
    Transfers before.withoutKernel closed :=
  respects_copying.ends image.copying

/-- A load forgets the former kernel. Then it fails without more than a transfer, or copies and
checks an image and takes it for the kernel. -/
theorem loadKernel_steps {device : String} {name : Option String} {key : Option KernelKey}
    {before after : Loader ω μ} {outcome : Outcome BootError Unit}
    (ends : (loadKernel device name key : BootAct ω μ Unit).Ends before outcome after) :
    (outcome ≠ .done () ∧ Transfers before.withoutKernel after) ∨
    ∃ copied closed, CopiedImage device name key before copied closed ∧
      (acceptKernel device copied : BootAct ω μ Unit).Ends closed outcome after := by
  rw [loadKernel, ends_forgetKernel_bind] at ends
  rcases ends_bind.mp ends with ⟨copied, closed, here, ends⟩ | ⟨halt, here, halts⟩
  · rcases ends_bind.mp ends with ⟨_, checked, check, accepting⟩ | ⟨halt, check, halts⟩
    · obtain rfl : checked = closed := respects_checkSignature.ends check
      exact .inr ⟨copied, checked, ⟨here, check⟩, accepting⟩
    · obtain rfl : after = closed := respects_checkSignature.ends check
      exact .inl ⟨halts.ne_done (), respects_copying.ends here⟩
  · exact .inl ⟨halts.ne_done (), respects_copying.ends here⟩

/-- A load that was not verified leaves nothing behind, and one that was verified fails by
the page at most. -/
theorem loadKernel_ends {device name : String} {key : KernelKey} {before after : Loader ω μ}
    {outcome : Outcome BootError Unit}
    (ends : (loadKernel device (some name) (some key) : BootAct ω μ Unit).Ends before outcome
      after) :
    (Unloaded before after ∧ outcome ≠ .done ()) ∨
    ∃ load : SignedLoad ω μ, load.Verified device name key before after ∧
      (outcome = .done () ∨ ∃ error, outcome = .failed (.page error)) := by
  rcases loadKernel_steps ends with ⟨refused, transfers⟩ | ⟨copied, closed, image, accepting⟩
  · exact .inl ⟨unloaded_of_transfers transfers, refused⟩
  · rcases withFile_ends image.copying with ⟨handle, opened, ending, left, opening, inside, only,
      yields⟩ | ⟨_, refused⟩
    · rw [yields copied rfl] at inside
      obtain ⟨load, rfl, rfl, rfl, rfl, traced, signature, hasher⟩ := copyImage_ends inside closed
      have accepted := (checkSignature_ends signature hasher image.checking).2 rfl
      rw [Hasher.finish_foldl_feed] at accepted
      obtain ⟨reached, _, _, reserves, settled⟩ := acceptKernel_ends accepting
      have kept : after.memory = load.closed.memory := by
        have same : reached.memory = load.closed.memory := by
          rw [reserves.only, describing_memory]
        rcases settled with ⟨_, _, rfl⟩ | ⟨rfl, _⟩
        · exact same
        · exact same
      refine .inr ⟨load, ⟨opening, traced, (onFiles_done opening).2.board, ?_, accepted⟩, ?_⟩
      · rw [kept, only.memory, ← traced.written, (onFiles_done opening).2.memory]
        rfl
      · rcases settled with ⟨done, _⟩ | ⟨_, _, _, reason, _, failed, _⟩
        · exact .inl done
        · exact .inr ⟨reason, failed⟩
    · exact absurd rfl (refused copied)

theorem AsksFor.unique {arguments : List String} {device name other file : String}
    {key second : KernelKey} (first : AsksFor arguments device name key)
    (again : AsksFor arguments other file second) : device = other ∧ name = file ∧ key = second := by
  obtain ⟨curve, algorithm, text, rfl, decoded, known, hash⟩ := first
  obtain ⟨_, _, _, same, decoded', known', hash'⟩ := again
  obtain ⟨_, _, _⟩ := key
  obtain ⟨_, _, _⟩ := second
  cases same
  cases decoded.symm.trans decoded'
  cases known.symm.trans known'
  cases hash.symm.trans hash'
  exact ⟨rfl, rfl, rfl⟩

/-- A request whose arguments decode is a load; any other one changes nothing. -/
theorem kernelSecure_ends {arguments : List String} {before after : Loader ω μ}
    {outcome : Outcome BootError Unit}
    (ends : (kernelSecure arguments : BootAct ω μ Unit).Ends before outcome after) :
    (∃ device name key, AsksFor arguments device name key ∧
      (loadKernel device (some name) (some key) : BootAct ω μ Unit).Ends before outcome after) ∨
    ((∀ device name key, ¬ AsksFor arguments device name key) ∧ outcome ≠ .done ()) := by
  unfold kernelSecure at ends
  split at ends
  case h_1 device name curve algorithm text =>
    rcases ends_bind.mp ends with ⟨key, middle, here, ends⟩ | ⟨halt, here, halts⟩
    · obtain ⟨ending, inside, renamed⟩ := ends_mapError.mp here
      rw [mapError_eq_done.mp renamed] at inside
      simp only [ends_ofExcept_bind, ends_pure, reduceCtorEq, false_and, and_false, exists_false,
        or_false, Outcome.done.injEq] at inside
      obtain ⟨pair, decoded, known, named, hash, chosen, rfl, rfl⟩ := inside
      exact .inl ⟨device, name, _, ⟨curve, algorithm, text, rfl, decoded, named, chosen⟩, ends⟩
    · obtain ⟨ending, inside, renamed⟩ := ends_mapError.mp here
      refine .inr ⟨?_, ?_⟩
      · rintro _ _ key ⟨_, _, _, same, decoded, named, chosen⟩
        cases same
        have reads : (do
          let key ← Act.ofExcept (ScalarPair.ofBase64 text)
          let curve ← Act.ofExcept (Curve.ofName curve)
          let algorithm ← Act.ofExcept (Algorithm.ofName algorithm)
          return { curve, algorithm, key : KernelKey } :
            Act (Loader ω μ) Trust.Error KernelKey).Ends before (.done key) before := by
          rw [decoded, named, chosen]
          exact ⟨rfl, rfl⟩
        obtain ⟨same, _⟩ := reads.unique inside
        subst same
        subst renamed
        cases halts
      · exact halts.ne_done ()
  case h_2 other =>
    obtain ⟨failed, _⟩ := ends
    refine .inr ⟨?_, ?_⟩
    · rintro device name key ⟨curve, algorithm, text, same, _⟩
      exact other _ _ _ _ _ same
    · rintro rfl
      cases failed

/-- **A signed kernel is loaded only if its signature verifies.** If the command succeeds,
its arguments decode to a key, and the signature that the file gave for the section of that
name verifies, under that key, for the digest of exactly the bytes that were written to
memory. If the arguments decode to a key, then either that much holds, or there is no kernel
and nothing was reserved for one; there is none if the signature is missing, or the command
fails for want of trust. -/
theorem kernelSecure_verifies (arguments : List String) (loader : Loader ω μ) :
    let ending := (kernelSecure arguments : BootAct ω μ Unit).run loader
    (ending.outcome = .done () → ∃ device name key, AsksFor arguments device name key ∧
      ∃ load : SignedLoad ω μ, load.Verified device name key loader ending.state) ∧
    ∀ device name key, AsksFor arguments device name key →
      ((∃ load : SignedLoad ω μ, load.Verified device name key loader ending.state) ∨
        Unloaded loader ending.state) ∧
      (ending.outcome = .failed .noSignature ∨ (∃ error, ending.outcome = .failed (.trust error)) →
        Unloaded loader ending.state) := by
  intro ending
  have ends := ends_run (kernelSecure arguments : BootAct ω μ Unit) loader
  rcases kernelSecure_ends ends with ⟨device, name, key, asks, ends⟩ | ⟨undecoded, refused⟩
  · rcases loadKernel_ends ends with ⟨unloaded, refused⟩ | ⟨load, verified, outcomes⟩
    · exact ⟨fun done => absurd done refused, fun _ _ _ _ => ⟨.inr unloaded, fun _ => unloaded⟩⟩
    · refine ⟨fun _ => ⟨device, name, key, asks, load, verified⟩, ?_⟩
      intro other file second again
      obtain ⟨rfl, rfl, rfl⟩ := asks.unique again
      refine ⟨.inl ⟨load, verified⟩, ?_⟩
      intro untrusted
      rcases outcomes with done | ⟨_, failed⟩
      · rcases untrusted with missing | ⟨_, missing⟩
        · cases done.symm.trans missing
        · cases done.symm.trans missing
      · rcases untrusted with missing | ⟨_, missing⟩
        · cases failed.symm.trans missing
        · cases failed.symm.trans missing
  · exact ⟨fun done => absurd done refused, fun device name key asks =>
      absurd asks (undecoded device name key)⟩

end Bootloader.Loader
