import Bootloader.Proofs.Boot.SignedContents
import Bootloader.Proofs.Trust.Signatures

/-!
# What a signature binds

A signature is made for the contents of the segments that are loaded, one after the other, and for
nothing else that an image says. So two images that a signed load takes with one key and one
signature have the same contents, as far as the digest tells contents apart. Where each byte of
the contents goes, and where the kernel is entered, each image says in headers of its own. If they
send the bytes to the same addresses, then the two loads write the same addresses and leave the
same bytes there (`kernelSecure_binds`). Nothing makes them do so: the check goes through for every
image with these contents (`checkSignature_of_contents`), so one signature can stand for different
entries and for different memory (`kernelSecure_unbound`).
-/

set_option autoImplicit false

namespace Bootloader

open Act

/-! ## Bytes one by one -/

/-- What is at a place after bytes were put to places, one after the other. -/
def putEach (writes : List (Nat × UInt8)) (place : Nat) (below : Option UInt8) : Option UInt8 :=
  writes.foldl (fun held write => if write.1 = place then some write.2 else held) below

theorem putEach_append (first second : List (Nat × UInt8)) (place : Nat) (below : Option UInt8) :
    putEach (first ++ second) place below = putEach second place (putEach first place below) :=
  List.foldl_append

/-- Laying data over what was there is putting its bytes to the places from a start on. -/
theorem laidOver_eq_putEach (start : Nat) (data : Bytes) (place : Nat) (below : Option UInt8) :
    laidOver start data place below =
      putEach ((List.range' start data.length).zip data) place below := by
  induction data generalizing start below with
  | nil =>
      refine if_neg fun inside => ?_
      rw [List.length_nil] at inside
      omega
  | cons byte rest ih =>
      have first : laidOver start [byte] place below = if start = place then some byte else below := by
        unfold laidOver
        by_cases here : start = place
        · subst here
          simp
        · rw [if_neg here, if_neg]
          rw [List.length_singleton]
          omega
      rw [List.length_cons, List.range'_succ, List.zip_cons_cons, putEach, List.foldl_cons,
        ← putEach, ← ih, ← first]
      exact (laidOver_laidOver start [byte] rest place below).symm

/-- Chunks that follow each other hold a range of places. -/
theorem Chunk.Contiguous.holds_iff {start : Nat} {chunks : List Chunk}
    (contiguous : Chunk.Contiguous start chunks) (place : Address) :
    (∃ chunk ∈ chunks, chunk.Holds place) ↔
      start ≤ place.toNat ∧ place.toNat < start + (Chunk.contents chunks).length := by
  induction chunks generalizing start with
  | nil =>
      refine ⟨nofun, fun inside => ?_⟩
      rw [Chunk.contents, List.flatMap_nil, List.length_nil] at inside
      omega
  | cons chunk rest ih =>
      obtain ⟨here, contiguous⟩ := contiguous
      rw [List.exists_mem_cons_iff, ih contiguous, Chunk.Holds, Address.le_def, here,
        Chunk.contents_cons, List.length_append]
      omega

namespace Loader

open Trust (ScalarPair)

variable {ω μ : Type} [Hardware ω] {handle : Handle} {image other : Bytes}

/-- The addresses that the bytes of the contents of segments go to, one after the other. -/
def targets (place : Image.ProgramHeader → Address) (segments : List Image.ProgramHeader) :
    List Nat :=
  segments.flatMap fun segment => List.range' (place segment).toNat segment.fileSize.toNat

theorem targets_cons {place : Image.ProgramHeader → Address} (segment : Image.ProgramHeader)
    (rest : List Image.ProgramHeader) : targets place (segment :: rest) =
      List.range' (place segment).toNat segment.fileSize.toNat ++ targets place rest :=
  List.flatMap_cons

/-- The chunks of segments that were copied hold the addresses that their bytes go to. -/
theorem SegmentsCopied.holds_iff {place : Image.ProgramHeader → Address}
    {segments : List Image.ProgramHeader} {chunks : List (List Chunk)} {files left : Files ω}
    (copied : SegmentsCopied handle place segments chunks files left) (address : Address) :
    (∃ chunk ∈ chunks.flatten, chunk.Holds address) ↔ address.toNat ∈ targets place segments := by
  induction copied with
  | done files => exact ⟨nofun, nofun⟩
  | segment served length contiguous later ih =>
      simp only [List.flatten_cons, List.mem_append, or_and_right, exists_or]
      rw [ih, contiguous.holds_iff, length, targets_cons, List.mem_append, List.mem_range'_1]

section

variable [PhysicalMemory μ] [LawfulMemory μ]

/-- In memory their bytes were put to these addresses, one after the other. -/
theorem SegmentsCopied.byteAt {place : Image.ProgramHeader → Address}
    {segments : List Image.ProgramHeader} {chunks : List (List Chunk)} {files left : Files ω}
    {before after : μ} (copied : SegmentsCopied handle place segments chunks files left)
    (sound : LawfulMemory.Sound before) (written : writeChunks before chunks.flatten = .ok after)
    (address : Address) :
    byteAt? after address = putEach ((targets place segments).zip (Chunk.contents chunks.flatten))
      address.toNat (byteAt? before address) := by
  induction copied generalizing before with
  | done files =>
      cases written
      rfl
  | segment served length contiguous later ih =>
      -- the other segments are put over what this one left
      obtain ⟨between, first, written⟩ := writeChunks_append.mp written
      rw [ih (LawfulMemory.sound_writeChunks sound first) written,
        LawfulMemory.byteAt_writeChunks sound contiguous first, laidOver_eq_putEach,
        ← putEach_append, List.flatten_cons, Chunk.contents_append, targets_cons, length,
        List.zip_append]
      rw [List.length_range', length]

end

/-! ## What an image says, and what is made of it -/

/-- What an image has for a signed load: its header, the segments that are to be loaded, and the
signature in its section for one. -/
structure Offers (image : Bytes) (header : Image.FileHeader) (segments : List Image.ProgramHeader)
    (signature : ScalarPair) : Prop where
  opens : (Image.openImage (Image.Source.ofBytes image)).Ends () (.done header) ()
  lists : ∃ programs, (Image.programHeaders (Image.Source.ofBytes image) header).Ends ()
    (.done programs) () ∧ segments = programs.filter Image.ProgramHeader.isLoad
  signed : ∃ place, (Signing.findSignature image).Ends () (.done (some place)) () ∧
    place.part.of image = signature.toBytes

theorem Offers.unique {header again : Image.FileHeader}
    {segments others : List Image.ProgramHeader} {signature second : ScalarPair}
    (one : Offers image header segments signature) (other : Offers image again others second) :
    header = again ∧ segments = others ∧ signature = second := by
  obtain ⟨programs, listed, rfl⟩ := one.lists
  obtain ⟨_, listed', rfl⟩ := other.lists
  obtain ⟨place, located, read⟩ := one.signed
  obtain ⟨_, located', read'⟩ := other.signed
  cases (one.opens.unique other.opens).1
  cases (listed.unique listed').1
  cases (located.unique located').1
  exact ⟨rfl, rfl, ScalarPair.toBytes_injective (read.symm.trans read')⟩

variable [PhysicalMemory μ] {before after before' after' : Loader ω μ}

/-- An image is taken for the kernel, on a request for a signed load with a key, from a file that
reads as this image every time. -/
def TakesSigned (image : Bytes) (key : KernelKey) (before after : Loader ω μ) : Prop :=
  ∃ arguments call, secureCall arguments = .ok call ∧ call.key = some key ∧
    call.ServedAs image before ∧
    (kernelSecure arguments : BootAct ω μ Unit).Ends before (.done ()) after

/-- An image was loaded: the kernel is entered where the header says, the addresses that were
written are those that the bytes of its segments go to, and these bytes were put there. -/
structure Resides (image : Bytes) (header : Image.FileHeader)
    (segments : List Image.ProgramHeader) (before after : Loader ω μ) : Prop where
  entry : after.page.kernel.entry = Address.ofNat header.entry.toNat
  written : ∃ (handle : Handle) (chunks : List (List Chunk)) (files left : Files ω),
    SegmentsCopied handle before.board.kernelAddress segments chunks files left ∧
    writeChunks before.memory chunks.flatten = .ok after.memory ∧
    ∀ address, (∃ chunk ∈ chunks.flatten, chunk.Holds address) ↔
      address.toNat ∈ targets before.board.kernelAddress segments
  resident : ∀ address, byteAt? after.memory address =
    putEach ((targets before.board.kernelAddress segments).zip (Image.contentsOf image segments))
      address.toNat (byteAt? before.memory address)

/-- A signed load that ended as it should made the call that its arguments ask for. -/
theorem TakesSigned.made {key : KernelKey} (taken : TakesSigned image key before after) :
    ∃ device name, LoadCall.ServedAs ⟨device, some name, some key⟩ image before ∧
      (LoadCall.run ⟨device, some name, some key⟩ : BootAct ω μ Unit).Ends before (.done ())
        after := by
  obtain ⟨arguments, call, asked, keyed, served, ends⟩ := taken
  obtain ⟨device, name, key, rfl, _⟩ := secureCall_ok asked
  cases keyed
  rw [kernelSecure_eq, asked] at ends
  exact ⟨device, name, served, ends⟩

/-- What was copied of an image with a key offers the signature that is checked, for the contents
that the digest is of. -/
theorem Concurs.offers {algorithm : Trust.Algorithm} {signature : ScalarPair} {digest : Bytes}
    {header : Image.FileHeader} {programs : List Image.ProgramHeader} {place : Image.SectionHeader}
    (concurs : Concurs image algorithm signature digest header programs place) :
    Offers image header (programs.filter Image.ProgramHeader.isLoad) signature :=
  ⟨concurs.opens, ⟨programs, concurs.lists, rfl⟩, place, concurs.located, concurs.read⟩

/-- An image that is taken offers a signature that is accepted for its contents. -/
theorem TakesSigned.offers {key : KernelKey} (taken : TakesSigned image key before after) :
    ∃ header segments signature, Offers image header segments signature ∧
      Trust.Accepts signature
        (Trust.digestOf key.algorithm (Image.contentsOf image segments)).bytes key.key := by
  obtain ⟨device, name, served, made⟩ := taken.made
  rcases loadKernel_steps made with ⟨refused, _⟩ | ⟨copied, closed, copying, _⟩
  · exact absurd rfl refused
  · obtain ⟨signature, hasher, header, programs, place, found, fed, concurs⟩ :=
      copying_concurs served copying.copying
    have checked := (checkSignature_ends found fed copying.checking).2 rfl
    have accepted := (Trust.verifySignature_done_iff.mp checked).2.1
    rw [concurs.hashed] at accepted
    exact ⟨header, _, signature, concurs.offers, accepted⟩

/-- An image that is taken resides where its headers say. -/
theorem TakesSigned.resides [LawfulMemory μ] {key : KernelKey} {header : Image.FileHeader}
    {segments : List Image.ProgramHeader} {signature : ScalarPair}
    (taken : TakesSigned image key before after) (sound : LawfulMemory.Sound before.memory)
    (offers : Offers image header segments signature) :
    Resides image header segments before after := by
  obtain ⟨device, name, served, made⟩ := taken.made
  -- what was loaded was read of the image, so its tables are those that the image offers
  obtain ⟨handle, opened, copied, loaded⟩ := LoadCall.run_loads made
  have steady := served handle opened loaded.opening
  obtain ⟨programs, sections, stated, taken, _⟩ := loaded.states steady
  have known : Offers image copied.header copied.segments signature :=
    ⟨stated.opens, ⟨programs, stated.programs, taken⟩, offers.signed⟩
  obtain ⟨rfl, rfl, _⟩ := known.unique offers
  obtain ⟨signed, left, chunks, peruses, segments, written⟩ := loaded.contents
  refine ⟨?entry, ⟨handle, chunks, _, _, segments, written, segments.holds_iff⟩, ?resident⟩
  case entry =>
    rw [loaded.kernel]
    rfl
  case resident =>
    rw [← (segments.contents (peruses.2 _ steady)).1]
    exact segments.byteAt sound written

/-- **The check of a signed load looks at nothing but the contents.** If an image is taken with a
key, then any other image that offers the same signature for the same contents passes the check,
whatever else its headers say. -/
theorem checkSignature_of_contents {key : KernelKey} {header header' : Image.FileHeader}
    {segments segments' : List Image.ProgramHeader} {signature : ScalarPair} {device : String}
    {name : Option String} {copied : Copied} {closed : Loader ω μ}
    (taken : TakesSigned image key before after) (offers : Offers image header segments signature)
    (offers' : Offers other header' segments' signature)
    (same : Image.contentsOf other segments' = Image.contentsOf image segments)
    (served : LoadCall.ServedAs ⟨device, name, some key⟩ other before')
    (reaches : (withFile (Files.openFile device name 0) fun handle => copyImage handle (some key) :
      BootAct ω μ Copied).Ends before'.withoutKernel (.done copied) closed) :
    (checkSignature (some key) copied : BootAct ω μ Unit).Ends closed (.done ()) closed := by
  obtain ⟨_, _, _, known, accepted⟩ := taken.offers
  obtain ⟨rfl, rfl, rfl⟩ := offers.unique known
  obtain ⟨_, hasher, _, _, _, found, fed, concurs⟩ := copying_concurs served reaches
  obtain ⟨rfl, rfl, rfl⟩ := offers'.unique concurs.offers
  rw [← same, ← concurs.hashed] at accepted
  have checked : (Trust.verifySignature signature hasher.finish.bytes key.key key.curve.keyBits :
      Act (Loader ω μ) Trust.Error Unit).Ends closed (.done ()) closed :=
    Trust.verifySignature_done_iff.mpr ⟨rfl, accepted, rfl⟩
  unfold checkSignature
  rw [found, fed]
  exact (ends_bind_of_done (ends_mapError_done.mpr checked)).mpr (ends_report.mpr ⟨rfl, rfl⟩)

/-- What is assumed of digests and of the check of signatures, for two contents: they have the same
digest only if they are the same, and a signature is accepted for the digests of both only if these
are the same. -/
structure TellsApart (key : KernelKey) (signature : ScalarPair) (first second : Bytes) : Prop where
  digests : Trust.digestOf key.algorithm first = Trust.digestOf key.algorithm second →
    first = second
  accepts : Trust.Accepts signature (Trust.digestOf key.algorithm first).bytes key.key →
    Trust.Accepts signature (Trust.digestOf key.algorithm second).bytes key.key →
    Trust.digestOf key.algorithm first = Trust.digestOf key.algorithm second

/-- **A signature binds the contents of a kernel.** Of two images that are taken with the same key
and the same signature, from the same memory and on the same board, the contents of the segments
are the same, one after the other. The kernel is entered where the header of each image says, and
its bytes are where the segments of each image say; if they say the same for every byte, then the
same addresses were written and have the same bytes. -/
theorem kernelSecure_binds [LawfulMemory μ] {key : KernelKey} {header header' : Image.FileHeader}
    {segments segments' : List Image.ProgramHeader} {signature : ScalarPair}
    (first : TakesSigned image key before after) (second : TakesSigned other key before' after')
    (board : before'.board = before.board) (memory : before'.memory = before.memory)
    (sound : LawfulMemory.Sound before.memory)
    (offers : Offers image header segments signature)
    (offers' : Offers other header' segments' signature)
    (apart : TellsApart key signature (Image.contentsOf image segments)
      (Image.contentsOf other segments')) :
    Image.contentsOf image segments = Image.contentsOf other segments' ∧
      Resides image header segments before after ∧
      Resides other header' segments' before' after' ∧
      (after.page.kernel.entry = after'.page.kernel.entry ↔ header.entry = header'.entry) ∧
      (targets before.board.kernelAddress segments = targets before.board.kernelAddress segments' →
        ∀ address, byteAt? after.memory address = byteAt? after'.memory address) := by
  obtain ⟨_, _, _, known, accepted⟩ := first.offers
  obtain ⟨rfl, rfl, rfl⟩ := known.unique offers
  obtain ⟨_, _, _, known', accepted'⟩ := second.offers
  obtain ⟨rfl, rfl, rfl⟩ := known'.unique offers'
  have resides := first.resides sound offers
  have resides' := second.resides (memory ▸ sound) offers'
  -- one signature was accepted for the digests of both
  have contents := apart.digests (apart.accepts accepted accepted')
  refine ⟨contents, resides, resides', ?entries, fun same address => ?bytes⟩
  case entries =>
    rw [resides.entry, resides'.entry, ← Address.toNat_inj, toNat_ofNat_word, toNat_ofNat_word,
      UInt32.toNat_inj]
  case bytes => rw [resides.resident, resides'.resident, board, memory, same, contents]

/-! ## One signature for several images -/

/-- Contents whose digest is, as a number, the first coordinate of a point of the curve. -/
def token : Bytes :=
  [3, 0, 0, 0]

/-- A signature of which both numbers are that digest, so that the factors of its check are one. -/
def tokenSignature : ScalarPair :=
  let digest := Trust.Scalar.ofNat
    0x9d9f290527a6be626a8f5985b26e19b237b44872b03631811df4416fc1713178
  ⟨digest, digest⟩

/-- The key that adds up to the point with the generator of the curve. -/
def tokenKey : KernelKey where
  curve := .secp256r1
  algorithm := .sha256
  key :=
    { first := Trust.Scalar.ofNat
        0x268b8d712feb37e89c633156c101ba3c9bcc58ae03c275c9a56e91f5d398963c
      second := Trust.Scalar.ofNat
        0x04d48a78200046c970b873b496167d9b9d50ef93667266728187b10d338f7359 }

/-- A request for a signed load with this key. -/
def tokenRequest : List String :=
  ["disk", "kernel", "secp256r1", "sha256",
    "PJaY0/WRbqXJdcIDrljMmzy6AcFWMWOc6DfrL3GNiyZZc48zDbGHgXJmcmaT71Cdm30WlrRzuHDJRgAgeIrUBA=="]

theorem secureCall_token :
    secureCall tokenRequest = .ok ⟨"disk", some "kernel", some tokenKey⟩ := by
  rfl

/-- An image with the signature. -/
def signedToken (entry : UInt32) (segments : List Image.Segment) : Image.Blueprint where
  entry := entry
  segments := segments
  sections := [(Image.signatureSection, tokenSignature.toBytes)]

/-- The contents in one segment, which is entered at its start. -/
def whole : Image.Blueprint :=
  signedToken 0x10000 [.readExecute 0x10000 token]

/-- The contents in two segments, one behind the other, which are entered at the second one. -/
def halved : Image.Blueprint :=
  signedToken 0x10002 [.readExecute 0x10000 (token.take 2), .readExecute 0x10002 (token.drop 2)]

/-- The contents in one segment somewhere else. -/
def moved : Image.Blueprint :=
  signedToken 0x20002 [.readExecute 0x20000 token]

theorem offers_whole :
    Offers whole.build whole.fileHeader whole.segmentHeaders tokenSignature :=
  ⟨⟨by decide +kernel, rfl⟩, ⟨whole.segmentHeaders, ⟨by decide +kernel, rfl⟩, by decide +kernel⟩,
    Image.plainSection 6 Image.contentsKind 0 0 88 64, ⟨by decide +kernel, rfl⟩, by decide +kernel⟩

theorem offers_halved :
    Offers halved.build halved.fileHeader halved.segmentHeaders tokenSignature :=
  ⟨⟨by decide +kernel, rfl⟩, ⟨halved.segmentHeaders, ⟨by decide +kernel, rfl⟩, by decide +kernel⟩,
    Image.plainSection 6 Image.contentsKind 0 0 120 64, ⟨by decide +kernel, rfl⟩,
    by decide +kernel⟩

theorem offers_moved :
    Offers moved.build moved.fileHeader moved.segmentHeaders tokenSignature :=
  ⟨⟨by decide +kernel, rfl⟩, ⟨moved.segmentHeaders, ⟨by decide +kernel, rfl⟩, by decide +kernel⟩,
    Image.plainSection 6 Image.contentsKind 0 0 88 64, ⟨by decide +kernel, rfl⟩, by decide +kernel⟩

/-- An image for which the request is carried out is taken. -/
theorem takesSigned_token (image : Bytes)
    (finished : ((kernelSecure tokenRequest : BootAct Bench.World IdentityMemory Unit).run
      (archived image)).outcome.isDone = true) :
    ∃ after, TakesSigned image tokenKey (archived image) after := by
  obtain ⟨⟨⟩, ends⟩ := ends_of_isDone finished
  exact ⟨_, _, _, secureCall_token, rfl, archived_served image _, ends⟩

theorem takesSigned_whole :
    ∃ after, TakesSigned whole.build tokenKey (archived whole.build) after :=
  takesSigned_token whole.build (by decide +kernel)

/-- However the contents are divided into segments, memory is the same if every byte goes to the
same address. -/
theorem kernelSecure_binds_halved :
    ∃ after after', TakesSigned whole.build tokenKey (archived whole.build) after ∧
      TakesSigned halved.build tokenKey (archived halved.build) after' ∧
      after.page.kernel.entry ≠ after'.page.kernel.entry ∧
      ∀ address, byteAt? after.memory address = byteAt? after'.memory address := by
  obtain ⟨after, first⟩ := takesSigned_whole
  obtain ⟨after', second⟩ := takesSigned_token halved.build (by decide +kernel)
  have same : Image.contentsOf whole.build whole.segmentHeaders =
      Image.contentsOf halved.build halved.segmentHeaders := by decide +kernel
  obtain ⟨_, _, _, entries, bytes⟩ := kernelSecure_binds first second rfl rfl trivial offers_whole
    offers_halved ⟨fun _ => same, fun _ _ => congrArg _ same⟩
  exact ⟨after, after', first, second, mt entries.mp (by decide), bytes (by decide +kernel)⟩

/-- The same signature stands for an image that is entered elsewhere, and that lies elsewhere in
memory. -/
theorem kernelSecure_unbound :
    ∃ after after', TakesSigned whole.build tokenKey (archived whole.build) after ∧
      TakesSigned moved.build tokenKey (archived moved.build) after' ∧
      (archived moved.build).board = (archived whole.build).board ∧
      (archived moved.build).memory = (archived whole.build).memory ∧
      Offers whole.build whole.fileHeader whole.segmentHeaders tokenSignature ∧
      Offers moved.build moved.fileHeader moved.segmentHeaders tokenSignature ∧
      TellsApart tokenKey tokenSignature (Image.contentsOf whole.build whole.segmentHeaders)
        (Image.contentsOf moved.build moved.segmentHeaders) ∧
      after.page.kernel.entry = ⟨0x10000⟩ ∧ after'.page.kernel.entry = ⟨0x20002⟩ ∧
      byteAt? after.memory ⟨0x20000⟩ = some 0 ∧ byteAt? after'.memory ⟨0x20000⟩ = some 3 := by
  obtain ⟨after, first⟩ := takesSigned_whole
  obtain ⟨after', second⟩ := takesSigned_token moved.build (by decide +kernel)
  have same : Image.contentsOf whole.build whole.segmentHeaders =
      Image.contentsOf moved.build moved.segmentHeaders := by decide +kernel
  have resides := first.resides trivial offers_whole
  have resides' := second.resides trivial offers_moved
  refine ⟨after, after', first, second, rfl, rfl, offers_whole, offers_moved,
    ⟨fun _ => same, fun _ _ => congrArg _ same⟩, resides.entry, resides'.entry, ?_, ?_⟩
  · rw [resides.resident]
    decide +kernel
  · rw [resides'.resident]
    decide +kernel

end Loader

end Bootloader
