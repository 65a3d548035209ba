import Bootloader.Proofs.Boot.Sealing
import Bootloader.Proofs.SystemPage.Writes

/-!
# What is left of a kernel when it is launched

A load copies the segments of a kernel to their places and reserves their memory. From then on
nothing is copied to a reserved place any more (`Steady.prepared`), so the segments stay as they
were loaded until the page is saved. The save looks for images in its way, which are the programs
and the text of the kernel, but not for reservations. So at the launch the segments are what was
loaded with the block of the page laid over it: the executable ones are spared, and any other is
written over where the block lies on it (`session_hands_over`).
-/

set_option autoImplicit false

namespace Bootloader.Loader

open Act
open LawfulMemory (Sound)

variable {ω μ : Type} [PhysicalMemory μ]

/-! ## Reserved places -/

/-- Reservations are added only, and no byte of a reserved place is changed. -/
structure Spares (before after : Loader ω μ) : Prop where
  reservations : before.page.reservations <+: after.page.reservations
  bytes : ∀ entry ∈ before.page.reservations, ∀ place, entry.contains place →
    byteAt? after.memory place = byteAt? before.memory place

theorem Spares.refl (loader : Loader ω μ) : Spares loader loader :=
  ⟨List.prefix_refl _, fun _ _ _ _ => rfl⟩

theorem Spares.trans {first second third : Loader ω μ} (earlier : Spares first second)
    (later : Spares second third) : Spares first third where
  reservations := earlier.reservations.trans later.reservations
  bytes entry member place inside :=
    (later.bytes entry (earlier.reservations.subset member) place inside).trans
      (earlier.bytes entry member place inside)

section

variable [LawfulMemory μ] {before after : Loader ω μ}

/-- The maps of the page are consistent, and what is written to memory stays. -/
structure Steady (loader : Loader ω μ) : Prop where
  consistent : loader.page.Consistent
  sound : Sound loader.memory

theorem Steady.of_changes (steady : Steady before)
    (changes : SystemPage.Changes before.page after.page)
    (written : ∃ chunks, writeChunks before.memory chunks = .ok after.memory) : Steady after := by
  obtain ⟨chunks, wrote⟩ := written
  exact ⟨(changes.keeps steady.consistent).1, LawfulMemory.sound_writeChunks steady.sound wrote⟩

theorem Steady.spares_of_changes (steady : Steady before)
    (changes : SystemPage.Changes before.page after.page) (memory : after.memory = before.memory) :
    Spares before after :=
  ⟨(changes.keeps steady.consistent).2.reservations, fun _ _ _ _ => by rw [memory]⟩

/-- A map is filled where no reservation is in the way. -/
theorem Steady.prepares (steady : Steady before) (prepares : Prepares before after) :
    Spares before after := by
  have changes := prepares.prepared.registered.changes
  cases prepares with
  | files | console | device | page => exact steady.spares_of_changes changes rfl
  | fill map stop data memory pending found fits reached free wrote =>
      have sound : (SystemPage.Copy.mk map.name map.top data).Sound (before.page, before.memory)
          (before.page, memory) :=
        SystemPage.copied_sound steady.consistent found fits reached free wrote
      refine ⟨(changes.keeps steady.consistent).2.reservations, ?_⟩
      intro entry member place inside
      rw [LawfulMemory.byteAt_write steady.sound wrote place]
      exact if_neg fun holds => sound.free entry member place holds inside

theorem Steady.prepared (steady : Steady before) (prepared : Prepared before after) :
    Steady after ∧ Spares before after := by
  induction prepared with
  | refl => exact ⟨steady, .refl before⟩
  | tail _ last ih =>
      obtain ⟨here, spares⟩ := ih
      exact ⟨here.of_changes last.prepared.registered.changes last.keeps.written,
        spares.trans (here.prepares last)⟩

end

/-! ## The text of a kernel -/

omit [PhysicalMemory μ] in
/-- The text that is described holds the memory of every executable segment. -/
theorem describe_text {board : Board} {copied : Copied} {segment : Image.ProgramHeader}
    {range : SystemPage.Reservation} (member : segment ∈ copied.segments)
    (load : segment.isLoad = true) (executable : segment.flags = Image.SegmentFlags.readExecute)
    (ranged : board.rangeOf? segment = some range) :
    let text := (describe board copied).text
    text.address ≤ range.start ∧ range.stop.toNat ≤ text.address.toNat + text.size.toNat := by
  obtain ⟨last, reached, rfl⟩ := Option.map_eq_some_iff.mp ranged
  have ends := Address.advance?_eq_some_iff.mp reached
  have fits : (board.kernelAddress segment).toNat + segment.memorySize.toNat < UInt64.size :=
    ends ▸ last.toNat_lt
  obtain ⟨start, stop, found, below, above⟩ :=
    Image.textRange?_encloses member load executable fits
  have text : (describe board copied).text = ⟨start, stop.value - start.value⟩ := by
    rw [describe, found]
    rfl
  have size : (stop.value - start.value).toNat = stop.toNat - start.toNat := by
    refine UInt64.toNat_sub_of_le _ _ ?_
    rw [UInt64.le_iff_toNat_le]
    exact Nat.le_trans (Nat.le_trans below (Nat.le_add_right _ _)) above
  rw [text]
  refine ⟨below, ?_⟩
  show last.toNat ≤ start.toNat + (stop.value - start.value).toNat
  omega

/-! ## The kernel that is held -/

/-- A loader holds the kernel that another one was loaded with: the page describes it, the memory
of its segments is reserved, and their bytes are those that were there when it was loaded. -/
structure Holds (copied : Copied) (loaded loader : Loader ω μ) : Prop where
  kernel : loader.page.kernel = describe loaded.board copied
  reserved : ∀ segment ∈ Image.occupied copied.segments,
    ∃ range ∈ loader.page.reservations, loaded.board.rangeOf? segment = some range
  bytes : ∀ segment ∈ Image.occupied copied.segments, ∀ range,
    loaded.board.rangeOf? segment = some range → ∀ place, range.contains place →
      byteAt? loader.memory place = byteAt? loaded.memory place

theorem Holds.of_spares {copied : Copied} {loaded before after : Loader ω μ}
    (holds : Holds copied loaded before) (spares : Spares before after)
    (kernel : after.page.kernel = before.page.kernel) : Holds copied loaded after := by
  refine ⟨kernel.trans holds.kernel, ?_, ?_⟩
  · intro segment member
    obtain ⟨range, there, ranged⟩ := holds.reserved segment member
    exact ⟨range, spares.reservations.subset there, ranged⟩
  · intro segment member range ranged place inside
    obtain ⟨other, there, same⟩ := holds.reserved segment member
    obtain rfl : other = range := Option.some.inj (same.symm.trans ranged)
    exact (spares.bytes other there place inside).trans (holds.bytes segment member other ranged
      place inside)

variable [Hardware ω]

/-- A load took an image for the kernel, and memory is what it was when the image was copied. -/
structure LoadCall.Takes (call : LoadCall) (copied : Copied) (before after : Loader ω μ) :
    Prop where
  done : (call.run : BootAct ω μ Unit).Ends before (.done ()) after
  image : ∃ closed, CopiedImage call.device call.name call.key before copied closed ∧
    after.memory = closed.memory

/-- After a load that ended as it should the loader holds the kernel. -/
theorem LoadCall.run_takes {call : LoadCall} {before after : Loader ω μ}
    (ends : (call.run : BootAct ω μ Unit).Ends before (.done ()) after) :
    ∃ copied, call.Takes copied before after ∧ Holds copied after after := by
  rcases loadKernel_steps ends with ⟨refused, _⟩ | ⟨copied, closed, image, accepting⟩
  · exact absurd rfl refused
  · obtain ⟨left, reserved, rest, reserves, settled⟩ := acceptKernel_ends accepting
    rcases settled with ⟨_, rfl, rfl⟩ | ⟨_, _, _, _, _, failed, _⟩
    · have board : left.board = closed.board := by rw [reserves.only, describing_board]
      have memory : left.memory = closed.memory := by rw [reserves.only, describing_memory]
      obtain ⟨first, split, ranges⟩ := reserves.ranges
      rw [List.append_nil] at split
      refine ⟨copied, ⟨ends, closed, image, memory⟩, ?_, ?_, fun _ _ _ _ _ _ => rfl⟩
      · show left.page.kernel = describe left.board copied
        rw [board]
        exact reserves.keeps.kernel
      · intro segment member
        rw [split] at member
        have listed : closed.board.rangeOf? segment ∈ reserved.map some := by
          rw [← ranges]
          exact List.mem_map_of_mem member
        obtain ⟨range, there, same⟩ := List.mem_map.mp listed
        refine ⟨range, ?_, ?_⟩
        · show range ∈ left.page.reservations
          rw [reserves.reservations]
          exact List.mem_append_right _ there
        · show left.board.rangeOf? segment = some range
          rw [board]
          exact same.symm
    · cases failed

/-! ## Turns -/

/-- An image and the loader that took it, in the most recent load in some turns. -/
def LatestImage (turns : List (Turn ω μ)) (copied : Copied) (loaded : Loader ω μ) : Prop :=
  ∃ turn call, Latest turns turn ∧ turn.load? = some call ∧
    call.Takes copied turn.before turn.after ∧ loaded = turn.after

theorem LatestImage.append {turns : List (Turn ω μ)} {last : Turn ω μ} {copied : Copied}
    {loaded : Loader ω μ} (latest : LatestImage turns copied loaded)
    (unasked : last.load? = none) : LatestImage (turns ++ [last]) copied loaded := by
  obtain ⟨turn, call, here, rest⟩ := latest
  exact ⟨turn, call, here.append unasked, rest⟩

variable [LawfulMemory μ] {before after : Loader ω μ} {line : String}

theorem Does.steady (does : Does line before after) (steady : Steady before) : Steady after :=
  steady.of_changes does.changes does.written

/-- An attempt to launch that does not save the page leaves memory alone. -/
theorem go_spares {arguments : List String} {outcome : Outcome BootError Unit}
    (steady : Steady before) (ends : (go arguments : BootAct ω μ Unit).Ends before outcome after)
    (pending : after.page.isSaved = false) : Spares before after := by
  rcases go_saves ends with ⟨page, memory⟩ | ⟨ending, saving⟩
  · refine steady.spares_of_changes ?_ memory
    rw [page]
  · refine steady.spares_of_changes (SystemPage.save_changes saving) ?_
    rcases SystemPage.save_settles saving with ⟨_, same, _⟩ | ⟨_, _, saved⟩
    · exact same
    · cases saved.sealed.symm.trans pending

/-- What a launch finds of a kernel. The memory of its segments was reserved before. Their bytes
are those that were there when it was loaded, with the block of the page laid over them; and the
block does not lie on the executable segments. -/
structure Survives (copied : Copied) (loaded before after : Loader ω μ) (launch : Launch) :
    Prop where
  kernel : after.page.kernel = describe loaded.board copied
  reserved : ∀ segment ∈ Image.occupied copied.segments,
    ∃ range ∈ before.page.reservations, loaded.board.rangeOf? segment = some range
  bytes : ∀ segment ∈ Image.occupied copied.segments, ∀ range,
    loaded.board.rangeOf? segment = some range → ∀ place, range.contains place →
      byteAt? after.memory place = laidOver launch.page.toNat after.page.serialize place.toNat
        (byteAt? loaded.memory place)
  executable : ∀ segment ∈ Image.occupied copied.segments,
    segment.flags = Image.SegmentFlags.readExecute → ∀ range,
    loaded.board.rangeOf? segment = some range → ∀ place, range.contains place →
      ¬ (launch.page.toNat ≤ place.toNat ∧
        place.toNat < launch.page.toNat + after.page.serialize.length) ∧
      byteAt? after.memory place = byteAt? loaded.memory place

omit [Hardware ω] in
/-- What is handed over is the kernel that is held, as far as the block does not lie on it. -/
theorem Handover.survives {launch : Launch} {copied : Copied} {loaded : Loader ω μ}
    (handover : Handover before after launch) (steady : Steady before)
    (holds : Holds copied loaded before)
    (loads : ∀ segment ∈ copied.segments, segment.isLoad = true) :
    Survives copied loaded before after launch := by
  have saved := handover.saved
  have kernel : after.page.kernel = describe loaded.board copied :=
    saved.kernel.trans holds.kernel
  have bytes : ∀ segment ∈ Image.occupied copied.segments, ∀ range,
      loaded.board.rangeOf? segment = some range → ∀ place, range.contains place →
        byteAt? after.memory place = laidOver launch.page.toNat after.page.serialize place.toNat
          (byteAt? loaded.memory place) := by
    intro segment member range ranged place inside
    rw [← holds.bytes segment member range ranged place inside]
    exact LawfulMemory.byteAt_write steady.sound saved.written place
  refine ⟨kernel, holds.reserved, bytes, ?_⟩
  intro segment member executable range ranged place inside
  have listed := (Image.mem_occupied.mp member).1
  obtain ⟨low, high⟩ := describe_text listed (loads segment listed) executable ranged
  obtain ⟨above, below⟩ := SystemPage.Reservation.contains_iff.mp inside
  have spared : ¬ (launch.page.toNat ≤ place.toNat ∧
      place.toNat < launch.page.toNat + after.page.serialize.length) := by
    rintro ⟨first, last⟩
    refine (saved.clear place.toNat first last).2 ?_
    show after.page.kernel.text.address.toNat ≤ place.toNat ∧
      place.toNat < after.page.kernel.text.address.toNat + after.page.kernel.text.size.toNat
    rw [kernel]
    exact ⟨Nat.le_trans low above, Nat.lt_of_lt_of_le below high⟩
  refine ⟨spared, ?_⟩
  rw [bytes segment member range ranged place inside, laidOver, if_neg spared]

/-! ## Sessions -/

/-- How a loader stands after some turns: as long as the page is not saved, a kernel that is
loaded is held as the most recent load took it. -/
structure Carries (turns : List (Turn ω μ)) (loader : Loader ω μ) : Prop where
  steady : Steady loader
  held : loader.kernelLoaded = true → loader.page.isSaved = false →
    ∃ copied loaded, LatestImage turns copied loaded ∧ Holds copied loaded loader

/-- A launch in a turn after others, and what it finds of the kernel that was loaded last. -/
def HandsOver (turns : List (Turn ω μ)) (turn : Turn ω μ) : Prop :=
  ∃ launch copied loaded, Handover turn.before turn.after launch ∧
    LatestImage turns copied loaded ∧ Survives copied loaded turn.before turn.after launch

omit [LawfulMemory μ] in
/-- All segments of an image that was taken are to be loaded. -/
theorem LatestImage.loads {turns : List (Turn ω μ)} {copied : Copied} {loaded : Loader ω μ}
    (latest : LatestImage turns copied loaded) :
    ∀ segment ∈ copied.segments, segment.isLoad = true := by
  obtain ⟨_, _, _, _, takes, _⟩ := latest
  obtain ⟨_, image, _⟩ := takes.image
  exact image.reads.2

variable {turns : List (Turn ω μ)} {turn : Turn ω μ}

/-- A turn that keeps the kernel and spares what is reserved. -/
theorem Carries.next (carries : Carries turns turn.before)
    (steady : Steady turn.after) (unasked : turn.load? = none)
    (loaded : turn.after.kernelLoaded = turn.before.kernelLoaded)
    (kernel : turn.after.page.kernel = turn.before.page.kernel)
    (saved : turn.before.page.isSaved = true → turn.after.page.isSaved = true)
    (spares : turn.after.page.isSaved = false → Spares turn.before turn.after) :
    Carries (turns ++ [turn]) turn.after := by
  refine ⟨steady, ?_⟩
  intro present pending
  have unsealed : turn.before.page.isSaved = false := by
    rw [← Bool.not_eq_true]
    exact fun sealed => Bool.false_ne_true (pending.symm.trans (saved sealed))
  obtain ⟨copied, former, latest, holds⟩ := carries.held (loaded.symm.trans present) unsealed
  exact ⟨copied, former, latest.append unasked, holds.of_spares (spares pending) kernel⟩

/-- **One turn keeps the kernel that is held**, and a launch hands it over. -/
theorem turn_carries (turn : Turn ω μ) (does : Does turn.line turn.before turn.after)
    (carries : Carries turns turn.before) :
    Carries (turns ++ [turn]) turn.after ∧
      (turn.after.launches = turn.before.launches ∨ HandsOver turns turn) := by
  have steady := does.steady carries.steady
  obtain ⟨line, before, outcome, after⟩ := turn
  dsimp only at does carries steady ⊢
  cases does with
  | prepares unasked prepared =>
      have keeps := prepared.keeps
      exact ⟨carries.next steady unasked keeps.kernelLoaded keeps.kernel
        (fun sealed => keeps.isSaved.trans sealed)
        (fun _ => (carries.steady.prepared prepared).2), .inl keeps.launches⟩
  | loads call outcome left console asked ends same silent =>
      obtain ⟨keeps, settled⟩ := LoadCall.run_settles ends
      refine ⟨⟨steady, ?_⟩, .inl (same ▸ congrArg Prod.fst keeps.same)⟩
      intro present _
      rcases settled with ⟨rfl, _⟩ | ⟨_, unloaded⟩
      · obtain rfl := silent rfl
        obtain ⟨copied, takes, holds⟩ := LoadCall.run_takes ends
        exact ⟨copied, after, ⟨_, call, ⟨turns, [], rfl, fun _ member =>
          absurd member List.not_mem_nil⟩, asked, takes, rfl⟩, holds⟩
      · subst same
        exact absurd (unloaded.symm.trans present) Bool.false_ne_true
  | launches arguments outcome left console called ends same silent =>
      have unasked : loadCall? line before = none := by
        rw [loadCall?, called]
      rcases go_ends ends with ⟨_, keeps, stays⟩ | ⟨_, rfl, launch, handover⟩
      · subst same
        have launches : left.launches = before.launches := congrArg Prod.fst keeps.same
        have loaded := congrArg (fun parts => parts.2.1) keeps.same
        have kernel := congrArg (fun parts => parts.2.2) keeps.same
        refine ⟨carries.next steady unasked loaded kernel stays ?_, .inl launches⟩
        intro pending
        obtain ⟨reservations, bytes⟩ := go_spares carries.steady ends pending
        exact ⟨reservations, bytes⟩
      · obtain rfl := silent rfl
        have sealed := handover.saved.sealed
        obtain ⟨copied, loaded, latest, holds⟩ :=
          carries.held handover.loaded handover.saved.pending
        exact ⟨⟨steady, fun _ pending => absurd (pending.symm.trans sealed) Bool.false_ne_true⟩,
          .inr ⟨launch, copied, loaded, handover, latest,
            handover.survives carries.steady holds latest.loads⟩⟩

/-- A loader that was just started has no kernel, and its maps are consistent. -/
theorem start_carries {board : Board} {devices : Devices ω} {memory : μ} {patience : Nat}
    {loader : Loader ω μ} (sound : Sound memory) {outcome : Outcome BootError Unit}
    (started : (start : BootAct ω μ Unit).Ends (ofParts board devices memory patience) outcome
      loader) : Carries [] loader := by
  have prepared := prepared_start.ends started
  have first : Steady (ofParts board devices memory patience) :=
    ⟨SystemPage.consistent_empty, sound⟩
  refine ⟨(first.prepared prepared).1, ?_⟩
  intro loaded
  rw [prepared.keeps.kernelLoaded] at loaded
  cases loaded

/-- **A save spares the images, and a session hands over what it loaded but for the block.** Any
save that is granted, whatever page and memory it meets, writes a block that lies on no program
and not on the text of the kernel. In a session a line that launches hands over the kernel that was
loaded last: its segments are reserved when the page is saved, the executable ones are as they
were loaded, and so is every byte of the others that the block does not cover. -/
theorem session_hands_over (board : Board) (devices : Devices ω) (memory : μ) (patience : Nat)
    (sound : Sound memory) {loader : Loader ω μ}
    (started : (start : BootAct ω μ Unit).Ends (ofParts board devices memory patience) (.done ())
      loader) (lines : List String) {earlier later : List (Turn ω μ)} {turn : Turn ω μ}
    (taken : session lines loader = earlier ++ turn :: later) :
    (∀ (store left : SystemPage × μ) (address : Address),
      (SystemPage.save : StoreAct μ Address).Ends store (.done address) left →
        SystemPage.SavedAt address store left) ∧
    (turn.after.launches = turn.before.launches ∨ HandsOver earlier turn) := by
  constructor
  · intro store left address ends
    rcases SystemPage.save_settles ends with ⟨refused, _⟩ | ⟨_, done, saved⟩
    · exact absurd rfl (refused address)
    · cases done
      exact saved
  · obtain ⟨does, carries⟩ := session_keeps Carries
      (fun _ turn does carries => (turn_carries turn does carries).1)
      (start_carries sound started) taken
    exact (turn_carries turn does carries).2

/-- A bench with one device in memory, which holds an image of two segments: one that is executed,
and one that is written. -/
def dataBench : Devices Bench.World :=
  let image := Image.Blueprint.build
    { entry := 0x10000
      segments := [.readExecute 0x10000 [1, 2, 3, 4], .readWrite 0x11000 [7, 8, 9, 10] 0x100] }
  ⟨[⟨.ram, [false]⟩], ⟨[(.ram, .ram ⟨[⟨⟨0x8000000⟩, .readExec, image⟩], 0⟩)], []⟩⟩

/-- With the page somewhere else, both segments are handed over. -/
theorem session_hands_over_apart :
    ∃ (loader : Loader Bench.World IdentityMemory) (earlier : List (Turn _ _))
      (turn : Turn Bench.World IdentityMemory),
      (start : BootAct Bench.World IdentityMemory Unit).Ends
        (ofParts Board.standard dataBench IdentityMemory.zeros 0) (.done ()) loader ∧
      session ["phfs disk 4.0", "kernel disk", "syspage 0x20000", "go!"] loader =
        earlier ++ [turn] ∧
      turn.after.launches = [⟨⟨0x10000⟩, ⟨0x20000⟩⟩] ∧ HandsOver earlier turn := by
  let loader := ((start : BootAct Bench.World IdentityMemory Unit).run
    (ofParts Board.standard dataBench IdentityMemory.zeros 0)).state
  let named := turnOf "phfs disk 4.0" loader
  let load := turnOf "kernel disk" named.after
  let place := turnOf "syspage 0x20000" load.after
  let launching := turnOf "go!" place.after
  have started : (start : BootAct Bench.World IdentityMemory Unit).Ends
      (ofParts Board.standard dataBench IdentityMemory.zeros 0) (.done ()) loader :=
    ⟨by decide +kernel, rfl⟩
  have taken : session ["phfs disk 4.0", "kernel disk", "syspage 0x20000", "go!"] loader =
      [named, load, place] ++ [launching] := rfl
  have before : launching.before.launches = [] := by decide +kernel
  have after : launching.after.launches = [⟨⟨0x10000⟩, ⟨0x20000⟩⟩] := by decide +kernel
  have made := (session_hands_over Board.standard dataBench IdentityMemory.zeros 0 trivial started
    _ taken).2
  rcases made with none | made
  · rw [before, after] at none
    cases none
  · exact ⟨loader, _, launching, started, taken, after, made⟩

/-- With the page on the segment that is written, which is reserved, the launch is made all the
same, and the bytes that were loaded there are gone. -/
theorem block_covers_segment :
    let commands : BootAct Bench.World IdentityMemory Exit := do
      start
      executeLines ["phfs disk 4.0", "kernel disk", "syspage 0x11000"]
    let loaded := (commands.run (ofParts Board.standard dataBench IdentityMemory.zeros 0)).state
    let launched := loaded.afterOperation (.line "go!")
    ⟨⟨0x11000⟩, ⟨0x11100⟩⟩ ∈ loaded.page.reservations ∧
      launched.launches = [⟨⟨0x10000⟩, ⟨0x11000⟩⟩] ∧
      byteAt? loaded.memory ⟨0x11000⟩ = some 7 ∧ byteAt? launched.memory ⟨0x11000⟩ ≠ some 7 := by
  decide +kernel

end Bootloader.Loader
