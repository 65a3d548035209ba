import Bootloader.Image.Builder
import Bootloader.Bench.World
import Bootloader.Memory.Identity
import Bootloader.Proofs.Boot.Loading

/-!
# Loads that fail

A load of a kernel that fails leaves nothing to launch. Up to the check of the signature it
leaves nothing on the page either: the former kernel was forgotten, and no more was done than to
read files and to write memory. Then the image is described, and its memory is reserved range by
range; if a range is refused, the description stays on the page, and so do the ranges before it
(`HalfLoaded`). Whether a load that fails left something on the page is a matter of that alone
(`failed_loads`).
-/

set_option autoImplicit false

namespace Bootloader.Loader

open Act
open SystemPage (Reservation)

variable {ω μ : Type} [Hardware ω] [PhysicalMemory μ]

/-- An image was copied and checked, and then the range of one of its segments was refused. What
stays is the description of the image, and the ranges of the segments before that one; and that
is not nothing. -/
structure HalfLoaded (call : LoadCall) (copied : Copied) (reserved : List Reservation)
    (segment : Image.ProgramHeader) (reason : PageError) (before after : Loader ω μ) : Prop where
  image : ∃ closed, CopiedImage call.device call.name call.key before copied closed
  kernel : after.page.kernel = describe before.board copied
  reservations : after.page.reservations = before.page.reservations ++ reserved
  ranges : ∃ first others, Image.occupied copied.segments = first ++ segment :: others ∧
    first.map before.board.rangeOf? = reserved.map some
  refused : after.RefusesSegment segment reason
  remains : describe before.board copied ≠ SystemPage.KernelDescriptor.unknown ∨ reserved ≠ []

section

variable {before after : Loader ω μ}

theorem HalfLoaded.not_unloaded {call : LoadCall} {copied : Copied} {reserved : List Reservation}
    {segment : Image.ProgramHeader} {reason : PageError}
    (half : HalfLoaded call copied reserved segment reason before after) :
    ¬ Unloaded before after := by
  intro unloaded
  rcases half.remains with described | some
  · exact described (half.kernel.symm.trans unloaded.kernel)
  · have same := half.reservations.symm.trans unloaded.reservations
    exact some (List.append_right_eq_self.mp same)

/-- A call that fails leaves nothing to launch, and nothing on the page unless it got half
way. -/
theorem LoadCall.run_fails {call : LoadCall} {error : BootError}
    (ends : (call.run : BootAct ω μ Unit).Ends before (.failed error) after) :
    after.kernelLoaded = false ∧ (Unloaded before after ∨
      ∃ copied reserved segment reason, error = .page reason ∧
        HalfLoaded call copied reserved segment reason before after) := by
  rcases loadKernel_steps ends with ⟨_, transfers⟩ | ⟨copied, closed, image, accepting⟩
  · have unloaded := unloaded_of_transfers transfers
    exact ⟨unloaded.kernelLoaded, .inl unloaded⟩
  · have unloaded := unloaded_of_transfers image.transfers
    have board : closed.board = before.board := by
      rw [image.transfers.rest]
      rfl
    obtain ⟨left, reserved, rest, reserves, settled⟩ := acceptKernel_ends accepting
    rcases settled with ⟨done, _⟩ | ⟨rfl, segment, others, reason, rfl, failed, refused⟩
    · cases done
    · have unlaunchable : after.kernelLoaded = false :=
        reserves.keeps.kernelLoaded.trans unloaded.kernelLoaded
      have kernel : after.page.kernel = describe before.board copied := by
        rw [reserves.keeps.kernel, describing_kernel, board]
      have reservations : after.page.reservations = before.page.reservations ++ reserved := by
        rw [reserves.reservations, describing_reservations, unloaded.reservations]
      obtain ⟨first, split, ranges⟩ := reserves.ranges
      rw [describing_board, board] at ranges
      refine ⟨unlaunchable, ?_⟩
      by_cases nothing : describe before.board copied = SystemPage.KernelDescriptor.unknown ∧
          reserved = []
      · refine .inl ⟨unlaunchable, kernel.trans nothing.1, ?_⟩
        rw [reservations, nothing.2, List.append_nil]
      · exact .inr ⟨copied, reserved, segment, reason, Outcome.failed.inj failed,
          ⟨closed, image⟩, kernel, reservations, ⟨first, others, split, ranges⟩, refused,
          Decidable.not_and_iff_not_or_not.mp nothing⟩

end

/-- What a command that loads a kernel leaves when it fails with an error. If it did not come to
its call, everything is as it was. Otherwise there is nothing to launch, and what is described
and reserved on the page is what it would be without a kernel, exactly if the load did not get
half way. -/
structure FailsUnloaded (asked : Except BootError LoadCall) (command : BootAct ω μ Unit)
    (loader : Loader ω μ) : Prop where
  unasked : ∀ error after, command.Ends loader (.failed error) after →
    ∀ refusal, asked = .error refusal → after = loader
  unlaunchable : ∀ error after, command.Ends loader (.failed error) after →
    ∀ call, asked = .ok call → after.kernelLoaded = false
  settled : ∀ error after, command.Ends loader (.failed error) after →
    ∀ call, asked = .ok call → (Unloaded loader after ↔
      ¬ ∃ copied reserved segment reason, error = .page reason ∧
        HalfLoaded call copied reserved segment reason loader after)

/-- A command that takes its arguments apart and makes the call that they ask for. -/
theorem failsUnloaded_of_call {asked : Except BootError LoadCall} {command : BootAct ω μ Unit}
    {loader : Loader ω μ}
    (calls : ∀ {outcome after}, command.Ends loader outcome after →
      (ofExcept asked >>= LoadCall.run : BootAct ω μ Unit).Ends loader outcome after) :
    FailsUnloaded asked command loader := by
  have made : ∀ {error after call}, command.Ends loader (.failed error) after →
      asked = .ok call → (call.run : BootAct ω μ Unit).Ends loader (.failed error) after := by
    rintro error after call ends rfl
    exact calls ends
  refine ⟨?_, fun error after ends call asks => (LoadCall.run_fails (made ends asks)).1, ?_⟩
  · rintro error after ends refusal rfl
    exact (calls ends).2.symm
  · intro error after ends call asks
    constructor
    · rintro unloaded ⟨copied, reserved, segment, reason, _, half⟩
      exact half.not_unloaded unloaded
    · exact (LoadCall.run_fails (made ends asks)).2.resolve_right

/-- **A load that fails leaves nothing to launch, and leaves something on the page only if it
got half way.** This holds of kernels with and without a signature, of every argument line, of
every image, and whatever the devices answer. -/
theorem failed_loads (arguments : List String) (loader : Loader ω μ) :
    FailsUnloaded (plainCall arguments loader) (kernel arguments) loader ∧
      FailsUnloaded (secureCall arguments) (kernelSecure arguments) loader := by
  refine ⟨failsUnloaded_of_call kernel_ends.mp, failsUnloaded_of_call fun ends => ?_⟩
  rw [← kernelSecure_eq]
  exact ends

/-- A loader that was started on a device with an image of one segment more than there can be
reservations, each of them with one byte of memory and no contents. -/
def crowded : Loader Bench.World IdentityMemory :=
  let image := Image.Blueprint.build
    { entry := 0x10000
      segments := (List.range (Capacity.reservations + 1)).map fun index =>
        .readWrite (0x10000 + UInt32.ofNat (0x100 * index)) [] 1 }
  let devices : Devices Bench.World :=
    ⟨[⟨.ram, [false]⟩], ⟨[(.ram, .ram ⟨[⟨⟨0x8000000⟩, .readExec, image⟩], 0⟩)], []⟩⟩
  let commands : BootAct Bench.World IdentityMemory Exit := do
    start
    executeLines ["phfs disk 4.0"]
  (commands.run (ofParts Board.standard devices IdentityMemory.zeros 0)).state

/-- The memory of the last segment cannot be reserved any more. The load fails, and the page
keeps the entry of the image and the ranges of all other segments. -/
theorem kernel_half_loaded :
    ∃ after, (kernel ["disk"]).Ends crowded (.failed (.page .full)) after ∧
      after.kernelLoaded = false ∧ crowded.page.kernel = SystemPage.KernelDescriptor.unknown ∧
      after.page.kernel.entry = ⟨0x10000⟩ ∧ crowded.page.reservations = [] ∧
      after.page.reservations.length = Capacity.reservations ∧ ¬ Unloaded crowded after := by
  have before : crowded.page.reservations = [] := by decide +kernel
  have after : ((kernel ["disk"] : BootAct Bench.World IdentityMemory Unit).run
      crowded).state.page.reservations.length = Capacity.reservations := by decide +kernel
  refine ⟨_, ⟨by decide +kernel, rfl⟩, by decide +kernel, by decide +kernel, by decide +kernel,
    before, after, ?_⟩
  intro unloaded
  rw [unloaded.reservations, before] at after
  cases after

end Bootloader.Loader
