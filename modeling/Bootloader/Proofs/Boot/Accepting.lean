import Bootloader.Boot.Kernel
import Bootloader.Proofs.Boot.Frames
import Bootloader.Proofs.SystemPage.Frames

/-!
# Taking an image for the kernel

An image that was copied is described on the page first, then the memory of its segments is
reserved, one after the other, and the last step takes it for the kernel. A segment without a
size in memory is passed over. The reserving stops at the first segment whose range is refused;
the ranges before it stay on the page, and so does the description (`acceptKernel_ends`).
-/

set_option autoImplicit false

namespace Bootloader

open SystemPage (Reservation)

/-- The range of memory that a segment asks for, unless it wraps around. -/
def Board.rangeOf? (board : Board) (segment : Image.ProgramHeader) : Option Reservation :=
  let start := board.kernelAddress segment
  (start.advance? segment.memorySize.toNat).map (Reservation.mk start)

namespace Image

/-- The segments that have a size in memory. -/
def occupied (segments : List ProgramHeader) : List ProgramHeader :=
  segments.filter fun segment => segment.memorySize != 0

theorem mem_occupied {segments : List ProgramHeader} {segment : ProgramHeader} :
    segment ∈ occupied segments ↔ segment ∈ segments ∧ segment.memorySize ≠ 0 := by
  rw [occupied, List.mem_filter, bne_iff_ne]

end Image

namespace Loader

open Act

variable {ω μ : Type}

/-- A loader that has forgotten its kernel. -/
def withoutKernel (loader : Loader ω μ) : Loader ω μ :=
  { loader with
    kernelLoaded := false
    page := { loader.page with kernel := SystemPage.KernelDescriptor.unknown } }

/-- A loader whose page describes a kernel. -/
def describing (loader : Loader ω μ) (kernel : SystemPage.KernelDescriptor) : Loader ω μ :=
  { loader with page := { loader.page with kernel } }

section

variable (loader : Loader ω μ) (kernel : SystemPage.KernelDescriptor)

@[simp] theorem describing_board : (loader.describing kernel).board = loader.board := rfl

@[simp] theorem describing_memory : (loader.describing kernel).memory = loader.memory := rfl

@[simp] theorem describing_kernel : (loader.describing kernel).page.kernel = kernel := rfl

@[simp] theorem describing_reservations :
    (loader.describing kernel).page.reservations = loader.page.reservations := rfl

end

/-- How far the memory of segments was reserved. The page registers the ranges of the first
ones, in order, and the rest is left. -/
structure Reserves (segments : List Image.ProgramHeader) (before after : Loader ω μ)
    (reserved : List Reservation) (rest : List Image.ProgramHeader) : Prop where
  only : after = { before with page := after.page }
  registered : SystemPage.Registered before.page after.page
  reservations : after.page.reservations = before.page.reservations ++ reserved
  ranges : ∃ first, Image.occupied segments = first ++ rest ∧
    first.map before.board.rangeOf? = reserved.map some

/-- Why the range of a segment is refused: the page is sealed, the range wraps around, or the
list of reservations is full. -/
def RefusesSegment (loader : Loader ω μ) (segment : Image.ProgramHeader) (reason : PageError) :
    Prop :=
  reason = .alreadySaved ∧ loader.page.isSaved = true ∨
  reason = .badRange ∧ loader.page.isSaved = false ∧ loader.board.rangeOf? segment = none ∨
  reason = .full ∧ loader.page.isSaved = false ∧
    Capacity.reservations ≤ loader.page.reservations.length

/-- Whether all of the memory of segments was reserved, or the range of one was refused. -/
def ReserveEnds (outcome : Outcome BootError Unit) (after : Loader ω μ)
    (rest : List Image.ProgramHeader) : Prop :=
  outcome = .done () ∧ rest = [] ∨
  ∃ segment others reason, rest = segment :: others ∧ outcome = .failed (.page reason) ∧
    after.RefusesSegment segment reason

variable {before middle after : Loader ω μ} {outcome : Outcome BootError Unit}

/-- One range that was reserved, and what was reserved after it. -/
theorem Reserves.cons {segment : Image.ProgramHeader} {segments rest : List Image.ProgramHeader}
    {reserved : List Reservation} {stop : Address} (filled : segment.memorySize ≠ 0)
    (reached : (before.board.kernelAddress segment).advance? segment.memorySize.toNat = some stop)
    (only : middle = { before with page := middle.page })
    (registered : SystemPage.Registered before.page middle.page)
    (recorded : middle.page.reservations =
      before.page.reservations ++ [⟨before.board.kernelAddress segment, stop⟩])
    (later : Reserves segments middle after reserved rest) :
    Reserves (segment :: segments) before after
      (⟨before.board.kernelAddress segment, stop⟩ :: reserved) rest := by
  have board : middle.board = before.board := by rw [only]
  obtain ⟨first, split, ranges⟩ := later.ranges
  refine ⟨?_, registered.trans later.registered, ?_, segment :: first, ?_, ?_⟩
  · rw [later.only, only]
  · rw [later.reservations, recorded, List.append_assoc, List.singleton_append]
  · rw [Image.occupied, List.filter_cons_of_pos (by simpa using filled), List.cons_append]
    exact congrArg _ split
  · rw [board] at ranges
    rw [List.map_cons, List.map_cons, ranges, Board.rangeOf?, reached]
    rfl

/-- Segments are reserved in order, up to the end or to the first that is refused. -/
theorem reserveSegments_ends {segments : List Image.ProgramHeader}
    (ends : (reserveSegments segments : BootAct ω μ Unit).Ends before outcome after) :
    ∃ reserved rest, Reserves segments before after reserved rest ∧
      ReserveEnds outcome after rest := by
  induction segments generalizing before with
  | nil =>
      obtain ⟨rfl, rfl⟩ := ends
      exact ⟨[], [], ⟨rfl, Relation.ReflTransGen.refl, (List.append_nil _).symm, [], rfl, rfl⟩,
        .inl ⟨rfl, rfl⟩⟩
  | cons segment segments ih =>
      rw [reserveSegments] at ends
      split at ends
      case isTrue filled =>
        rcases ends_bind.mp (ends_read_bind.mp ends) with ⟨_, middle, here, ends⟩ |
          ⟨halt, here, halts⟩
        · obtain ⟨ending, page, inside, done, rfl⟩ := ends_onPage.mp here
          rw [mapError_eq_done.mp done] at inside
          rcases SystemPage.reserve_ends inside with ⟨⟨_, failed⟩, _⟩ |
            ⟨_, stop, _, _, reached, _, recorded⟩
          · cases failed
          · obtain ⟨reserved, rest, later, settled⟩ := ih ends
            exact ⟨_, rest, .cons filled reached rfl (SystemPage.reserve_registers.ends inside)
              (by rw [recorded]) later, settled⟩
        · obtain ⟨ending, page, inside, same, rfl⟩ := ends_onPage.mp here
          rcases SystemPage.reserve_ends inside with ⟨⟨reason, rfl⟩, rfl⟩ | ⟨rfl, _⟩
          · subst same
            cases halts
            refine ⟨[], Image.occupied (segment :: segments), ⟨rfl, Relation.ReflTransGen.refl,
              (List.append_nil _).symm, [], rfl, rfl⟩, .inr ⟨segment, Image.occupied segments,
              reason, List.filter_cons_of_pos (by simpa using filled), rfl, ?_⟩⟩
            rcases SystemPage.reserve_fails inside with sealed | ⟨rfl, pending, unreached⟩ | full
            · exact .inl sealed
            · refine .inr (.inl ⟨rfl, pending, ?_⟩)
              rcases unreached with empty | none
              · exact absurd (UInt32.toNat_inj.mp empty) filled
              · rw [Board.rangeOf?, none]
                rfl
            · exact .inr (.inr full)
          · subst same
            cases halts
      case isFalse empty =>
        obtain ⟨reserved, rest, ⟨only, registered, reservations, first, split, ranges⟩, settled⟩ :=
          ih ends
        refine ⟨reserved, rest, ⟨only, registered, reservations, first, ?_, ranges⟩, settled⟩
        rw [← split, Image.occupied, Image.occupied,
          List.filter_cons_of_neg (by simpa using empty)]

/-- **An image is taken for the kernel once all of its memory is reserved.** Otherwise it is
described, a part of its memory is reserved, and there is a reason why the next range is
refused. -/
theorem acceptKernel_ends {device : String} {copied : Copied}
    (ends : (acceptKernel device copied : BootAct ω μ Unit).Ends before outcome after) :
    ∃ left reserved rest,
      Reserves copied.segments (before.describing (describe before.board copied)) left reserved
        rest ∧
      (outcome = .done () ∧ rest = [] ∧ after = { left with kernelLoaded := true } ∨
        after = left ∧ ∃ segment others reason, rest = segment :: others ∧
          outcome = .failed (.page reason) ∧ left.RefusesSegment segment reason) := by
  rw [acceptKernel, ends_read_bind] at ends
  rcases ends_bind.mp ends with ⟨_, described, here, ends⟩ | ⟨halt, here, halts⟩
  · obtain ⟨_, _, ⟨_, rfl⟩, _, rfl⟩ := ends_onPage.mp here
    rcases ends_bind.mp ends with ⟨_, left, here, ends⟩ | ⟨halt, here, halts⟩
    · obtain ⟨reserved, rest, reserves, settled⟩ := reserveSegments_ends here
      obtain ⟨done, same⟩ := ends_report.mp (ends_update_bind.mp ends)
      rcases settled with ⟨_, empty⟩ | ⟨_, _, _, _, failed, _⟩
      · exact ⟨left, reserved, rest, reserves, .inl ⟨done.symm, empty, same.symm⟩⟩
      · cases failed
    · obtain ⟨reserved, rest, reserves, settled⟩ := reserveSegments_ends here
      rcases settled with ⟨rfl, _⟩ | ⟨segment, others, reason, split, rfl, refused⟩
      · cases halts
      · cases halts
        exact ⟨after, reserved, rest, reserves,
          .inr ⟨rfl, segment, others, reason, split, rfl, refused⟩⟩
  · obtain ⟨ending, page, ⟨inside, _⟩, renamed, _⟩ := ends_onPage.mp here
    subst inside
    subst renamed
    cases halts

/-! ## What forgetting and taking a kernel respect -/

section

variable {relation : Loader ω μ → Loader ω μ → Prop} [IsPreorder (Loader ω μ) relation]

theorem respects_forgetKernel_of
    (forgets : ∀ loader : Loader ω μ, relation loader loader.withoutKernel) :
    (forgetKernel : BootAct ω μ Unit).Respects relation := by
  refine respects_read.bind fun loader => ?_
  dsimp only
  split
  · exact respects_note.bind fun _ => respects_update forgets
  · exact respects_update forgets

variable (reserves : ∀ start size,
    (onPage (SystemPage.reserve start size) : BootAct ω μ Unit).Respects relation)

include reserves

theorem respects_reserveSegments_of (segments : List Image.ProgramHeader) :
    (reserveSegments segments : BootAct ω μ Unit).Respects relation := by
  induction segments with
  | nil => exact respects_pure
  | cons segment rest ih =>
      rw [reserveSegments]
      dsimp only
      split
      · exact respects_read.bind fun _ => (reserves _ _).bind fun _ => ih
      · exact ih

/-- What describing a kernel, reserving memory and taking a kernel respect, an acceptance
respects. -/
theorem respects_acceptKernel_of
    (describes : ∀ kernel,
      (onPage (SystemPage.setKernel kernel) : BootAct ω μ Unit).Respects relation)
    (takes : ∀ loader : Loader ω μ, relation loader { loader with kernelLoaded := true })
    {device : String} {copied : Copied} :
    (acceptKernel device copied : BootAct ω μ Unit).Respects relation := by
  refine respects_read.bind fun loader => ?_
  dsimp only
  exact (describes _).bind fun _ => (respects_reserveSegments_of reserves _).bind fun _ =>
    (respects_update takes).bind fun _ => respects_note

end

end Loader

end Bootloader
