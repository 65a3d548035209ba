import Bootloader.Boot.Context
import Bootloader.Trust.Digest

/-!
# Placing images in memory

Images are moved in chunks. A copied image starts at the first page of its map
that is free, and lies in one piece: where a reservation is in the way the copy
is started over behind it, with a fresh digest. An image that is used in place
is only read, for its digest. A segment of a kernel is copied to the address
that it asks for.
-/

set_option autoImplicit false

namespace Bootloader

open Trust (Algorithm Digest Hasher)

/-- Where an image lies, and its digest if one was asked for. -/
structure Placed where
  start : Address
  stop : Address
  digest : Option Digest
  deriving DecidableEq, Repr

namespace Loader

variable {ω μ : Type} [Hardware ω]

/-- Hash `remaining` bytes of a file from an offset on. -/
def hashFrom (handle : Handle) (offset remaining : Nat) (hasher : Hasher) :
    BootAct ω μ Hasher := do
  if _more : remaining = 0 then
    return hasher
  else
    let length := min remaining Capacity.chunk
    let chunk ← onFiles (Files.readExact handle offset length)
    hashFrom handle (offset + length) (remaining - length) (hasher.feed chunk)
termination_by remaining
decreasing_by
  have : 0 < Capacity.chunk := by decide
  omega

/-- The digest of the first `size` bytes of a file. -/
def hashOnly (handle : Handle) (size : Nat) (algorithm : Algorithm) : BootAct ω μ Digest := do
  let hasher ← hashFrom handle 0 size (Hasher.start algorithm)
  return hasher.finish

variable [PhysicalMemory μ]

/-- Copy `remaining` bytes of a file to the top of a map. -/
def copyFrom (handle : Handle) (map : String) (offset remaining : Nat)
    (hasher : Option Hasher) : BootAct ω μ (Option Hasher) := do
  if _more : remaining = 0 then
    return hasher
  else
    let length := min remaining Capacity.chunk
    let chunk ← onFiles (Files.readExact handle offset length)
    let _ ← onStore (SystemPage.writeToMap map chunk)
    copyFrom handle map (offset + length) (remaining - length) (hasher.map (·.feed chunk))
termination_by remaining
decreasing_by
  have : 0 < Capacity.chunk := by decide
  omega

/-- Copy `size` bytes of a file to the first free page of a map, in one go. -/
def copyOnce (handle : Handle) (offset size : Nat) (map : String)
    (algorithm : Option Algorithm) : BootAct ω μ Placed := do
  let start ← onPage (SystemPage.alignMapTop map)
  let loader ← Act.read
  let free ← Act.mapError .page (Act.ofExcept (loader.page.freeSize map))
  Act.require (size ≤ free) (.page .noSpace)
  let hasher ← copyFrom handle map offset size (algorithm.map Hasher.start)
  let stop ← Act.orCrash (start.advance? size)
  return ⟨start, stop, hasher.map Hasher.finish⟩

/-- Copy `size` bytes of a file into a map, starting over behind each reservation that is in
the way. -/
def copyWithin (handle : Handle) (offset size : Nat) (map : String)
    (algorithm : Option Algorithm) : (attempts : Nat) → BootAct ω μ Placed
  | 0 => Act.fail (.page .noSpace)
  | attempts + 1 => do
      match ← Act.attempt (copyOnce handle offset size map algorithm) with
      | .failed (.page (.again _)) => do
          report .placement .debug ("map " ++ map ++ ": collided with a reservation, starting over")
          copyWithin handle offset size map algorithm attempts
      | outcome => Act.conclude outcome

/-- Copy `size` bytes of a file from an offset on into a map. -/
def copyToMap (handle : Handle) (offset size : Nat) (map : String)
    (algorithm : Option Algorithm) : BootAct ω μ Placed := do
  Act.require (size ≠ 0) .emptyImage
  copyWithin handle offset size map algorithm (Capacity.reservations + 1)

/-- Copy `remaining` bytes of a file to an address. -/
def copySegmentFrom (handle : Handle) (destination : Address) (offset done remaining : Nat)
    (hasher : Option Hasher) : BootAct ω μ (Option Hasher) := do
  if _more : remaining = 0 then
    return hasher
  else
    let length := min remaining Capacity.chunk
    let chunk ← onFiles (Files.readExact handle (offset + done) length)
    let address ← Act.orCrash (destination.advance? done)
    writeMemory address chunk
    copySegmentFrom handle destination offset (done + length) (remaining - length)
      (hasher.map (·.feed chunk))
termination_by remaining
decreasing_by
  have : 0 < Capacity.chunk := by decide
  omega

/-- Copy the contents of a segment to the place that the board gives it. Memory behind the
contents is left as it is. -/
def copySegment (handle : Handle) (segment : Image.ProgramHeader) (hasher : Option Hasher) :
    BootAct ω μ (Option Hasher) := do
  let loader ← Act.read
  let destination := loader.board.kernelAddress segment
  let size := segment.fileSize.toNat
  let hasher ← copySegmentFrom handle destination segment.offset.toNat 0 size hasher
  report .placement .debug ("segment " ++ Text.hex segment.offset.toNat ++ "+" ++ Text.hex size ++
    " -> " ++ destination.render)
  return hasher

/-- Copy the contents of segments, in order. -/
def copySegments (handle : Handle) (hasher : Option Hasher) :
    List Image.ProgramHeader → BootAct ω μ (Option Hasher)
  | [] => pure hasher
  | segment :: rest => do
      let hasher ← copySegment handle segment hasher
      copySegments handle hasher rest

end Loader

end Bootloader
