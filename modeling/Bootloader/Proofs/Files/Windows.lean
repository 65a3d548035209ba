import Bootloader.Proofs.Device.Storage
import Bootloader.Proofs.Files.Requests
import Bootloader.Proofs.Memory.Lawful

/-!
# Windows of raw devices

What is done through a handle on a window of a raw device comes to at most one request to the
device, and that request stays inside of the window (`act_makes`). If the device is storage in
memory, what is done is done to the bytes of the window that there are: a read yields them, a
write and an erasure lay others over them, as many as the window and the storage have there
(`act_region`). So any uses of any handles on windows, which may overlap, amount to the changes
they make to the bytes of the storage one after the other (`windows_confined`).
-/

set_option autoImplicit false

namespace Bootloader

open Act

namespace FileWindow

/-- The clamp in the 64-bit words of the machine. -/
def clampWords (window : FileWindow) (offset length : UInt64) : UInt64 × UInt64 :=
  let start := UInt64.ofNat window.start
  let size := UInt64.ofNat window.size
  if size ≤ offset then (start + size, 0)
  else (start + offset, if length ≤ size - offset then length else size - offset)

/-- Nothing overflows while a range is cut at the end of a window that fits. -/
theorem clampWords_exact {window : FileWindow} (fits : window.fits = true)
    (offset length : UInt64) :
    ((window.clampWords offset length).1.toNat, (window.clampWords offset length).2.toNat) =
      window.clamp offset.toNat length.toNat := by
  have bound : window.start + window.size < 2 ^ 64 := of_decide_eq_true fits
  have start : (UInt64.ofNat window.start).toNat = window.start :=
    UInt64.toNat_ofNat_of_lt' (by rw [UInt64.size]; omega)
  have size : (UInt64.ofNat window.size).toNat = window.size :=
    UInt64.toNat_ofNat_of_lt' (by rw [UInt64.size]; omega)
  unfold clampWords clamp
  dsimp only
  simp only [UInt64.le_iff_toNat_le, size]
  by_cases beyond : window.size ≤ offset.toNat
  · rw [if_pos beyond, if_pos beyond, UInt64.toNat_add, start, size, Nat.mod_eq_of_lt bound]
    rfl
  · have left : (UInt64.ofNat window.size - offset).toNat = window.size - offset.toNat := by
      rw [UInt64.toNat_sub_of_le _ _ (UInt64.le_iff_toNat_le.mpr (by omega)), size]
    rw [if_neg beyond, if_neg beyond, UInt64.toNat_add, start, left,
      Nat.mod_eq_of_lt (by omega)]
    refine congrArg (Prod.mk _) ?_
    split
    · rw [Nat.min_eq_left (by assumption)]
    · rw [left, Nat.min_eq_right (by omega)]

/-- A range that was cut lies inside of the window, or is empty at its end. -/
theorem clamp_inside (window : FileWindow) (offset length : Nat) :
    window.start ≤ (window.clamp offset length).1 ∧
      (window.clamp offset length).1 + (window.clamp offset length).2 ≤
        window.start + window.size := by
  unfold clamp
  split
  · exact ⟨Nat.le_add_right _ _, Nat.le_refl _⟩
  · dsimp only
    omega

/-- How many bytes of a range of a window there are in the contents of a device. -/
def usable (window : FileWindow) (contents : Bytes) (offset length : Nat) : Nat :=
  min length (min (window.size - offset) (contents.length - (window.start + offset)))

/-- What a window has room for, of what the region has room for from the same place on. -/
theorem available_clamp (window : FileWindow) (region : RamRegion) (offset length : Nat) :
    region.available (window.clamp offset length).1 (window.clamp offset length).2 =
      window.usable region.bytes offset length := by
  unfold RamRegion.available clamp usable
  split <;> dsimp only <;> omega

theorem usable_le_clamp (window : FileWindow) (contents : Bytes) (offset length : Nat) :
    window.usable contents offset length ≤ (window.clamp offset length).2 := by
  unfold clamp usable
  split <;> dsimp only <;> omega

/-- A range is cut short if the window has less left from its offset on. -/
theorem clamp_short {window : FileWindow} {offset length : Nat} :
    (window.clamp offset length).2 < length ↔ window.size - offset < length := by
  unfold clamp
  split <;> dsimp only <;> omega

/-- A range starts where its offset says, or at the end of the window. -/
theorem clamp_start (window : FileWindow) (offset length : Nat) :
    (window.clamp offset length).1 = window.start + min offset window.size := by
  unfold clamp
  split <;> dsimp only <;> omega

/-- Where a window has something left, a range of it starts where its offset says. -/
theorem clamp_place {window : FileWindow} {offset length : Nat}
    (some : (window.clamp offset length).2 ≠ 0) :
    (window.clamp offset length).1 = window.start + offset := by
  unfold clamp at *
  split at some
  · exact absurd rfl some
  · next inside => rw [if_neg inside]

/-- Where a window has nothing left, nothing is laid over its device. -/
theorem overlay_clamp (window : FileWindow) (contents : Bytes) (offset length : Nat)
    {patch : Bytes} (fits : patch.length ≤ window.usable contents offset length) :
    contents.overlay (window.clamp offset length).1 patch =
      contents.overlay (window.start + offset) patch := by
  by_cases none : (window.clamp offset length).2 = 0
  · have empty : patch = [] := by
      apply List.eq_nil_of_length_eq_zero
      have bound := window.usable_le_clamp contents offset length
      omega
    rw [empty, Bytes.overlay_nil, Bytes.overlay_nil]
  · rw [clamp_place none]

end FileWindow

namespace Files

/-- What is done with a file that is open. -/
inductive Access where
  | read (offset length : Nat)
  | write (offset : Nat) (data : Bytes)
  | erase (offset length flags : Nat)
  | map (request : MapRequest)
  deriving DecidableEq, Repr

namespace Access

/-- The request through a handle. -/
def request (handle : Handle) : Access → Request
  | read offset length => .read handle offset length
  | write offset data => .write handle offset data
  | erase offset length flags => .erase handle offset length flags
  | map request => .map handle request

/-- What an access to a window makes of the contents of its device. -/
def change (window : FileWindow) (contents : Bytes) : Access → Bytes
  | read .. | map .. => contents
  | write offset data => contents.overlay (window.start + offset)
      (data.take (window.usable contents offset data.length))
  | erase offset length _ => contents.overlay (window.start + offset)
      (List.replicate (window.usable contents offset length) 0xff)

/-- What an access to a window of storage in memory yields. -/
def answer (window : FileWindow) (region : RamRegion) : Access → Outcome FileError Answer
  | read offset length => .done (.bytes (region.bytes.slice (window.start + offset)
      (window.usable region.bytes offset length)))
  | write offset data => .done (.amount (window.usable region.bytes offset data.length))
  | erase offset length _ => .done (.amount (window.usable region.bytes offset length))
  | map request =>
      if request.size ≤ window.size - request.offset then
        (Outcome.ofExcept (region.map { request with
          offset := window.start + min request.offset window.size })).map .mapping
      else .done (.mapping .notMappable)

variable {ω : Type} [Hardware ω]

/-- What an access to a window asks of the device. -/
def act (window : FileWindow) (device : DeviceId) : Access → DeviceAct ω Answer
  | read offset length => do
      let range := window.clamp offset length
      let bytes ← (if range.2 = 0 then pure []
        else device.read range.1 range.2 Capacity.readTimeout)
      return .bytes bytes
  | write offset data => do
      let range := window.clamp offset data.length
      let count ← (if range.2 = 0 then pure 0 else device.write range.1 (data.take range.2))
      return .amount count
  | erase offset length flags => do
      let range := window.clamp offset length
      let count ← device.erase range.1 range.2 flags
      return .amount count
  | map request => do
      let range := window.clamp request.offset request.size
      let mapping ← (if range.2 < request.size then pure .notMappable
        else device.map { request with offset := range.1 })
      return .mapping mapping

end Access

variable {ω : Type}

/-- The device and the window that a handle stands for. -/
def openOn? (files : Files ω) (handle : Handle) : Option (DeviceId × FileWindow) :=
  match files.resolve? handle with
  | some ⟨entry, .raw (some window)⟩ => some (entry.device, window)
  | _ => none

variable [Hardware ω]

section

variable {files before after : Files ω} {handle : Handle} {device : DeviceId}
  {window : FileWindow} {access : Access}

omit [Hardware ω] in
theorem openOn?_eq_some : files.openOn? handle = some (device, window) ↔
    ∃ entry, files.resolve? handle = some ⟨entry, .raw (some window)⟩ ∧
      entry.device = device := by
  unfold openOn?
  constructor
  · intro opened
    split at opened
    · next entry other found =>
        cases opened
        exact ⟨entry, found, rfl⟩
    · cases opened
  · rintro ⟨entry, found, rfl⟩
    rw [found]

omit [Hardware ω] in
/-- A window that is open fits 64 bits, and its device is in use. -/
theorem Sound.openOn (sound : files.Sound) (opened : files.openOn? handle = some (device, window)) :
    window.fits = true ∧ files.devices.isUp device = true := by
  obtain ⟨entry, found, rfl⟩ := openOn?_eq_some.mp opened
  have fitting := sound.resolved found
  exact ⟨fitting.fits.2, sound.isUp fitting.registered⟩

/-- An access to a window comes to what it asks of the device. -/
theorem perform_access {outcome : Outcome FileError Answer}
    (opened : before.openOn? handle = some (device, window))
    (up : before.devices.isUp device = true)
    (ends : (access.request handle).perform.Ends before outcome after) :
    ∃ world, (access.act window device).Ends before.devices.world outcome world ∧
      after = before.withWorld world := by
  obtain ⟨entry, found, rfl⟩ := openOn?_eq_some.mp opened
  have asked {α : Type} {request : Nat → DeviceAct ω α} {ending : Outcome FileError α}
      (here : (withDevice entry.device request).Ends before ending after) :
      ∃ world, (request before.patience).Ends before.devices.world ending world ∧
        after = before.withWorld world := by
    rcases withDevice_cases here with ⟨down, _⟩ | ⟨_, reached⟩
    · rw [up] at down
      cases down
    · exact reached
  cases access with
  | read offset length =>
      obtain ⟨ending, here, rfl⟩ := ends_bind_pure.mp ends
      obtain ⟨world, there, same⟩ := asked ((ends_resolve_bind found).mp here)
      exact ⟨world, ends_bind_pure.mpr ⟨ending, there, rfl⟩, same⟩
  | write offset data =>
      obtain ⟨ending, here, rfl⟩ := ends_bind_pure.mp ends
      obtain ⟨world, there, same⟩ := asked ((ends_resolve_bind found).mp here)
      exact ⟨world, ends_bind_pure.mpr ⟨ending, there, rfl⟩, same⟩
  | erase offset length flags =>
      obtain ⟨ending, here, rfl⟩ := ends_bind_pure.mp ends
      obtain ⟨world, there, same⟩ := asked ((ends_resolve_bind found).mp here)
      exact ⟨world, ends_bind_pure.mpr ⟨ending, there, rfl⟩, same⟩
  | map request =>
      obtain ⟨ending, here, rfl⟩ := ends_bind_pure.mp ends
      replace here := (ends_resolve_bind found).mp here
      dsimp only [clamp] at here
      split at here
      case isTrue short =>
        obtain ⟨rfl, rfl⟩ := here
        refine ⟨before.devices.world, ?_, rfl⟩
        unfold Access.act
        dsimp only
        rw [if_pos short]
        exact ⟨rfl, rfl⟩
      case isFalse whole =>
        obtain ⟨world, there, same⟩ := asked here
        refine ⟨world, ?_, same⟩
        unfold Access.act
        dsimp only
        rw [if_neg whole]
        exact ends_bind_pure.mpr ⟨ending, there, rfl⟩

end

/-! ## What a window lets through -/

/-- A call to a device that is about a range of a window. -/
def CallWithin (device : DeviceId) (window : FileWindow) (call : DeviceCall) : Prop :=
  call.device = device ∧ ∃ place length, call.request.range? = some (place, length) ∧
    window.start ≤ place ∧ place + length ≤ window.start + window.size

section

variable {device : DeviceId} {window : FileWindow} {access : Access} {before after : ω}

/-- An access to a window makes one call at most, and it is about a range of the window. -/
theorem act_makes {outcome : Outcome FileError Answer}
    (ends : (access.act window device).Ends before outcome after) :
    ∃ entries, Makes entries before after ∧ entries.length ≤ 1 ∧
      ∀ entry ∈ entries, CallWithin device window entry.call := by
  have idle : ∃ entries, Makes entries before before ∧ entries.length ≤ 1 ∧
      ∀ entry ∈ entries, CallWithin device window entry.call :=
    ⟨[], .nothing before, Nat.zero_le _, fun entry member => absurd member List.not_mem_nil⟩
  have once {request : DeviceRequest} {place length : Nat}
      (range : request.range? = some (place, length)) (low : window.start ≤ place)
      (high : place + length ≤ window.start + window.size)
      (made : after = ((⟨device, request⟩ : DeviceCall).make before).2) :
      ∃ entries, Makes entries before after ∧ entries.length ≤ 1 ∧
        ∀ entry ∈ entries, CallWithin device window entry.call := by
    refine ⟨_, made ▸ DeviceCall.makes _ before, Nat.le_refl _, fun entry member => ?_⟩
    rw [List.mem_singleton.mp member]
    exact ⟨rfl, place, length, range, low, high⟩
  cases access with
  | read offset length =>
      obtain ⟨low, high⟩ := window.clamp_inside offset length
      unfold Access.act at ends
      dsimp only at ends
      obtain ⟨ending, here, _⟩ := ends_bind_pure.mp ends
      split at here
      case isTrue => exact here.2 ▸ idle
      case isFalse => exact once rfl low high (DeviceId.read_ends here).1
  | write offset data =>
      obtain ⟨low, high⟩ := window.clamp_inside offset data.length
      unfold Access.act at ends
      dsimp only at ends
      obtain ⟨ending, here, _⟩ := ends_bind_pure.mp ends
      split at here
      case isTrue => exact here.2 ▸ idle
      case isFalse =>
        refine once rfl low (Nat.le_trans ?_ high) (DeviceId.write_ends here).1
        exact Nat.add_le_add_left (List.length_take_le _ _) _
  | erase offset length flags =>
      obtain ⟨low, high⟩ := window.clamp_inside offset length
      obtain ⟨ending, here, _⟩ := ends_bind_pure.mp ends
      exact once rfl low high (DeviceId.erase_ends here).1
  | map request =>
      obtain ⟨low, high⟩ := window.clamp_inside request.offset request.size
      unfold Access.act at ends
      dsimp only at ends
      obtain ⟨ending, here, _⟩ := ends_bind_pure.mp ends
      split at here
      case isTrue => exact here.2 ▸ idle
      case isFalse whole =>
        refine once rfl low (Nat.le_trans ?_ high) (DeviceId.map_ends here).1
        exact Nat.add_le_add_left (Nat.le_of_not_lt whole) _

end

/-! ## Windows of storage in memory -/

section

variable {device : DeviceId} {host : RamHost ω device.major} {window : FileWindow}
  {access : Access} {region : RamRegion} {before after : ω}

/-- An access to a window of storage yields what the bytes of the window say, and makes of them
what it should. -/
theorem act_region {outcome : Outcome FileError Answer}
    (here : host.region? device.minor before = some region)
    (ends : (access.act window device).Ends before outcome after) :
    outcome = access.answer window region ∧
      host.region? device.minor after =
        some { region with bytes := access.change window region.bytes } := by
  unfold Access.act at ends
  cases access with
  | read offset length =>
      have bound := window.usable_le_clamp region.bytes offset length
      dsimp only at ends
      obtain ⟨ending, asked, rfl⟩ := ends_bind_pure.mp ends
      split at asked
      case isTrue empty =>
        obtain ⟨rfl, rfl⟩ := asked
        refine ⟨?_, here⟩
        rw [empty] at bound
        rw [Access.answer, Nat.le_zero.mp bound]
        rfl
      case isFalse left =>
        obtain ⟨rfl, ended⟩ := DeviceId.read_ends asked
        obtain ⟨result, kept⟩ := host.region_read here (window.clamp offset length).1
          (window.clamp offset length).2 Capacity.readTimeout
        refine ⟨?_, kept⟩
        rw [result] at ended
        rw [ended, Access.answer, ← FileWindow.clamp_place left, ← FileWindow.available_clamp,
          ← RamRegion.read_eq]
        refine congrArg (fun bytes => Outcome.done (Answer.bytes bytes)) ?_
        exact List.take_of_length_le (List.length_take_le _ _)
  | write offset data =>
      have bound := window.usable_le_clamp region.bytes offset data.length
      have short : (window.clamp offset data.length).2 ≤ data.length :=
        clamp_le (some window) offset data.length
      dsimp only at ends
      obtain ⟨ending, asked, rfl⟩ := ends_bind_pure.mp ends
      split at asked
      case isTrue empty =>
        obtain ⟨rfl, rfl⟩ := asked
        rw [empty] at bound
        rw [Access.answer, Access.change, Nat.le_zero.mp bound, List.take_zero, Bytes.overlay_nil]
        exact ⟨rfl, here⟩
      case isFalse left =>
        obtain ⟨rfl, ended⟩ := DeviceId.write_ends asked
        obtain ⟨result, kept⟩ := host.region_write here (window.clamp offset data.length).1
          (data.take (window.clamp offset data.length).2)
        have count : region.available (window.clamp offset data.length).1
            (data.take (window.clamp offset data.length).2).length =
              window.usable region.bytes offset data.length := by
          rw [List.length_take_of_le short, FileWindow.available_clamp]
        rw [RamRegion.write_eq, count, List.take_take, Nat.min_eq_left bound,
          window.overlay_clamp _ _ _ (List.length_take_le _ _)] at kept
        rw [count] at result
        rw [ended, result]
        exact ⟨rfl, kept⟩
  | erase offset length flags =>
      dsimp only at ends
      obtain ⟨ending, asked, rfl⟩ := ends_bind_pure.mp ends
      obtain ⟨rfl, ended⟩ := DeviceId.erase_ends asked
      obtain ⟨result, kept⟩ := host.region_erase here (window.clamp offset length).1
        (window.clamp offset length).2 flags
      rw [RamRegion.erase_eq, FileWindow.available_clamp,
        window.overlay_clamp _ _ _ (Nat.le_of_eq List.length_replicate)] at kept
      rw [FileWindow.available_clamp] at result
      rw [ended, result]
      exact ⟨rfl, kept⟩
  | map request =>
      dsimp only at ends
      obtain ⟨ending, asked, rfl⟩ := ends_bind_pure.mp ends
      split at asked
      case isTrue short =>
        obtain ⟨rfl, rfl⟩ := asked
        refine ⟨?_, here⟩
        rw [Access.answer, if_neg (Nat.not_le.mpr (FileWindow.clamp_short.mp short))]
        rfl
      case isFalse whole =>
        obtain ⟨rfl, ended⟩ := DeviceId.map_ends asked
        obtain ⟨result, kept⟩ := host.region_map here { request with
          offset := (window.clamp request.offset request.size).1 }
        have inside : request.size ≤ window.size - request.offset :=
          Nat.not_lt.mp fun short => whole (FileWindow.clamp_short.mpr short)
        refine ⟨?_, kept⟩
        rw [ended, result, Access.answer, if_pos inside, window.clamp_start]

end

/-- What is laid over a range of a window leaves the rest of the contents as it is. -/
theorem overlay_usable {window : FileWindow} {contents patch : Bytes} {offset length : Nat}
    (fits : patch.length ≤ window.usable contents offset length) :
    (contents.overlay (window.start + offset) patch).length = contents.length ∧
      ∀ place, place < window.start ∨ window.start + window.size ≤ place →
        (contents.overlay (window.start + offset) patch)[place]? = contents[place]? := by
  unfold FileWindow.usable at fits
  by_cases empty : patch.length = 0
  · rw [List.eq_nil_of_length_eq_zero empty, Bytes.overlay_nil]
    exact ⟨rfl, fun _ _ => rfl⟩
  · have inside : window.start + offset + patch.length ≤ contents.length := by omega
    constructor
    · simp only [Bytes.overlay, List.length_append, List.length_take, List.length_drop]
      omega
    · intro place outside
      rw [Window.overlay_getElem? inside, laidOver, if_neg (by omega)]

/-- An access to a window changes nothing outside of the window. -/
theorem change_outside (window : FileWindow) (contents : Bytes) (access : Access) :
    (access.change window contents).length = contents.length ∧
      ∀ place, place < window.start ∨ window.start + window.size ≤ place →
        (access.change window contents)[place]? = contents[place]? := by
  cases access with
  | read | map => exact ⟨rfl, fun _ _ => rfl⟩
  | write offset data => exact overlay_usable (List.length_take_le _ _)
  | erase offset length flags => exact overlay_usable (Nat.le_of_eq List.length_replicate)

/-! ## Uses of handles -/

/-- An access through a handle. -/
structure Use where
  handle : Handle
  access : Access
  deriving DecidableEq, Repr

/-- The request that a use is. -/
def Use.request (use : Use) : Request :=
  use.access.request use.handle

/-- The contents of a device after uses of handles that stand for windows, of this device and of
others. -/
def contentsAfter (windows : Handle → Option (DeviceId × FileWindow)) (device : DeviceId)
    (uses : List Use) (contents : Bytes) : Bytes :=
  uses.foldl (fun contents use =>
    match windows use.handle with
    | some (other, window) => if other = device then use.access.change window contents
        else contents
    | none => contents) contents

section

variable {files : Files ω} {device other : DeviceId} {window : FileWindow} {use : Use}
  {uses : List Use} {host : RamHost ω device.major} {region : RamRegion}

theorem visit_uses (use : Use) (files : Files ω) : Uses files (use.request.visit files).after := by
  obtain ⟨handle, access⟩ := use
  cases access with
  | read => exact (respects_readBytes.bind fun _ => respects_pure).ends (ends_run _ _)
  | write => exact (respects_writeBytes.bind fun _ => respects_pure).ends (ends_run _ _)
  | erase => exact (respects_erase.bind fun _ => respects_pure).ends (ends_run _ _)
  | map => exact (respects_map.bind fun _ => respects_pure).ends (ends_run _ _)

/-- Uses leave every handle with what it stands for. -/
theorem openOn?_uses {after : Files ω} (uses : Uses files after) :
    after.openOn? = files.openOn? := by
  funext handle
  unfold openOn? resolve?
  rw [uses.slots]

theorem afterAll_uses (uses : List Use) (files : Files ω) :
    Uses files (afterAll (uses.map Use.request) files) := by
  induction uses generalizing files with
  | nil => exact refl_of Uses files
  | cons use rest ih => exact trans_of Uses (visit_uses use files) (ih _)

/-- What is asked of other instances about ranges leaves a region alone. -/
theorem region_makes {entries : List DeviceEntry} {before after : ω}
    (makes : Makes entries before after) (here : host.region? device.minor before = some region)
    (elsewhere : ∀ entry ∈ entries, CallWithin other window entry.call) (differs : other ≠ device) :
    host.region? device.minor after = some region := by
  induction makes with
  | nothing => exact here
  | call call later ih =>
      obtain ⟨same, place, length, range, _⟩ := elsewhere _ List.mem_cons_self
      refine ih ?_ fun entry member => elsewhere entry (List.mem_cons_of_mem _ member)
      exact host.region_others here (same ▸ differs) (Option.isSome_of_eq_some range)

/-- A use of a handle on a window changes its device as it should, and no other one. -/
theorem visit_region (sound : files.Sound)
    (opened : files.openOn? use.handle = some (other, window))
    (here : host.region? device.minor files.devices.world = some region) :
    host.region? device.minor (use.request.visit files).after.devices.world =
      some { region with bytes := if other = device then use.access.change window region.bytes
        else region.bytes } := by
  obtain ⟨world, asked, same⟩ := perform_access opened (sound.openOn opened).2
    (ends_run (use.access.request use.handle).perform files)
  rw [show (use.request.visit files).after = files.withWorld world from same]
  split
  · next equal =>
      subst equal
      exact (act_region here asked).2
  · next differs =>
      obtain ⟨entries, makes, _, within⟩ := act_makes asked
      exact region_makes makes here within differs

/-- Uses of handles on windows change a device by one change after the other. -/
theorem region_afterAll (sound : files.Sound)
    (opened : ∀ use ∈ uses, (files.openOn? use.handle).isSome)
    (here : host.region? device.minor files.devices.world = some region) :
    host.region? device.minor (afterAll (uses.map Use.request) files).devices.world =
      some { region with bytes := contentsAfter files.openOn? device uses region.bytes } := by
  induction uses generalizing files region with
  | nil => exact here
  | cons use rest ih =>
      obtain ⟨⟨other, window⟩, found⟩ := Option.isSome_iff_exists.mp (opened use List.mem_cons_self)
      have same := openOn?_uses (visit_uses use files)
      have later := ih (sound_visit use.request sound)
        (fun each member => same ▸ opened each (List.mem_cons_of_mem _ member))
        (visit_region sound found here)
      rw [List.map_cons, afterAll, later, same, contentsAfter, contentsAfter, List.foldl_cons,
        found]

omit [Hardware ω] in
/-- What lies in no window that was used is as it was. -/
theorem contentsAfter_outside {windows : Handle → Option (DeviceId × FileWindow)} {place : Nat}
    (contents : Bytes)
    (outside : ∀ use ∈ uses, ∀ window, windows use.handle = some (device, window) →
      place < window.start ∨ window.start + window.size ≤ place) :
    (contentsAfter windows device uses contents)[place]? = contents[place]? := by
  induction uses generalizing contents with
  | nil => rfl
  | cons use rest ih =>
      refine (ih _ fun each member => outside each (List.mem_cons_of_mem _ member)).trans ?_
      dsimp only
      split
      · next other window found =>
          split
          · next equal =>
              subst equal
              exact (change_outside window contents use.access).2 place
                (outside use List.mem_cons_self window found)
          · rfl
      · rfl

end

/-- **Windows confine what is done through them.** After any requests, and any uses of handles on
windows, a further use makes one call to the device at most, which is about a range of the
window; the window ends below 2^64, and the words of the machine cut the range as numbers do.
If the device is storage in memory, the contents are those that the uses so far made of them,
one change after the other: the use yields what they say, changes them as it should, and leaves
every byte outside of the window alone. -/
theorem windows_confined (devices : Devices ω) (patience : Nat) (requests : List Request)
    (recorder : Recorder ω) (uses : List Use) (next : Use) (device : DeviceId)
    (window : FileWindow)
    (opened : ∀ use ∈ uses,
      ((afterAll requests (ofDevices devices patience)).openOn? use.handle).isSome)
    (here : (afterAll requests (ofDevices devices patience)).openOn? next.handle =
      some (device, window)) :
    let files := afterAll requests (ofDevices devices patience)
    let before := afterAll (uses.map Use.request) files
    let visit := next.request.visit before
    (window.start + window.size < UInt64.size ∧
      (∀ offset length : UInt64,
        ((window.clampWords offset length).1.toNat, (window.clampWords offset length).2.toNat) =
          window.clamp offset.toNat length.toNat) ∧
      ∃ entries, recorder.entries visit.after.devices.world =
          recorder.entries before.devices.world ++ entries ∧ entries.length ≤ 1 ∧
        ∀ entry ∈ entries, CallWithin device window entry.call) ∧
    ∀ (host : RamHost ω device.major) (region : RamRegion),
      host.region? device.minor files.devices.world = some region →
      let contents := contentsAfter files.openOn? device uses region.bytes
      let left := next.access.change window contents
      (∀ place, (∀ use ∈ uses, ∀ used, files.openOn? use.handle = some (device, used) →
        place < used.start ∨ used.start + used.size ≤ place) →
        contents[place]? = region.bytes[place]?) ∧
      visit.outcome = next.access.answer window { region with bytes := contents } ∧
      host.region? device.minor visit.after.devices.world =
        some { region with bytes := left } ∧
      left.length = contents.length ∧
      ∀ place, place < window.start ∨ window.start + window.size ≤ place →
        left[place]? = contents[place]? := by
  intro files before visit
  have sound : files.Sound := (sound_ofDevices devices patience).afterAll requests
  have used := afterAll_uses uses files
  have there : before.openOn? next.handle = some (device, window) :=
    (congrFun (openOn?_uses used) next.handle).trans here
  obtain ⟨fits, up⟩ := (sound.uses used).openOn there
  obtain ⟨world, asked, same⟩ := perform_access there up
    (ends_run (next.access.request next.handle).perform before)
  have left : visit.after.devices.world = world := congrArg (fun files => files.devices.world) same
  refine ⟨⟨of_decide_eq_true fits, FileWindow.clampWords_exact fits, ?_⟩, ?_⟩
  · obtain ⟨entries, makes, few, within⟩ := act_makes asked
    exact ⟨entries, left ▸ recorder.entries_of_makes makes, few, within⟩
  · intro host region found contents
    have held := region_afterAll sound opened found
    obtain ⟨answered, changed⟩ := act_region held asked
    obtain ⟨kept, outside⟩ := change_outside window contents next.access
    exact ⟨fun place apart => contentsAfter_outside region.bytes apart, answered,
      left ▸ changed, kept, outside⟩

/-- Eight bytes of storage, whose calls are put on record. -/
def eightBytes : Devices (Watched Bench.World) where
  backends := [⟨.ram, [true]⟩]
  world := ⟨⟨[(.ram, .ram ⟨[⟨⟨0⟩, ⟨0⟩, [0, 1, 2, 3, 4, 5, 6, 7]⟩], 0⟩)], []⟩, []⟩

/-- A window in the middle, and one that overlaps it and reaches beyond the end. -/
def overlapping : List Request :=
  [.registerDevice "disk" ⟨.ram, 0⟩ .raw, .registerFile "part" ⟨1, 4⟩,
    .openFile "disk" (some "part") 0, .openWindow "disk" ⟨3, 10⟩]

/-- A write that does not fit the first window, and an erasure through the second. -/
def overlappingUses : List Use :=
  [⟨⟨0, 0⟩, .write 2 [0xa1, 0xa2, 0xa3, 0xa4]⟩, ⟨⟨1, 0⟩, .erase 0 1 0⟩]

theorem windows_confined_overlapping :
    let files := afterAll overlapping (ofDevices eightBytes 1)
    let before := afterAll (overlappingUses.map Use.request) files
    let visit := (Request.read ⟨1, 0⟩ 0 100).visit before
    files.openOn? ⟨0, 0⟩ = some (⟨.ram, 0⟩, ⟨1, 4⟩) ∧
      files.openOn? ⟨1, 0⟩ = some (⟨.ram, 0⟩, ⟨3, 10⟩) ∧
      before.devices.world.entries.length = 2 ∧
      visit.outcome = .done (.bytes [0xff, 0xa2, 5, 6, 7]) := by
  intro files before visit
  have confined := windows_confined eightBytes 1 overlapping Watched.recorder overlappingUses
    ⟨⟨1, 0⟩, .read 0 100⟩ ⟨.ram, 0⟩ ⟨3, 10⟩ (by decide +kernel) (by decide +kernel)
  obtain ⟨_, answered, _⟩ := confined.2 (Bench.World.ramHost .ram).watched
    ⟨⟨0⟩, ⟨0⟩, [0, 1, 2, 3, 4, 5, 6, 7]⟩ (by decide +kernel)
  exact ⟨by decide +kernel, by decide +kernel, by decide +kernel,
    answered.trans (by decide +kernel)⟩

end Files

end Bootloader
