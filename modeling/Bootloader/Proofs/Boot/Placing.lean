import Bootloader.Bench.World
import Bootloader.Proofs.Boot.Copying
import Bootloader.Proofs.Memory.Lawful
import Bootloader.Proofs.SystemPage.Paging

/-!
# Where a copied image lies

A copy that runs into a reservation is started over behind it, so what is in memory in the
end was written by several attempts. Whatever the devices answer and however an attempt ends,
the top of the map rises over everything that was written, and nothing is written where a
reservation is (`Fills`). A completed copy therefore has the bytes of its last attempt in one
piece between the old top of the map and the new one, and the leavings of the attempts before
it lie below (`copyToMap_places`). It begins where its last attempt rounded the top up to
(`copyToMap_imageStart`).
-/

set_option autoImplicit false

namespace Bootloader

/-- Whether an address holds one of the bytes. -/
def Chunk.Holds (chunk : Chunk) (place : Address) : Prop :=
  chunk.address ≤ place ∧ place.toNat < chunk.address.toNat + chunk.bytes.length

namespace Loader

open Act
open SystemPage (MemoryMap Continues)
open SystemPage.Reservation (Covers)
open Trust (Algorithm)

variable {ω μ : Type} [PhysicalMemory μ] {before middle after : Loader ω μ} {name : String}

/-- What the copying of an image does to the map it goes to. The map keeps its range and its
reservations, its top does not fall, and whatever was written lies between the old top and
the new one, where no reservation is. -/
structure Fills (name : String) (map later : MemoryMap) (before after : Loader ω μ) : Prop where
  consistent : after.page.Consistent
  found : after.page.map? name = some later
  continues : Continues map later
  reserved : later.reserved = map.reserved
  written : ∃ chunks, writeChunks before.memory chunks = .ok after.memory ∧
    ∀ chunk ∈ chunks, ∀ place, chunk.Holds place →
      map.top ≤ place ∧ place < later.top ∧ ¬ Covers map.reserved place

theorem Fills.trans {first second third : MemoryMap}
    (earlier : Fills name first second before middle)
    (later : Fills name second third middle after) : Fills name first third before after where
  consistent := later.consistent
  found := later.found
  continues := earlier.continues.trans later.continues
  reserved := later.reserved.trans earlier.reserved
  written := by
    obtain ⟨chunks, wrote, inside⟩ := earlier.written
    obtain ⟨others, further, above⟩ := later.written
    refine ⟨chunks ++ others, writeChunks_append.mpr ⟨_, wrote, further⟩, ?_⟩
    intro chunk member place holds
    rcases List.mem_append.mp member with member | member
    · obtain ⟨low, high, free⟩ := inside chunk member place holds
      exact ⟨low, Nat.lt_of_lt_of_le high later.continues.top, free⟩
    · obtain ⟨low, high, free⟩ := above chunk member place holds
      rw [earlier.reserved] at free
      exact ⟨Nat.le_trans earlier.continues.top low, high, free⟩

/-- Wherever the maps are consistent, what is done to a map is that it is filled. -/
def Filling (name : String) (before after : Loader ω μ) : Prop :=
  ∀ map, before.page.Consistent → before.page.map? name = some map →
    ∃ later, Fills name map later before after

/-- Where neither the page nor the memory changes, nothing is filled. -/
theorem filling_of_eq (page : after.page = before.page) (memory : after.memory = before.memory) :
    Filling name before after := by
  intro map consistent found
  refine ⟨map, page ▸ consistent, page ▸ found, .refl map, rfl, [], ?_, ?_⟩
  · rw [memory, writeChunks_nil]
  · intro chunk member
    cases member

/-- A top that moves over nothing that was written. -/
theorem filling_of_move {map : MemoryMap} {move : MemoryMap → MemoryMap}
    (pending : before.page.isSaved = false) (found : before.page.map? name = some map)
    (moves : SystemPage.TopMove map move)
    (page : after.page = before.page.changeMap name move) (memory : after.memory = before.memory) :
    Filling name before after := by
  intro other consistent found'
  cases found.symm.trans found'
  obtain ⟨kept, moved, continues, reserved⟩ := consistent.moveTop pending found moves
  refine ⟨move map, page ▸ kept, page ▸ moved, continues, reserved, [], ?_, ?_⟩
  · rw [memory, writeChunks_nil]
  · intro chunk member
    cases member

instance : IsPreorder (Loader ω μ) (Filling name) where
  refl _ := filling_of_eq rfl rfl
  trans first second third earlier later map consistent found := by
    obtain ⟨between, fills⟩ := earlier map consistent found
    obtain ⟨last, further⟩ := later between fills.consistent fills.found
    exact ⟨last, fills.trans further⟩

theorem OnlyFiles.filling (only : OnlyFiles before after) : Filling name before after :=
  filling_of_eq only.page only.memory

theorem alignMapTop_filling :
    (onPage (SystemPage.alignMapTop name) : BootAct ω μ Address).Respects (Filling name) := by
  apply respects_of_ends
  intro before outcome after ends
  obtain ⟨_, page, inside, _, rfl⟩ := ends_onPage.mp ends
  rcases SystemPage.alignMapTop_ends inside with ⟨_, rfl⟩ | ⟨map, _, pending, found, rfl⟩
  · exact filling_of_eq rfl rfl
  · exact filling_of_move pending found .align rfl rfl

/-- One chunk is written where no reservation is, and the top rises over it; or only the top
moves. -/
theorem writeToMap_filling {data : Bytes} :
    (onStore (SystemPage.writeToMap name data) : BootAct ω μ Address).Respects
      (Filling name) := by
  apply respects_of_ends
  intro before outcome after ends
  obtain ⟨_, page, memory, inside, _, rfl⟩ := ends_onStore.mp ends
  rcases SystemPage.writeToMap_ends inside with ⟨rfl, rfl, _⟩ |
    ⟨map, stop, entry, rfl, pending, found, _, hit, _, rfl⟩ |
    ⟨map, stop, _, pending, found, fits, reached, clear, wrote, rfl⟩
  · exact filling_of_eq rfl rfl
  · exact filling_of_move pending found (.pass stop entry hit) rfl rfl
  · intro other consistent found'
    cases found.symm.trans found'
    obtain ⟨kept, moved, continues, reserved⟩ :=
      consistent.moveTop pending found (.fill data.length stop fits reached clear)
    refine ⟨_, kept, moved, continues, reserved, [⟨map.top, data⟩],
      writeChunks_cons.mpr ⟨memory, wrote, rfl⟩, ?_⟩
    intro chunk member place holds
    rw [List.mem_singleton.mp member] at holds
    have below : place < stop := by
      rw [Address.lt_def, Address.advance?_eq_some_iff.mp reached]
      exact holds.2
    exact ⟨holds.1, below, MemoryMap.not_covers_of_collision?_eq_none clear holds.1 below⟩

section

variable [Hardware ω] {handle : Handle} {offset size : Nat} {algorithm : Option Algorithm}
  {map : MemoryMap} {placed : Placed} {contents : Bytes}

/-- However an attempt ends, it fills the map. -/
theorem copyOnce_filling :
    (copyOnce handle offset size name algorithm : BootAct ω μ Placed).Respects (Filling name) :=
  respects_copyOnce_of (fun _ _ => respects_onFiles.mono fun _ _ => OnlyFiles.filling)
    (fun _ => writeToMap_filling) alignMapTop_filling

theorem GivenUp.filling {count : Nat}
    (attempts : GivenUp handle offset size name algorithm count before after) :
    Filling name before after := by
  induction attempts with
  | none loader => exact refl_of (Filling name) loader
  | attempt tried others ih => exact trans_of (Filling name) (copyOnce_filling.ends tried) ih

/-- Whatever is expected of the reads of a file is still met. -/
def KeepsReads (handle : Handle) (before after : Loader ω μ) : Prop :=
  ∀ expected, Files.Always handle expected before.files → Files.Always handle expected after.files

omit [PhysicalMemory μ] in
instance : IsPreorder (Loader ω μ) (KeepsReads handle) where
  refl _ _ := id
  trans _ _ _ earlier later expected := later expected ∘ earlier expected

omit [PhysicalMemory μ] in
theorem readExact_keepsReads {position length : Nat} :
    (onFiles (Files.readExact handle position length) : BootAct ω μ Bytes).Respects
      (KeepsReads handle) := by
  apply respects_of_ends
  intro before outcome after ends expected always
  obtain ⟨_, files, inside, _, rfl⟩ := ends_onFiles.mp ends
  exact always.readExact inside

omit [PhysicalMemory μ] in
theorem onStore_keepsReads {α : Type} {request : StoreAct μ α} :
    (onStore request : BootAct ω μ α).Respects (KeepsReads handle) := by
  apply respects_of_ends
  intro before outcome after ends expected always
  obtain ⟨_, _, _, _, _, rfl⟩ := ends_onStore.mp ends
  exact always

omit [PhysicalMemory μ] in
theorem onPage_keepsReads {α : Type} {request : PageAct α} :
    (onPage request : BootAct ω μ α).Respects (KeepsReads handle) := by
  apply respects_of_ends
  intro before outcome after ends expected always
  obtain ⟨_, _, _, _, rfl⟩ := ends_onPage.mp ends
  exact always

theorem GivenUp.keepsReads {count : Nat}
    (attempts : GivenUp handle offset size name algorithm count before after) :
    KeepsReads handle before after := by
  induction attempts with
  | none loader => exact refl_of (KeepsReads handle) loader
  | attempt tried others ih =>
      have keeps : (copyOnce handle offset size name algorithm : BootAct ω μ Placed).Respects
          (KeepsReads handle) :=
        respects_copyOnce_of (fun _ _ => readExact_keepsReads) (fun _ => onStore_keepsReads)
          onPage_keepsReads
      exact trans_of (KeepsReads handle) (keeps.ends tried) ih

/-- An attempt that is completed leaves the image in the map below the top, from a place on where
an image may begin. -/
theorem copyOnce_imageStart (consistent : before.page.Consistent) (nonempty : size ≠ 0)
    (ends : (copyOnce handle offset size name algorithm : BootAct ω μ Placed).Ends before
      (.done placed) after) :
    ∃ target later, before.page.map? name = some target ∧ after.page.map? name = some later ∧
      target.top ≤ placed.start ∧ target.ImageStart placed.start ∧
      later = { target with top := placed.stop } := by
  obtain ⟨target, chunks, found, appended, start, _⟩ := copyOnce_ends ends
  obtain ⟨later, fills⟩ := copyOnce_filling.ends ends target consistent found
  obtain rfl := Option.some.inj (fills.found.symm.trans appended.moved)
  have below := (fills.consistent.bounded _ (SystemPage.map?_mem fills.found).1).2
  have room : target.alignTop.top < target.stop := by
    have reached := appended.reached
    simp only [Address.le_def, Address.lt_def] at *
    have high : placed.stop.toNat ≤ target.stop.toNat := below
    omega
  have reflects := consistent.reflected target (SystemPage.map?_mem found).1
  refine ⟨target, _, found, appended.moved, ?_, ?_, rfl⟩
  · exact start ▸ consistent.le_alignTop found
  · exact start ▸ reflects.imageStart_alignTop room

/-- A copy of nothing is refused. -/
theorem copyToMap_nonempty
    (ends : (copyToMap handle offset size name algorithm : BootAct ω μ Placed).Ends before
      (.done placed) after) : size ≠ 0 := by
  rcases ends_require_bind.mp ends with ⟨filled, _⟩ | ⟨_, failed, _⟩
  · simpa using filled
  · cases failed

/-- A completed copy begins no lower than the top of the map, at a place where an image may
begin. -/
theorem copyToMap_imageStart (consistent : before.page.Consistent)
    (found : before.page.map? name = some map)
    (ends : (copyToMap handle offset size name algorithm : BootAct ω μ Placed).Ends before
      (.done placed) after) :
    map.top ≤ placed.start ∧ map.ImageStart placed.start := by
  obtain ⟨count, last, earlier, final⟩ := copyToMap_attempts ends
  obtain ⟨target, fills⟩ := earlier.filling map consistent found
  obtain ⟨_, _, there, _, raised, begins, _⟩ :=
    copyOnce_imageStart fills.consistent (copyToMap_nonempty ends) final
  cases fills.found.symm.trans there
  exact ⟨Nat.le_trans fills.continues.top raised, begins.congr fills.reserved.symm⟩

/-- The attempts of a copy: some that were given up, and the last one, which read the contents
and wrote them in one piece. What the others wrote lies in the map, from its old top on, below
the image, and where no reservation is. -/
structure Attempts (handle : Handle) (offset size : Nat) (name : String)
    (algorithm : Option Algorithm) (map : MemoryMap) (before last after : Loader ω μ)
    (placed : Placed) (contents : Bytes) : Prop where
  earlier : ∃ count, GivenUp handle offset size name algorithm count before last
  abandoned : ∃ chunks, writeChunks before.memory chunks = .ok last.memory ∧
    ∀ chunk ∈ chunks, ∀ place, chunk.Holds place → map.top ≤ place ∧ place < placed.start ∧
      ¬ Covers map.reserved place ∧ ¬ Covers before.page.reservations place
  final : (copyOnce handle offset size name algorithm : BootAct ω μ Placed).Ends last
    (.done placed) after
  served : Files.Serves handle offset contents last.files after.files
  written : ∃ chunks, Chunk.Contiguous placed.start.toNat chunks ∧
    Chunk.contents chunks = contents ∧ writeChunks last.memory chunks = .ok after.memory

/-- A completed copy: where the image lies, what it consists of, and how it came there. -/
structure Placement (handle : Handle) (offset size : Nat) (name : String)
    (algorithm : Option Algorithm) (map : MemoryMap) (before after : Loader ω μ)
    (placed : Placed) (contents : Bytes) : Prop where
  length : contents.length = size
  stop : placed.stop.toNat = placed.start.toNat + size
  above : map.top ≤ placed.start
  inside : placed.stop ≤ map.stop
  moved : ∃ later, after.page.map? name = some later ∧ Continues map later ∧
    later.reserved = map.reserved ∧ later.top = placed.stop
  free : ∀ place, placed.start ≤ place → place < placed.stop →
    ¬ Covers map.reserved place ∧ ¬ Covers before.page.reservations place
  attempts : ∃ last,
    Attempts handle offset size name algorithm map before last after placed contents
  resident : bytesAt? after.memory placed.start.toNat size = some contents
  faithful : ∀ file, Files.Steady handle file before.files → contents = file.slice offset size
  digest : placed.digest = algorithm.map fun algorithm => Trust.digestOf algorithm contents

/-- **A completed copy lies in one piece on free ground.** Whatever the page was asked for
before and whatever the devices answer, the image lies in its map between the old top and the
new one, in no reservation; it consists of what the last attempt read, which has the digest;
and what the attempts before wrote lies below it, in no reservation either. -/
theorem copyToMap_places [LawfulMemory μ] {requests : List SystemPage.Request} {fresh : μ}
    (reached : before.page = (SystemPage.afterAll requests (SystemPage.empty, fresh)).1)
    (sound : LawfulMemory.Sound before.memory) (found : before.page.map? name = some map)
    (ends : (copyToMap handle offset size name algorithm : BootAct ω μ Placed).Ends before
      (.done placed) after) :
    ∃ contents, Placement handle offset size name algorithm map before after placed contents := by
  have consistent : before.page.Consistent := by
    rw [reached]
    exact SystemPage.consistent_afterAll fresh requests
  obtain ⟨count, last, earlier, final⟩ := copyToMap_attempts ends
  obtain ⟨target, fills⟩ := earlier.filling map consistent found
  obtain ⟨chunks, wrote, inside⟩ := fills.written
  obtain ⟨found', chunks', there, appended, start, digest⟩ := copyOnce_ends final
  cases fills.found.symm.trans there
  obtain ⟨later, filled⟩ := copyOnce_filling.ends final target fills.consistent fills.found
  obtain rfl := Option.some.inj (filled.found.symm.trans appended.moved)
  have continues := fills.continues.trans filled.continues
  have bounded := (filled.consistent.bounded _ (SystemPage.map?_mem filled.found).1).2
  have below : placed.stop ≤ map.stop := continues.stop ▸ bounded
  -- The last attempt rounds the top up first, so the image starts no lower than it was.
  have raised : target.top ≤ placed.start := start ▸ fills.consistent.le_alignTop fills.found
  have above : map.top ≤ placed.start := Nat.le_trans fills.continues.top raised
  have ordered : placed.stop.toNat = placed.start.toNat + size := start ▸ appended.reached
  have kept : target.alignTop.reserved = map.reserved := fills.reserved
  have memory : LawfulMemory.Sound last.memory := LawfulMemory.sound_writeChunks sound wrote
  have fits := placed.stop.toNat_lt
  have length := appended.length
  refine ⟨Chunk.contents chunks', length, ordered, above, below,
    ⟨_, filled.found, continues, filled.reserved.trans fills.reserved, rfl⟩, ?free,
    ⟨last, ⟨count, earlier⟩, ⟨chunks, wrote, ?abandoned⟩, final, appended.served,
      chunks', start ▸ appended.contiguous, rfl, appended.written⟩, ?resident, ?faithful, digest⟩
  case free =>
    intro place low high
    have free : ¬ Covers map.reserved place := kept ▸ appended.free place (start ▸ low) high
    refine ⟨free, consistent.not_covers found (Nat.le_trans above low) ?_ free⟩
    exact Nat.lt_of_lt_of_le high below
  case abandoned =>
    intro chunk member place holds
    obtain ⟨low, high, free⟩ := inside chunk member place holds
    have early : place < placed.start := Nat.lt_of_lt_of_le high raised
    refine ⟨low, early, free, consistent.not_covers found low ?_ free⟩
    simp only [Address.le_def, Address.lt_def] at *
    omega
  case resident =>
    have deposited : Deposited last.memory after.memory placed.start.toNat
        (Chunk.contents chunks') :=
      ⟨[], chunks', start ▸ appended.contiguous, rfl, appended.written⟩
    rw [← length]
    exact LawfulMemory.bytesAt?_of_deposited memory deposited (by omega)
  case faithful =>
    intro file steady
    have steady : Files.Steady handle file last.files := earlier.keepsReads _ steady
    obtain ⟨rest, same⟩ := steady.prefix_of_serves appended.served
    rw [Bytes.slice, ← same, ← length, List.take_left]

end

/-- A loader with an open file on a device that never answers the same, and with a map whose
first page has a reservation in it. -/
def interrupted : Loader Bench.World IdentityMemory :=
  let script : Bench.Script :=
    { init := [], done := [], write := [], erase := [], sync := [], map := []
      read := [.ok (List.replicate 0x400 1), .ok [2, 2], .ok (List.replicate 0x400 3), .ok [4, 5]] }
  let devices : Devices Bench.World :=
    ⟨[⟨.storage, [true]⟩], ⟨[(.storage, .script script)], []⟩⟩
  let fresh := ofParts Board.standard devices IdentityMemory.zeros 0
  { fresh with
    files := { fresh.files with
      slots := [⟨0, some ⟨⟨"disk", ⟨.storage, 0⟩, .raw⟩, .raw none⟩⟩] }
    page := (SystemPage.afterAll
      [.addMap "ram" ⟨0x1000⟩ ⟨0x5000⟩ default, .reserve ⟨0x1401⟩ 0x10]
      (SystemPage.empty, IdentityMemory.zeros)).1 }

/-- The second chunk runs into the reservation, and the image is read again into the next
page: what lies there is what was read then. -/
theorem copyToMap_places_behind :
    ∃ map after placed contents, interrupted.page.map? "ram" = some map ∧
      placed = ⟨⟨0x2000⟩, ⟨0x2402⟩, none⟩ ∧
      (copyToMap ⟨0, 0⟩ 0 0x402 "ram" none).Ends interrupted (.done placed) after ∧
      Placement ⟨0, 0⟩ 0 0x402 "ram" none map interrupted after placed contents := by
  have ends : (copyToMap ⟨0, 0⟩ 0 0x402 "ram" none).Ends interrupted
      (.done ⟨⟨0x2000⟩, ⟨0x2402⟩, none⟩) _ :=
    ⟨by decide +kernel, rfl⟩
  have found : interrupted.page.map? "ram" = some ⟨"ram", 0, ⟨0x1000⟩, ⟨0x5000⟩, default,
      ⟨0x1000⟩, [⟨⟨0x1401⟩, ⟨0x1411⟩⟩]⟩ := by
    decide +kernel
  obtain ⟨contents, placement⟩ := copyToMap_places (μ := IdentityMemory) rfl trivial found ends
  exact ⟨_, _, _, contents, found, rfl, ends, placement⟩

end Loader

end Bootloader
