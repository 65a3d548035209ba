import Bootloader.Boot.Placement
import Bootloader.Proofs.Address
import Bootloader.Proofs.Boot.Frames
import Bootloader.Proofs.Memory.Resident
import Bootloader.Proofs.SystemPage.Reflection
import Bootloader.Proofs.SystemPage.Requests
import Bootloader.Proofs.Trust.Streaming

/-!
# What copying does

A copy loop reads a chunk, writes it and feeds it to the hasher, if there is one. Whatever
the device answers and however a copy ends, it changes no more than the files, the tops of
maps, and the memory by a list of chunks (`Copies`). One pass of the loop to a map stops at
its read or at its write, or appends its chunk to what is there (`copyFrom_pass`). So a copy
that is completed wrote exactly the bytes that the file gave to it, in chunks that follow each
other, and its hasher was fed exactly these (`copyFrom_ends`, `copySegmentFrom_ends`). A copy
to a map that was started over leaves the bytes of its last attempt, and has the digest of
these (`copyToMap_ends`).
-/

set_option autoImplicit false

namespace Bootloader.Loader

open Act
open Trust (Algorithm Digest Hasher)

variable {ω μ : Type}

/-- Reading files, moving tops and writing chunks, and nothing else. -/
structure Copies [PhysicalMemory μ] (before after : Loader ω μ) : Prop where
  rest : after = { before with
    files := after.files
    memory := after.memory
    page := { before.page with maps := after.page.maps } }
  written : ∃ chunks, writeChunks before.memory chunks = .ok after.memory

section

variable [PhysicalMemory μ]

theorem Copies.refl (loader : Loader ω μ) : Copies loader loader :=
  ⟨rfl, [], rfl⟩

theorem Copies.trans {first second third : Loader ω μ} (earlier : Copies first second)
    (later : Copies second third) : Copies first third where
  rest := by
    have rest := later.rest
    rw [earlier.rest] at rest
    exact rest
  written := by
    obtain ⟨chunks, wrote⟩ := earlier.written
    obtain ⟨others, further⟩ := later.written
    exact ⟨chunks ++ others, writeChunks_append.mpr ⟨_, wrote, further⟩⟩

instance : IsPreorder (Loader ω μ) Copies where
  refl := .refl
  trans _ _ _ := .trans

theorem OnlyFiles.copies {before after : Loader ω μ} (only : OnlyFiles before after) :
    Copies before after := by
  refine ⟨?_, [], ?_⟩
  · rw [only]
  · rw [only, writeChunks_nil]

theorem respects_copies {α : Type} {action : BootAct ω μ α} (only : action.Respects OnlyFiles) :
    action.Respects Copies :=
  only.mono fun _ _ => OnlyFiles.copies

end

/-! ## Hashing in place -/

section

variable [Hardware ω] {handle : Handle} {before after : Loader ω μ}

section

variable {relation : Loader ω μ → Loader ω μ → Prop} [IsPreorder (Loader ω μ) relation]
  (reads : ∀ offset length,
    (onFiles (Files.readExact handle offset length) : BootAct ω μ Bytes).Respects relation)

include reads

theorem respects_hashFrom_of {offset remaining : Nat} {hasher : Hasher} :
    (hashFrom handle offset remaining hasher : BootAct ω μ Hasher).Respects relation := by
  induction remaining using Nat.strongRecOn generalizing offset hasher with
  | ind remaining ih =>
      rw [hashFrom]
      split
      case isTrue => exact respects_pure
      case isFalse more =>
        have positive : 0 < Capacity.chunk := by decide
        exact (reads offset _).bind fun chunk => ih _ (by omega)

/-- What its reads respect, the digest of a file respects. -/
theorem respects_hashOnly_of {size : Nat} {algorithm : Algorithm} :
    (hashOnly handle size algorithm : BootAct ω μ Digest).Respects relation :=
  (respects_hashFrom_of reads).bind fun _ => respects_pure

end

theorem respects_hashOnly {size : Nat} {algorithm : Algorithm} :
    (hashOnly handle size algorithm : BootAct ω μ Digest).Respects OnlyFiles :=
  respects_hashOnly_of fun _ _ => respects_onFiles

/-- What was hashed are the bytes that the file gave, piece by piece. -/
theorem hashFrom_ends {offset remaining : Nat} {hasher result : Hasher}
    (ends : (hashFrom handle offset remaining hasher : BootAct ω μ Hasher).Ends before
      (.done result) after) :
    ∃ pieces : List Bytes, Files.Serves handle offset pieces.flatten before.files after.files ∧
      pieces.flatten.length = remaining ∧ result = pieces.foldl Hasher.feed hasher := by
  induction remaining using Nat.strongRecOn generalizing offset hasher before with
  | ind remaining ih =>
      rw [hashFrom] at ends
      split at ends
      case isTrue empty =>
        obtain ⟨done, same⟩ := ends
        cases done
        cases same
        exact ⟨[], .nothing offset before.files, empty.symm, rfl⟩
      case isFalse more =>
        have positive : 0 < Capacity.chunk := by decide
        obtain ⟨chunk, middle, here, ends⟩ := ends_bind_done.mp ends
        obtain ⟨length, serves⟩ := Files.readExact_ends (onFiles_done here).1
        obtain ⟨pieces, others, total, same⟩ := ih _ (by omega) ends
        rw [← length] at others
        refine ⟨chunk :: pieces, serves.append others, ?_, same⟩
        rw [List.flatten_cons, List.length_append]
        omega

/-- The digest of a file is the digest of the bytes that it gave. -/
theorem hashOnly_ends {size : Nat} {algorithm : Algorithm} {digest : Digest}
    (ends : (hashOnly handle size algorithm : BootAct ω μ Digest).Ends before (.done digest)
      after) :
    ∃ contents, Files.Serves handle 0 contents before.files after.files ∧
      contents.length = size ∧ digest = Trust.digestOf algorithm contents := by
  obtain ⟨hasher, middle, here, done, same⟩ := ends_bind_done.mp ends
  cases same
  cases done
  obtain ⟨pieces, serves, length, rfl⟩ := hashFrom_ends here
  exact ⟨pieces.flatten, serves, length, Hasher.finish_foldl_feed algorithm pieces⟩

end

/-! ## Copying to a map -/

section

variable [Hardware ω] [PhysicalMemory μ] {handle : Handle} {map : String}
  {before after : Loader ω μ}

omit [Hardware ω] in
theorem respects_writeToMap {data : Bytes} :
    (onStore (SystemPage.writeToMap map data) : BootAct ω μ Address).Respects Copies := by
  apply respects_of_ends
  intro before outcome after ends
  obtain ⟨_, page, memory, inside, _, rfl⟩ := ends_onStore.mp ends
  rcases SystemPage.writeToMap_ends inside with ⟨rfl, rfl, _⟩ |
    ⟨_, _, _, rfl, _, _, _, _, _, rfl⟩ | ⟨target, _, _, _, _, _, _, _, wrote, rfl⟩
  · exact ⟨rfl, [], rfl⟩
  · exact ⟨rfl, [], rfl⟩
  · refine ⟨rfl, [⟨target.top, data⟩], ?_⟩
    exact writeChunks_cons.mpr ⟨_, wrote, rfl⟩

omit [Hardware ω] in
theorem respects_alignMapTop :
    (onPage (SystemPage.alignMapTop map) : BootAct ω μ Address).Respects Copies := by
  apply respects_of_ends
  intro before outcome after ends
  obtain ⟨_, page, inside, _, rfl⟩ := ends_onPage.mp ends
  rcases SystemPage.alignMapTop_ends inside with ⟨_, rfl⟩ | ⟨_, _, _, _, rfl⟩
  · exact ⟨rfl, [], rfl⟩
  · exact ⟨rfl, [], rfl⟩

section

variable {relation : Loader ω μ → Loader ω μ → Prop} [IsPreorder (Loader ω μ) relation]
  (reads : ∀ offset length,
    (onFiles (Files.readExact handle offset length) : BootAct ω μ Bytes).Respects relation)
  (writes : ∀ data,
    (onStore (SystemPage.writeToMap map data) : BootAct ω μ Address).Respects relation)

include reads writes

/-- What its reads and its writes respect, a copy loop respects. -/
theorem respects_copyFrom_of {offset remaining : Nat} {hasher : Option Hasher} :
    (copyFrom handle map offset remaining hasher : BootAct ω μ (Option Hasher)).Respects
      relation := by
  induction remaining using Nat.strongRecOn generalizing offset hasher with
  | ind remaining ih =>
      rw [copyFrom]
      split
      case isTrue => exact respects_pure
      case isFalse more =>
        have positive : 0 < Capacity.chunk := by decide
        refine (reads offset _).bind fun chunk => (writes chunk).bind ?_
        exact fun _ => ih _ (by omega)

/-- What its reads, its writes and the move to the next page respect, an attempt respects. -/
theorem respects_copyOnce_of {offset size : Nat} {algorithm : Option Algorithm}
    (aligns : (onPage (SystemPage.alignMapTop map) : BootAct ω μ Address).Respects relation) :
    (copyOnce handle offset size map algorithm : BootAct ω μ Placed).Respects relation := by
  refine aligns.bind fun start => respects_read.bind ?_
  intro loader
  refine respects_ofExcept.mapError.bind fun free => respects_require.bind ?_
  intro _
  refine (respects_copyFrom_of reads writes).bind ?_
  exact fun hasher => respects_orCrash.bind fun stop => respects_pure

/-- What one attempt respects, all attempts together respect. -/
theorem respects_copyToMap_of {offset size : Nat} {algorithm : Option Algorithm}
    (aligns : (onPage (SystemPage.alignMapTop map) : BootAct ω μ Address).Respects relation) :
    (copyToMap handle offset size map algorithm : BootAct ω μ Placed).Respects relation := by
  have attempts : ∀ count, (copyWithin handle offset size map algorithm count :
      BootAct ω μ Placed).Respects relation := by
    intro count
    induction count with
    | zero => exact respects_fail
    | succ count ih =>
        refine (respects_copyOnce_of reads writes aligns).attempt.bind ?_
        intro ending
        split
        · exact respects_note.bind fun _ => ih
        · exact respects_conclude
  exact respects_require.bind fun _ => attempts _

end

theorem respects_copyOnce {offset size : Nat} {algorithm : Option Algorithm} :
    (copyOnce handle offset size map algorithm : BootAct ω μ Placed).Respects Copies :=
  respects_copyOnce_of (fun _ _ => respects_copies respects_onFiles)
    (fun _ => respects_writeToMap) respects_alignMapTop

theorem respects_copyToMap {offset size : Nat} {algorithm : Option Algorithm} :
    (copyToMap handle offset size map algorithm : BootAct ω μ Placed).Respects Copies :=
  respects_copyToMap_of (fun _ _ => respects_copies respects_onFiles)
    (fun _ => respects_writeToMap) respects_alignMapTop

/-- What a completed copy loop did: it wrote what the file gave, in chunks that follow each
other from the top of the map on and meet no reservation of the map; and the top of the map
came to lie behind them. -/
structure Appended (handle : Handle) (map : String) (offset remaining : Nat)
    (target : SystemPage.MemoryMap) (before after : Loader ω μ) (chunks : List Chunk)
    (stop : Address) : Prop where
  served : Files.Serves handle offset (Chunk.contents chunks) before.files after.files
  length : (Chunk.contents chunks).length = remaining
  contiguous : Chunk.Contiguous target.top.toNat chunks
  written : writeChunks before.memory chunks = .ok after.memory
  reached : stop.toNat = target.top.toNat + remaining
  free : ∀ place, target.top ≤ place → place < stop →
    ¬ SystemPage.Reservation.Covers target.reserved place
  moved : after.page.map? map = some { target with top := stop }

section

variable {offset remaining : Nat} {target : SystemPage.MemoryMap}

theorem Appended.trans {length : Nat} {first second : List Chunk} {middle : Loader ω μ}
    {between stop : Address}
    (earlier : Appended handle map offset length target before middle first between)
    (later : Appended handle map (offset + length) remaining { target with top := between } middle
      after second stop) :
    Appended handle map offset (length + remaining) target before after (first ++ second) stop where
  served := by
    rw [Chunk.contents_append]
    exact earlier.served.append (earlier.length ▸ later.served)
  length := by
    rw [Chunk.contents_append, List.length_append, earlier.length, later.length]
  contiguous := earlier.contiguous.append (by
    rw [earlier.length, ← earlier.reached]
    exact later.contiguous)
  written := writeChunks_append.mpr ⟨_, earlier.written, later.written⟩
  reached := by rw [later.reached, earlier.reached, Nat.add_assoc]
  free place low high := by
    by_cases early : place < between
    · exact earlier.free place low early
    · exact later.free place (Nat.not_lt.mp early) high
  moved := later.moved

/-- What one pass of a copy loop does. Its chunk is not read, or not written, and the loop ends
with that; or the chunk is appended to what is in the map, and the loop goes on behind it. -/
inductive Pass (handle : Handle) (map : String) (offset remaining : Nat) (hasher : Option Hasher)
    (target : SystemPage.MemoryMap) (before after : Loader ω μ)
    (outcome : Outcome BootError (Option Hasher)) : Prop where
  | unread (ending : Outcome BootError Bytes)
      (ends : (onFiles (Files.readExact handle offset (min remaining Capacity.chunk)) :
        BootAct ω μ Bytes).Ends before ending after)
      (halts : ending.Halts outcome)
  | unwritten (bytes : Bytes) (middle : Loader ω μ) (ending : Outcome BootError Address)
      (length : bytes.length = min remaining Capacity.chunk) (only : OnlyFiles before middle)
      (ends : (onStore (SystemPage.writeToMap map bytes) : BootAct ω μ Address).Ends middle ending
        after)
      (halts : ending.Halts outcome)
  | appended (bytes : Bytes) (left : Loader ω μ) (stop : Address)
      (length : bytes.length = min remaining Capacity.chunk)
      (read : (Files.readExact handle offset bytes.length).Ends before.files (.done bytes)
        left.files)
      (appended : Appended handle map offset bytes.length target before left
        [⟨target.top, bytes⟩] stop)
      (pending : left.page.isSaved = false)
      (ends : (copyFrom handle map (offset + bytes.length) (remaining - bytes.length)
        (hasher.map (·.feed bytes)) : BootAct ω μ (Option Hasher)).Ends left outcome after)

/-- A copy loop that is not through makes a pass. -/
theorem copyFrom_pass {hasher : Option Hasher} {outcome : Outcome BootError (Option Hasher)}
    (more : remaining ≠ 0) (found : before.page.map? map = some target)
    (ends : (copyFrom handle map offset remaining hasher : BootAct ω μ (Option Hasher)).Ends
      before outcome after) :
    Pass handle map offset remaining hasher target before after outcome := by
  rw [copyFrom, dif_neg more] at ends
  rcases ends_bind.mp ends with ⟨bytes, middle, here, ends⟩ | ⟨halt, here, halts⟩
  · obtain ⟨read, only⟩ := onFiles_done here
    obtain ⟨length, serves⟩ := Files.readExact_ends read
    rcases ends_bind.mp ends with ⟨place, left, stored, ends⟩ | ⟨halt, stored, halts⟩
    · obtain ⟨ending, page, memory, inside, done, rfl⟩ := ends_onStore.mp stored
      rw [mapError_eq_done.mp done, only.page, only.memory] at inside
      rcases SystemPage.writeToMap_ends inside with ⟨_, _, refused, _⟩ |
        ⟨_, _, _, _, _, _, _, _, refused, _⟩ |
        ⟨_, stop, _, pending, found', _, reached, clear, wrote, same⟩
      · exact absurd rfl (refused place)
      · cases refused
      · cases found.symm.trans found'
        refine .appended bytes { middle with page, memory } stop length (length ▸ read) ?_ ?_
          (length ▸ ends)
        · refine ⟨?_, ?_, ⟨rfl, trivial⟩, writeChunks_cons.mpr ⟨memory, wrote, rfl⟩,
            Address.advance?_eq_some_iff.mp reached, ?_, ?_⟩
          · rw [Chunk.contents_cons]
            exact serves.append (.nothing _ _)
          · rw [Chunk.contents_cons, List.length_append]
            rfl
          · intro place low high
            exact SystemPage.MemoryMap.not_covers_of_collision?_eq_none clear low high
          · exact same ▸ SystemPage.map?_changeMap found fun _ => rfl
        · rw [same]
          exact pending
    · exact .unwritten bytes middle halt length only stored halts
  · exact .unread halt here halts

/-- The bytes of a completed copy follow each other from where the top of the map was, and
are what the file gave. -/
theorem copyFrom_ends {hasher result : Option Hasher}
    (found : before.page.map? map = some target)
    (ends : (copyFrom handle map offset remaining hasher : BootAct ω μ (Option Hasher)).Ends
      before (.done result) after) :
    ∃ chunks stop, Appended handle map offset remaining target before after chunks stop ∧
      result = hasher.map fun hasher => (chunks.map Chunk.bytes).foldl Hasher.feed hasher := by
  induction remaining using Nat.strongRecOn generalizing offset hasher before target with
  | ind remaining ih =>
      by_cases more : remaining = 0
      · subst more
        rw [copyFrom, dif_pos rfl] at ends
        obtain ⟨done, rfl⟩ := ends
        cases done
        refine ⟨[], target.top, ?_, Option.map_id'.symm⟩
        refine ⟨.nothing offset before.files, rfl, trivial, rfl, rfl, ?_, found⟩
        intro place low high
        exact absurd high (Nat.not_lt.mpr low)
      · have positive : 0 < Capacity.chunk := by decide
        cases copyFrom_pass more found ends with
        | unread _ _ halts | unwritten _ _ _ _ _ _ halts => cases halts
        | appended bytes left stop length read appended pending ends =>
            obtain ⟨chunks, last, others, fed⟩ := ih _ (by omega) appended.moved ends
            have whole : bytes.length + (remaining - bytes.length) = remaining := by omega
            refine ⟨⟨target.top, bytes⟩ :: chunks, last, whole ▸ appended.trans others, ?_⟩
            rw [fed, Option.map_map]
            rfl

end

/-- The bytes of a completed copy lie where it says, and its digest is theirs. -/
structure Landed (handle : Handle) (offset size : Nat) (algorithm : Option Algorithm)
    (before after : Loader ω μ) (placed : Placed) (contents : Bytes) : Prop where
  served : ∃ files, Files.Serves handle offset contents files after.files
  length : contents.length = size
  stop : placed.start.advance? size = some placed.stop
  deposited : Deposited before.memory after.memory placed.start.toNat contents
  digest : placed.digest = algorithm.map fun algorithm => Trust.digestOf algorithm contents

section

variable {offset size : Nat} {algorithm : Option Algorithm} {placed : Placed}

/-- The loader with the top of a map rounded up, as an attempt begins. -/
def aligned (loader : Loader ω μ) (name : String) : Loader ω μ :=
  { loader with page := loader.page.changeMap name SystemPage.MemoryMap.alignTop }

omit [Hardware ω] [PhysicalMemory μ] in
theorem aligned_map? {target : SystemPage.MemoryMap} (found : before.page.map? map = some target) :
    (before.aligned map).page.map? map = some target.alignTop :=
  SystemPage.map?_changeMap found fun _ => rfl

/-- An attempt that finds its map rounds the top up, and then copies or has too little room. -/
theorem copyOnce_begins {target : SystemPage.MemoryMap} {outcome : Outcome BootError Placed}
    (pending : before.page.isSaved = false) (found : before.page.map? map = some target)
    (ends : (copyOnce handle offset size map algorithm : BootAct ω μ Placed).Ends before outcome
      after) :
    (size ≤ target.alignTop.freeSize ∧ (do
      let hasher ← copyFrom handle map offset size (algorithm.map Hasher.start)
      let stop ← Act.orCrash (target.alignTop.top.advance? size)
      return ⟨target.alignTop.top, stop, hasher.map Hasher.finish⟩ : BootAct ω μ Placed).Ends
        (before.aligned map) outcome after) ∨
    (target.alignTop.freeSize < size ∧ outcome = .failed (.page .noSpace)) := by
  have first : (onPage (SystemPage.alignMapTop map) : BootAct ω μ Address).Ends before
      (.done target.alignTop.top) (before.aligned map) :=
    ends_onPage.mpr ⟨_, _, SystemPage.alignMapTop_granted pending found, rfl, rfl⟩
  have moved := aligned_map? found
  have free : (before.aligned map).page.freeSize map = .ok target.alignTop.freeSize := by
    rw [SystemPage.freeSize, SystemPage.findMap_ok_iff.mpr moved]
    rfl
  have known : (Act.mapError .page (Act.ofExcept ((before.aligned map).page.freeSize map)) :
      BootAct ω μ Nat).Ends (before.aligned map) (.done target.alignTop.freeSize)
        (before.aligned map) := by
    rw [free]
    exact ⟨rfl, rfl⟩
  have ends := ends_read_bind.mp ((ends_bind_of_done first).mp ends)
  rcases ends_require_bind.mp ((ends_bind_of_done known).mp ends) with ⟨fits, ends⟩ |
    ⟨large, failed, _⟩
  · exact .inl ⟨by simpa using fits, ends⟩
  · exact .inr ⟨by simpa using large, failed.symm⟩

/-- One attempt that is completed appends the image at the next page. -/
theorem copyOnce_ends
    (ends : (copyOnce handle offset size map algorithm : BootAct ω μ Placed).Ends before
      (.done placed) after) :
    ∃ target chunks, before.page.map? map = some target ∧
      Appended handle map offset size target.alignTop before after chunks placed.stop ∧
      placed.start = target.alignTop.top ∧
      placed.digest = algorithm.map fun algorithm =>
        Trust.digestOf algorithm (Chunk.contents chunks) := by
  obtain ⟨_, _, here, _⟩ := ends_bind_done.mp ends
  obtain ⟨_, _, inside, done, _⟩ := ends_onPage.mp here
  rw [mapError_eq_done.mp done] at inside
  rcases SystemPage.alignMapTop_ends inside with ⟨⟨_, failed⟩, _⟩ | ⟨target, _, pending, found, _⟩
  · cases failed
  · rcases copyOnce_begins pending found ends with ⟨_, ends⟩ | ⟨_, failed⟩
    · obtain ⟨hasher, _, copying, ends⟩ := ends_bind_done.mp ends
      rcases ends_orCrash_bind.mp ends with ⟨stop, reached, done, same⟩ | ⟨_, crashed, _⟩
      · cases done
        cases same
        obtain ⟨chunks, last, appended, fed⟩ := copyFrom_ends (aligned_map? found) copying
        obtain rfl : last = stop := by
          rw [← Address.toNat_inj, appended.reached, Address.advance?_eq_some_iff.mp reached]
        refine ⟨target, chunks, found, { appended with }, rfl, ?_⟩
        rw [fed, Option.map_map, Option.map_map]
        cases algorithm with
        | none => rfl
        | some algorithm =>
            exact congrArg some (Hasher.finish_foldl_feed algorithm (chunks.map Chunk.bytes))
      · cases crashed
    · cases failed

/-- Attempts that were given up one after the other, each of them because a reservation was
in the way. -/
inductive GivenUp (handle : Handle) (offset size : Nat) (map : String)
    (algorithm : Option Algorithm) : Nat → Loader ω μ → Loader ω μ → Prop where
  | none (loader : Loader ω μ) : GivenUp handle offset size map algorithm 0 loader loader
  | attempt {count : Nat} {before middle after : Loader ω μ} {top : Address}
      (tried : (copyOnce handle offset size map algorithm : BootAct ω μ Placed).Ends before
        (.failed (.page (.again top))) middle)
      (others : GivenUp handle offset size map algorithm count middle after) :
      GivenUp handle offset size map algorithm (count + 1) before after

/-- A copy ends like the first attempt that is not given up, or fails when there are no
attempts left. -/
theorem copyWithin_ends {attempts : Nat} {outcome : Outcome BootError Placed}
    (ends : (copyWithin handle offset size map algorithm attempts : BootAct ω μ Placed).Ends
      before outcome after) :
    (∃ count last, GivenUp handle offset size map algorithm count before last ∧
      (copyOnce handle offset size map algorithm : BootAct ω μ Placed).Ends last outcome after ∧
      ∀ top, outcome ≠ .failed (.page (.again top))) ∨
    (GivenUp handle offset size map algorithm attempts before after ∧
      outcome = .failed (.page .noSpace)) := by
  induction attempts generalizing before with
  | zero =>
      obtain ⟨failed, rfl⟩ := ends
      exact .inr ⟨.none before, failed.symm⟩
  | succ attempts ih =>
      obtain ⟨ending, middle, tried, ends⟩ := ends_attempt_bind.mp ends
      split at ends
      case h_1 =>
        rcases ih (ends_note_bind.mp ends) with ⟨count, last, others, ends⟩ | ⟨others, failed⟩
        · exact .inl ⟨count + 1, last, .attempt tried others, ends⟩
        · exact .inr ⟨.attempt tried others, failed⟩
      case h_2 settled =>
        obtain ⟨rfl, rfl⟩ := ends
        exact .inl ⟨0, before, .none before, tried, settled⟩

theorem GivenUp.copies {count : Nat}
    (attempts : GivenUp handle offset size map algorithm count before after) :
    Copies before after := by
  induction attempts with
  | none loader => exact .refl loader
  | attempt tried others ih => exact (respects_copyOnce.ends tried).trans ih

/-- A copy that is completed was completed by its last attempt. -/
theorem copyToMap_attempts
    (ends : (copyToMap handle offset size map algorithm : BootAct ω μ Placed).Ends before
      (.done placed) after) :
    ∃ count last, GivenUp handle offset size map algorithm count before last ∧
      (copyOnce handle offset size map algorithm : BootAct ω μ Placed).Ends last
        (.done placed) after := by
  rcases ends_require_bind.mp ends with ⟨_, ends⟩ | ⟨_, failed, _⟩
  · rcases copyWithin_ends ends with ⟨count, last, attempts, ends, _⟩ | ⟨_, failed⟩
    · exact ⟨count, last, attempts, ends⟩
    · cases failed
  · cases failed

/-- **A copy to a map that is completed, started over or not, left the bytes that it hashed.**
Attempts that were given up do not count: what they wrote came before. -/
theorem copyToMap_ends
    (ends : (copyToMap handle offset size map algorithm : BootAct ω μ Placed).Ends before
      (.done placed) after) :
    ∃ contents, Landed handle offset size algorithm before after placed contents := by
  obtain ⟨count, last, attempts, ends⟩ := copyToMap_attempts ends
  obtain ⟨earlier, wrote⟩ := attempts.copies.written
  obtain ⟨target, chunks, _, appended, start, digest⟩ := copyOnce_ends ends
  refine ⟨Chunk.contents chunks, ⟨_, appended.served⟩, appended.length, ?_, ?_, digest⟩
  · rw [start]
    exact Address.advance?_eq_some_iff.mpr appended.reached
  · rw [start]
    exact ⟨earlier, chunks, appended.contiguous, rfl,
      writeChunks_append.mpr ⟨_, wrote, appended.written⟩⟩

end

end

/-! ## Copying segments -/

section

variable [PhysicalMemory μ] {before after : Loader ω μ}

theorem writeMemory_ends {address : Address} {data : Bytes} {outcome : Outcome BootError Unit}
    (ends : (writeMemory address data : BootAct ω μ Unit).Ends before outcome after) :
    (∃ memory, PhysicalMemory.write before.memory address data = .ok memory ∧
      outcome = .done () ∧ after = { before with memory }) ∨
    (∃ error, outcome = .failed error ∧ after = before) := by
  rw [writeMemory, ends_read_bind] at ends
  split at ends
  case h_1 memory wrote => exact .inl ⟨memory, wrote, ends.1.symm, ends.2.symm⟩
  case h_2 error _ => exact .inr ⟨_, ends.1.symm, ends.2.symm⟩

/-- Reading files and writing chunks, and nothing else. -/
structure Transfers (before after : Loader ω μ) : Prop where
  rest : after = { before with files := after.files, memory := after.memory }
  written : ∃ chunks, writeChunks before.memory chunks = .ok after.memory

theorem Transfers.trans {first second third : Loader ω μ} (earlier : Transfers first second)
    (later : Transfers second third) : Transfers first third where
  rest := by
    have rest := later.rest
    rw [earlier.rest] at rest
    exact rest
  written := by
    obtain ⟨chunks, wrote⟩ := earlier.written
    obtain ⟨others, further⟩ := later.written
    exact ⟨chunks ++ others, writeChunks_append.mpr ⟨_, wrote, further⟩⟩

instance : IsPreorder (Loader ω μ) Transfers where
  refl _ := ⟨rfl, [], rfl⟩
  trans _ _ _ := .trans

theorem OnlyFiles.transfers (only : OnlyFiles before after) : Transfers before after := by
  refine ⟨?_, [], ?_⟩
  · rw [only]
  · rw [only, writeChunks_nil]

theorem respects_transfers {α : Type} {action : BootAct ω μ α} (only : action.Respects OnlyFiles) :
    action.Respects Transfers :=
  only.mono fun _ _ => OnlyFiles.transfers

theorem respects_writeMemory {address : Address} {data : Bytes} :
    (writeMemory address data : BootAct ω μ Unit).Respects Transfers := by
  apply respects_of_ends
  intro before outcome after ends
  rcases writeMemory_ends ends with ⟨memory, wrote, _, rfl⟩ | ⟨_, _, rfl⟩
  · exact ⟨rfl, [⟨address, data⟩], writeChunks_cons.mpr ⟨memory, wrote, rfl⟩⟩
  · exact refl_of Transfers _

variable [Hardware ω] {handle : Handle}

section

variable {relation : Loader ω μ → Loader ω μ → Prop} [IsPreorder (Loader ω μ) relation]
  (reads : ∀ offset length,
    (onFiles (Files.readExact handle offset length) : BootAct ω μ Bytes).Respects relation)
  (writes : ∀ address data, (writeMemory address data : BootAct ω μ Unit).Respects relation)

include reads writes

theorem respects_copySegmentFrom_of {destination : Address} {offset done remaining : Nat}
    {hasher : Option Hasher} :
    (copySegmentFrom handle destination offset done remaining hasher :
      BootAct ω μ (Option Hasher)).Respects relation := by
  induction remaining using Nat.strongRecOn generalizing done hasher with
  | ind remaining ih =>
      rw [copySegmentFrom]
      split
      case isTrue => exact respects_pure
      case isFalse more =>
        have positive : 0 < Capacity.chunk := by decide
        exact (reads _ _).bind fun chunk => respects_orCrash.bind fun address =>
          (writes address chunk).bind fun _ => ih _ (by omega)

/-- What its reads and its writes respect, a copy of segments respects. -/
theorem respects_copySegments_of {hasher : Option Hasher} (segments : List Image.ProgramHeader) :
    (copySegments handle hasher segments : BootAct ω μ (Option Hasher)).Respects relation := by
  induction segments generalizing hasher with
  | nil => exact respects_pure
  | cons segment rest ih =>
      refine Respects.bind ?_ fun hasher => ih
      refine respects_read.bind fun loader => (respects_copySegmentFrom_of reads writes).bind ?_
      intro hasher
      exact respects_note.bind fun _ => respects_pure

end

theorem respects_copySegmentFrom {destination : Address} {offset done remaining : Nat}
    {hasher : Option Hasher} :
    (copySegmentFrom handle destination offset done remaining hasher :
      BootAct ω μ (Option Hasher)).Respects Transfers :=
  respects_copySegmentFrom_of (fun _ _ => respects_transfers respects_onFiles)
    fun _ _ => respects_writeMemory

theorem copySegmentFrom_ends {destination : Address} {offset done remaining : Nat}
    {hasher result : Option Hasher}
    (ends : (copySegmentFrom handle destination offset done remaining hasher :
      BootAct ω μ (Option Hasher)).Ends before (.done result) after) :
    ∃ chunks, Files.Serves handle (offset + done) (Chunk.contents chunks) before.files after.files ∧
      (Chunk.contents chunks).length = remaining ∧
      Chunk.Contiguous (destination.toNat + done) chunks ∧
      writeChunks before.memory chunks = .ok after.memory ∧
      result = hasher.map fun hasher => (chunks.map Chunk.bytes).foldl Hasher.feed hasher := by
  induction remaining using Nat.strongRecOn generalizing done hasher before with
  | ind remaining ih =>
      rw [copySegmentFrom] at ends
      split at ends
      case isTrue empty =>
        obtain ⟨done, same⟩ := ends
        cases done
        cases same
        exact ⟨[], .nothing _ before.files, empty.symm, trivial, rfl, Option.map_id'.symm⟩
      case isFalse more =>
        have positive : 0 < Capacity.chunk := by decide
        obtain ⟨bytes, middle, here, ends⟩ := ends_bind_done.mp ends
        obtain ⟨read, only⟩ := onFiles_done here
        obtain ⟨length, serves⟩ := Files.readExact_ends read
        rcases ends_orCrash_bind.mp ends with ⟨address, reached, ends⟩ | ⟨_, crashed, _⟩
        · obtain ⟨_, left, stored, ends⟩ := ends_bind_done.mp ends
          rcases writeMemory_ends stored with ⟨memory, wrote, _, rfl⟩ | ⟨_, failed, _⟩
          · obtain ⟨chunks, others, total, contiguous, written, fed⟩ := ih _ (by omega) ends
            rw [only.memory] at wrote
            rw [← length] at others contiguous
            rw [← Nat.add_assoc] at others contiguous
            refine ⟨⟨address, bytes⟩ :: chunks, ?_, ?_, ⟨?_, contiguous⟩,
              writeChunks_cons.mpr ⟨memory, wrote, written⟩, ?_⟩
            · rw [Chunk.contents_cons]
              exact serves.append others
            · rw [Chunk.contents_cons, List.length_append]
              show bytes.length + _ = _
              omega
            · exact Address.advance?_eq_some_iff.mp reached
            · rw [fed, Option.map_map]
              rfl
          · cases failed
        · cases crashed

/-- Segments that were copied in order, and the chunks of each: as many bytes as the segment
has in the file, as the file gave them, one after the other from its place on. -/
inductive SegmentsCopied (handle : Handle) (place : Image.ProgramHeader → Address) :
    List Image.ProgramHeader → List (List Chunk) → Files ω → Files ω → Prop where
  | done (files : Files ω) : SegmentsCopied handle place [] [] files files
  | segment {segment : Image.ProgramHeader} {rest : List Image.ProgramHeader}
      {chunks : List Chunk} {others : List (List Chunk)} {before middle after : Files ω}
      (served : Files.Serves handle segment.offset.toNat (Chunk.contents chunks) before middle)
      (length : (Chunk.contents chunks).length = segment.fileSize.toNat)
      (contiguous : Chunk.Contiguous (place segment).toNat chunks)
      (later : SegmentsCopied handle place rest others middle after) :
      SegmentsCopied handle place (segment :: rest) (chunks :: others) before after

/-- **Segments that were copied were hashed as they were written**, byte by byte and in order. -/
theorem copySegments_ends {segments : List Image.ProgramHeader} {hasher result : Option Hasher}
    (ends : (copySegments handle hasher segments : BootAct ω μ (Option Hasher)).Ends before
      (.done result) after) :
    ∃ chunks : List (List Chunk),
      SegmentsCopied handle before.board.kernelAddress segments chunks before.files after.files ∧
      writeChunks before.memory chunks.flatten = .ok after.memory ∧
      result = hasher.map fun hasher =>
        (chunks.flatten.map Chunk.bytes).foldl Hasher.feed hasher := by
  induction segments generalizing hasher before with
  | nil =>
      obtain ⟨done, same⟩ := ends
      cases done
      cases same
      exact ⟨[], .done before.files, rfl, Option.map_id'.symm⟩
  | cons segment rest ih =>
      obtain ⟨fed, middle, copying, ends⟩ := ends_bind_done.mp ends
      obtain ⟨_, left, here, reported⟩ := ends_bind_done.mp (ends_read_bind.mp copying)
      have same : left = middle := (ends_note_bind.mp reported).2
      cases (ends_note_bind.mp reported).1
      subst same
      obtain ⟨chunks, serves, length, contiguous, wrote, first⟩ := copySegmentFrom_ends here
      have transfers := respects_copySegmentFrom.ends here
      obtain ⟨others, later, written, second⟩ := ih ends
      have board : left.board = before.board := by rw [transfers.rest]
      rw [board] at later
      refine ⟨chunks :: others, .segment serves length contiguous later, ?_, ?_⟩
      · exact writeChunks_append.mpr ⟨_, wrote, written⟩
      · rw [second, first, Option.map_map, List.flatten_cons, List.map_append]
        congr 1
        funext hasher
        exact (List.foldl_append).symm

end

end Bootloader.Loader
