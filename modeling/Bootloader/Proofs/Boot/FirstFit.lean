import Bootloader.Proofs.Boot.Placing
import Bootloader.Proofs.SystemPage.Capacities
import Bootloader.Proofs.SystemPage.Fitting

/-!
# The first place that fits

An attempt to copy an image is given up only because of a reservation that ends above the top
of the map, and leaves the top behind it (`copyOnce_again`). So no attempt carries the top
past a place where the image would fit, and there are no more of them than reservations in
the map, which is less than the attempts that are made (`GivenUp.passes`). An attempt that is
not given up is completed, or finds too little room, or met a device or a memory that does not
work (`copyOnce_settles`). Together: a copy finds the lowest place where the image fits, and
fails for lack of room only if there is none (`copyToMap_firstFit`).
-/

set_option autoImplicit false

namespace Bootloader.Loader

open Act
open SystemPage (MemoryMap Fits)
open Trust (Algorithm Digest Hasher)

variable {ω μ : Type} [Hardware ω] [PhysicalMemory μ] {handle : Handle} {name : String}
  {before after : Loader ω μ} {target : MemoryMap} {offset size : Nat}
  {algorithm : Option Algorithm}

/-! ## Attempts that are given up -/

omit [Hardware ω] in
/-- A chunk is put off only because of a reservation between the top of the map and the end of
the chunk, and then the top is left behind it. -/
theorem writeToMap_again {data : Bytes} {top : Address}
    (found : before.page.map? name = some target)
    (ends : (onStore (SystemPage.writeToMap name data) : BootAct ω μ Address).Ends before
      (.failed (.page (.again top))) after) :
    ∃ entry ∈ target.reserved, target.top < entry.stop ∧
      entry.start.toNat < target.top.toNat + data.length ∧
      after.page.map? name = some (target.passReservation entry) := by
  obtain ⟨ending, page, memory, inside, renamed, rfl⟩ := ends_onStore.mp ends
  rcases SystemPage.writeToMap_ends inside with ⟨_, _, _, refused⟩ |
    ⟨_, stop, entry, _, _, found', reached, hit, _, same⟩ | ⟨_, _, done, _⟩
  · cases ending with
    | failed error =>
        cases renamed
        exact absurd rfl (refused top)
    | done | crashed | stalled => cases renamed
  · cases found.symm.trans found'
    have meets : entry.intersects target.top stop := by simpa using List.find?_some hit
    obtain ⟨begins, ends⟩ := SystemPage.Reservation.intersects_iff.mp meets
    have raised := Address.advance?_eq_some_iff.mp reached
    refine ⟨entry, List.mem_of_find?_eq_some hit, ends, ?_, ?_⟩
    · rw [Address.lt_def] at begins
      omega
    · exact same ▸ SystemPage.map?_changeMap found fun _ => rfl
  · rw [done] at renamed
    cases renamed

/-- A copy loop starts over only because of a reservation between the top of the map and the
end of what is still to be copied, and leaves the top behind it. -/
theorem copyFrom_again {remaining : Nat} {hasher : Option Hasher} {top : Address}
    (found : before.page.map? name = some target)
    (ends : (copyFrom handle name offset remaining hasher : BootAct ω μ (Option Hasher)).Ends
      before (.failed (.page (.again top))) after) :
    ∃ entry ∈ target.reserved, target.top < entry.stop ∧
      entry.start.toNat < target.top.toNat + remaining ∧
      after.page.map? name = some (target.passReservation entry) := by
  induction remaining using Nat.strongRecOn generalizing offset hasher before target with
  | ind remaining ih =>
      by_cases more : remaining = 0
      · subst more
        rw [copyFrom, dif_pos rfl] at ends
        cases ends.1
      · have positive : 0 < Capacity.chunk := by decide
        cases copyFrom_pass more found ends with
        | unread ending ends halts =>
            cases halts
            obtain ⟨ending, _, _, renamed, _⟩ := ends_onFiles.mp ends
            cases ending <;> cases renamed
        | unwritten bytes middle ending length only stored halts =>
            cases halts
            rw [← only.page] at found
            obtain ⟨entry, listed, behind, begins, moved⟩ := writeToMap_again found stored
            exact ⟨entry, listed, behind, by omega, moved⟩
        | appended bytes left stop length read appended pending ends =>
            obtain ⟨entry, listed, below, begins, moved⟩ := ih _ (by omega) appended.moved ends
            have raised := appended.reached
            refine ⟨entry, listed, ?_, ?_, moved⟩
            all_goals
              simp only [Address.lt_def] at *
              omega

/-- An attempt is given up only because of a reservation in the way of the image, and leaves
the top behind it. -/
theorem copyOnce_again {top : Address} (pending : before.page.isSaved = false)
    (found : before.page.map? name = some target)
    (ends : (copyOnce handle offset size name algorithm : BootAct ω μ Placed).Ends before
      (.failed (.page (.again top))) after) :
    ∃ entry ∈ target.reserved, target.alignTop.top < entry.stop ∧
      entry.start.toNat < target.alignTop.top.toNat + size ∧
      after.page.map? name = some (target.alignTop.passReservation entry) := by
  have moved := aligned_map? found
  rcases copyOnce_begins pending found ends with ⟨_, ends⟩ | ⟨_, failed⟩
  · rcases ends_bind.mp ends with ⟨hasher, middle, _, ends⟩ | ⟨halt, copying, halts⟩
    · rcases ends_orCrash_bind.mp ends with ⟨_, _, failed, _⟩ | ⟨_, failed, _⟩ <;> cases failed
    · cases halts
      exact copyFrom_again moved copying
  · cases failed

/-- Attempts that are given up leave fewer reservations ahead each time, and do not carry the
top past a place where the image would fit. -/
theorem GivenUp.passes {count : Nat} (consistent : before.page.Consistent)
    (pending : before.page.isSaved = false) (found : before.page.map? name = some target)
    (nonempty : size ≠ 0)
    (attempts : GivenUp handle offset size name algorithm count before after) :
    ∃ later, Fills name target later before after ∧ count + later.ahead ≤ target.ahead ∧
      ∀ place, Fits target.reserved target size place → Fits later.reserved later size place := by
  induction attempts generalizing target with
  | none loader =>
      obtain ⟨later, fills⟩ := refl_of (Filling name) loader target consistent found
      cases found.symm.trans fills.found
      exact ⟨target, fills, Nat.le_of_eq (Nat.zero_add _), fun _ => id⟩
  | attempt tried others ih =>
      obtain ⟨next, fills⟩ := copyOnce_filling.ends tried target consistent found
      obtain ⟨entry, listed, behind, begins, moved⟩ := copyOnce_again pending found tried
      obtain rfl := Option.some.inj (fills.found.symm.trans moved)
      have copies := respects_copyOnce.ends tried
      obtain ⟨later, filled, fewer, kept⟩ :=
        ih fills.consistent (by rw [copies.rest]; exact pending) fills.found
      have reflected := consistent.reflected target (SystemPage.map?_mem found).1
      have raised := consistent.le_alignTop found
      have beyond : entry.stop ≤ (target.alignTop.passReservation entry).top := by
        refine Nat.le_trans ?_ (SystemPage.Reservation.le_skip _ _)
        rw [Address.toNat_min]
        exact Nat.le_min.mpr ⟨Nat.le_refl _, (reflected.inside entry listed).2⟩
      have less := SystemPage.MemoryMap.ahead_lt fills.reserved fills.continues.top listed
        (Nat.lt_of_le_of_lt raised behind) beyond
      refine ⟨later, fills.trans filled, by omega, ?_⟩
      intro place fits
      exact kept place ((fits.alignTop nonempty).passReservation nonempty listed
        (reflected.filled entry listed) begins)

/-! ## Attempts that are not given up -/

/-- From here on the reads of a range of the file bring bytes, and the writes between the top
of a map and its end succeed. -/
structure Works (handle : Handle) (offset size : Nat) (target : MemoryMap)
    (loader : Loader ω μ) : Prop where
  reads : Files.Readable handle offset (offset + size) loader.files
  writes : Writable target.top.toNat target.stop.toNat loader.memory

omit [Hardware ω] in
/-- Where a chunk has room and is not written, a reservation is in the way, or the memory does
not work. -/
theorem writeToMap_refused {α : Type} {data : Bytes} {ending : Outcome BootError Address}
    {outcome : Outcome BootError α} (pending : before.page.isSaved = false)
    (found : before.page.map? name = some target)
    (room : target.top.toNat + data.length ≤ target.stop.toNat)
    (ends : (onStore (SystemPage.writeToMap name data) : BootAct ω μ Address).Ends before ending
      after) (halts : ending.Halts outcome) :
    (∃ top, outcome = .failed (.page (.again top))) ∨
    (outcome ≠ .failed (.page .noSpace) ∧
      ¬ Writable target.top.toNat target.stop.toNat before.memory) := by
  have fits : data.length ≤ target.freeSize := Nat.le_sub_of_add_le' room
  obtain ⟨stop, reached⟩ : ∃ stop, target.top.advance? data.length = some stop :=
    ⟨_, if_pos (Nat.lt_of_le_of_lt room target.stop.toNat_lt)⟩
  obtain ⟨_, page, memory, inside, renamed, rfl⟩ := ends_onStore.mp ends
  rcases SystemPage.writeToMap_settles pending found fits reached inside with ⟨_, rfl⟩ |
    ⟨top, rfl⟩ | ⟨error, rfl, refused⟩
  · cases renamed
    cases halts
  · cases renamed
    cases halts
    exact .inl ⟨top, rfl⟩
  · cases renamed
    cases halts
    refine .inr ⟨nofun, fun works => ?_⟩
    obtain ⟨written, wrote⟩ := works.write (Nat.le_refl _) room
    cases wrote.symm.trans refused

/-- Where a copy loop has room, it is completed or runs into a reservation, unless a read or a
write fails. -/
theorem copyFrom_settles {remaining : Nat} {hasher : Option Hasher}
    {outcome : Outcome BootError (Option Hasher)} (pending : before.page.isSaved = false)
    (found : before.page.map? name = some target) (room : remaining ≤ target.freeSize)
    (ends : (copyFrom handle name offset remaining hasher : BootAct ω μ (Option Hasher)).Ends
      before outcome after) :
    (∃ result, outcome = .done result) ∨ (∃ top, outcome = .failed (.page (.again top))) ∨
    (outcome ≠ .failed (.page .noSpace) ∧ ¬ Works handle offset remaining target before) := by
  induction remaining using Nat.strongRecOn generalizing offset hasher before target with
  | ind remaining ih =>
      by_cases more : remaining = 0
      · subst more
        rw [copyFrom, dif_pos rfl] at ends
        exact .inl ⟨_, ends.1.symm⟩
      · have positive : 0 < Capacity.chunk := by decide
        rw [MemoryMap.freeSize] at room
        cases copyFrom_pass more found ends with
        | unread ending ends halts =>
            obtain ⟨ending, files, read, renamed, rfl⟩ := ends_onFiles.mp ends
            refine .inr (.inr ⟨?_, fun works => ?_⟩)
            · intro full
              cases ending <;> cases renamed <;> cases halts <;> cases full
            · obtain ⟨bytes, left, whole⟩ := Files.Readable.readExact works.reads (Nat.le_refl _)
                (by omega : offset + min remaining Capacity.chunk ≤ offset + remaining)
              cases (read.unique whole).1
              cases renamed
              cases halts
        | unwritten bytes middle ending length only stored halts =>
            rw [← only.page] at found pending
            rcases writeToMap_refused pending found (by omega) stored halts with again |
              ⟨other, broken⟩
            · exact .inr (.inl again)
            · rw [only.memory] at broken
              exact .inr (.inr ⟨other, fun works => broken works.writes⟩)
        | appended bytes left stop length read appended pending ends =>
            have raised := appended.reached
            have above : target.top.toNat ≤ stop.toNat := by omega
            rcases ih _ (by omega) pending appended.moved
              (by rw [MemoryMap.freeSize]; dsimp only; omega) ends with done | again |
              ⟨other, broken⟩
            · exact .inl done
            · exact .inr (.inl again)
            · refine .inr (.inr ⟨other, fun works => broken ⟨?_, ?_⟩⟩)
              · exact Files.Readable.mono (Files.Always.readExact works.reads read)
                  (Nat.le_add_right _ _) (by omega)
              · exact (works.writes.after_writeChunks appended.written).mono above (Nat.le_refl _)

/-- An attempt is completed, given up, or left with too little room, unless a read or a write
fails. -/
theorem copyOnce_settles {outcome : Outcome BootError Placed}
    (consistent : before.page.Consistent) (pending : before.page.isSaved = false)
    (found : before.page.map? name = some target)
    (ends : (copyOnce handle offset size name algorithm : BootAct ω μ Placed).Ends before outcome
      after) :
    (∃ placed, outcome = .done placed) ∨ (∃ top, outcome = .failed (.page (.again top))) ∨
    (outcome = .failed (.page .noSpace) ∧ target.alignTop.freeSize < size) ∨
    (outcome ≠ .failed (.page .noSpace) ∧ ¬ Works handle offset size target before) := by
  have moved := aligned_map? found
  have unsaved : (before.aligned name).page.isSaved = false := pending
  rcases copyOnce_begins pending found ends with ⟨room, ends⟩ | ⟨large, failed⟩
  · rcases ends_bind.mp ends with ⟨hasher, middle, _, ends⟩ | ⟨halt, copying, halts⟩
    · rcases ends_orCrash_bind.mp ends with ⟨stop, _, done, _⟩ | ⟨outside, _, _⟩
      · exact .inl ⟨_, done.symm⟩
      · have high := target.stop.toNat_lt
        have low := target.alignTop.top.toNat_lt
        have bound : target.alignTop.freeSize = target.stop.toNat - target.alignTop.top.toNat := rfl
        rw [Address.advance?, Address.ofNat?, if_pos (by omega)] at outside
        cases outside
    · rcases copyFrom_settles unsaved moved room copying with ⟨_, rfl⟩ | ⟨top, rfl⟩ |
        ⟨other, broken⟩
      · cases halts
      · cases halts
        exact .inr (.inl ⟨top, rfl⟩)
      · refine .inr (.inr (.inr ⟨?_, fun works => broken ⟨works.reads, ?_⟩⟩))
        · rintro rfl
          cases halts
          exact other rfl
        · exact works.writes.mono (consistent.le_alignTop found) (Nat.le_refl _)
  · exact .inr (.inr (.inl ⟨failed, large⟩))

/-! ## Copies -/

/-- Working devices and memories keep working while attempts are given up. -/
theorem GivenUp.works {count : Nat} {map : MemoryMap}
    (attempts : GivenUp handle offset size name algorithm count before after)
    (fills : Fills name map target before after) (works : Works handle offset size map before) :
    Works handle offset size target after := by
  obtain ⟨chunks, wrote⟩ := attempts.copies.written
  refine ⟨attempts.keepsReads _ works.reads, ?_⟩
  exact (works.writes.after_writeChunks wrote).mono fills.continues.top
    (Nat.le_of_eq (congrArg Address.toNat fills.continues.stop))

section

variable {map : MemoryMap} (consistent : before.page.Consistent)
  (pending : before.page.isSaved = false) (found : before.page.map? name = some map)
  (nonempty : size ≠ 0)

include consistent pending found nonempty

/-- There are more attempts than reservations in a map, so not all of them are given up. -/
theorem GivenUp.not_all (bounded : before.page.Bounded) :
    ¬ GivenUp handle offset size name algorithm (Capacity.reservations + 1) before after := by
  intro attempts
  obtain ⟨_, _, fewer, _⟩ := attempts.passes consistent pending found nonempty
  have ahead := map.ahead_le
  have kept := bounded.reserved map (SystemPage.map?_mem found).1
  have recorded := bounded.reservations
  omega

/-- A completed copy lies no higher than any place where the image fits. -/
theorem copyToMap_lowest {placed : Placed}
    (ends : (copyToMap handle offset size name algorithm : BootAct ω μ Placed).Ends before
      (.done placed) after) {place : Address}
    (fits : Fits before.page.reservations map size place) : placed.start ≤ place := by
  obtain ⟨count, last, attempts, final⟩ := copyToMap_attempts ends
  obtain ⟨later, fills, _, kept⟩ := attempts.passes consistent pending found nonempty
  obtain ⟨target, _, there, _, start, _⟩ := copyOnce_ends final
  cases fills.found.symm.trans there
  rw [start]
  exact ((kept place (fits.reserved consistent found)).alignTop nonempty).above

/-- A copy ends like an attempt that is not given up. It lacks room only if the image fits
nowhere. -/
theorem copyToMap_settles (bounded : before.page.Bounded) {outcome : Outcome BootError Placed}
    (ends : (copyToMap handle offset size name algorithm : BootAct ω μ Placed).Ends before outcome
      after) :
    (∃ placed, outcome = .done placed) ∨
    (outcome = .failed (.page .noSpace) ∧
      ∀ place, ¬ Fits before.page.reservations map size place) ∨
    (outcome ≠ .failed (.page .noSpace) ∧ ¬ Works handle offset size map before) := by
  rcases ends_require_bind.mp ends with ⟨_, ends⟩ | ⟨empty, _⟩
  · rcases copyWithin_ends ends with ⟨count, last, attempts, final, settled⟩ | ⟨attempts, _⟩
    · obtain ⟨later, fills, _, kept⟩ := attempts.passes consistent pending found nonempty
      have unsaved : last.page.isSaved = false := by
        rw [attempts.copies.rest]
        exact pending
      rcases copyOnce_settles fills.consistent unsaved fills.found final with done |
        ⟨top, again⟩ | ⟨failed, large⟩ | ⟨other, broken⟩
      · exact .inl done
      · exact absurd again (settled top)
      · refine .inr (.inl ⟨failed, fun place fits => ?_⟩)
        have still := (kept place (fits.reserved consistent found)).alignTop nonempty
        have above := still.above
        have inside := still.inside
        rw [MemoryMap.freeSize] at large
        rw [Address.le_def] at above
        omega
      · exact .inr (.inr ⟨other, fun works => broken (attempts.works fills works)⟩)
    · exact absurd attempts (GivenUp.not_all consistent pending found nonempty bounded)
  · exact absurd nonempty (by simpa using empty)

end

/-- What a copy to a map is good for: its attempts suffice, it takes no place above one where
the image fits, it lacks room only where the image fits nowhere, and it is completed if the
image fits somewhere and devices and memory work. -/
structure FindsFirst (handle : Handle) (offset size : Nat) (name : String)
    (algorithm : Option Algorithm) (map : MemoryMap) (before : Loader ω μ) : Prop where
  budget : ∀ after,
    ¬ GivenUp handle offset size name algorithm (Capacity.reservations + 1) before after
  lowest : ∀ placed after, (copyToMap handle offset size name algorithm :
      BootAct ω μ Placed).Ends before (.done placed) after →
    ∀ place, Fits before.page.reservations map size place → placed.start ≤ place
  lacking : ∀ after, (copyToMap handle offset size name algorithm :
      BootAct ω μ Placed).Ends before (.failed (.page .noSpace)) after →
    ∀ place, ¬ Fits before.page.reservations map size place
  succeeds : Works handle offset size map before →
    (∃ place, Fits before.page.reservations map size place) →
    ∃ placed after, (copyToMap handle offset size name algorithm :
        BootAct ω μ Placed).Ends before (.done placed) after ∧
      ∀ place, Fits before.page.reservations map size place → placed.start ≤ place

/-- **A copy to a map finds the first place that fits, and its attempts always suffice**,
whatever the page was asked for before. -/
theorem copyToMap_firstFit {requests : List SystemPage.Request} {fresh : μ} {map : MemoryMap}
    (reached : before.page = (SystemPage.afterAll requests (SystemPage.empty, fresh)).1)
    (pending : before.page.isSaved = false) (found : before.page.map? name = some map)
    (nonempty : size ≠ 0) : FindsFirst handle offset size name algorithm map before := by
  have consistent : before.page.Consistent := by
    rw [reached]
    exact SystemPage.consistent_afterAll fresh requests
  have bounded : before.page.Bounded := by
    rw [reached]
    exact SystemPage.bounded_afterAll fresh requests
  refine ⟨fun _ => GivenUp.not_all consistent pending found nonempty bounded, ?lowest, ?lacking,
    ?succeeds⟩
  case lowest =>
    intro placed after ends place fits
    exact copyToMap_lowest consistent pending found nonempty ends fits
  case lacking =>
    intro after ends
    rcases copyToMap_settles consistent pending found nonempty bounded ends with ⟨_, done⟩ |
      ⟨_, none⟩ | ⟨other, _⟩
    · cases done
    · exact none
    · exact absurd rfl other
  case succeeds =>
    rintro works ⟨place, fits⟩
    have ends := ends_run (copyToMap handle offset size name algorithm : BootAct ω μ Placed) before
    rcases copyToMap_settles consistent pending found nonempty bounded ends with ⟨placed, done⟩ |
      ⟨_, none⟩ | ⟨_, broken⟩
    · rw [done] at ends
      refine ⟨placed, _, ends, fun place fits => ?_⟩
      exact copyToMap_lowest consistent pending found nonempty ends fits
    · exact absurd fits (none place)
    · exact absurd works broken

/-- A loader with an open file in storage, and with a map whose first page has a reservation
in it. -/
def obstructed : Loader Bench.World IdentityMemory :=
  let region : RamRegion := ⟨⟨0x100000⟩, default, List.replicate 0x900 7⟩
  let devices : Devices Bench.World := ⟨[⟨.ram, [true]⟩], ⟨[(.ram, .ram ⟨[region], 0⟩)], []⟩⟩
  let fresh := ofParts Board.standard devices IdentityMemory.zeros 0
  { fresh with
    files := { fresh.files with slots := [⟨0, some ⟨⟨"disk", ⟨.ram, 0⟩, .raw⟩, .raw none⟩⟩] }
    page := (SystemPage.afterAll
      [.addMap "ram" ⟨0x1000⟩ ⟨0x5000⟩ default, .reserve ⟨0x1801⟩ 0x10]
      (SystemPage.empty, IdentityMemory.zeros)).1 }

/-- The map of the loader, with the reservation. -/
def obstructedMap : MemoryMap :=
  ⟨"ram", 0, ⟨0x1000⟩, ⟨0x5000⟩, default, ⟨0x1000⟩, [⟨⟨0x1801⟩, ⟨0x1811⟩⟩]⟩

/-- Storage in memory brings some of what it holds at every read. -/
theorem obstructed_reads :
    Files.Readable ⟨0, 0⟩ 0 0x900 obstructed.files := by
  refine ⟨fun files => files = obstructed.files, rfl, ?_⟩
  rintro _ after offset length outcome rfl ends
  cases length with
  | zero =>
      obtain ⟨_, rfl⟩ := ends
      exact ⟨rfl, fun _ _ nothing => absurd rfl nothing⟩
  | succ length =>
      obtain ⟨done, rfl⟩ := ends
      refine ⟨rfl, fun _ below _ => ⟨_, done.symm, ?_⟩⟩
      have length_eq : (((List.replicate 0x900 (7 : UInt8)).drop offset).take
          (length + 1)).length = min (length + 1) (0x900 - offset) := by
        rw [List.length_take, List.length_drop, List.length_replicate]
      refine List.length_pos_iff.mp ?_
      show 0 < ((((List.replicate 0x900 (7 : UInt8)).drop offset).take (length + 1)).take
        (length + 1)).length
      rw [List.length_take, length_eq]
      omega

/-- The second chunk runs into the reservation; the image ends up in the next page, which is
the first place where it fits. -/
theorem copyToMap_firstFit_obstructed :
    obstructed.page.map? "ram" = some obstructedMap ∧ Works ⟨0, 0⟩ 0 0x900 obstructedMap obstructed ∧
      FindsFirst ⟨0, 0⟩ 0 0x900 "ram" none obstructedMap obstructed ∧
      ∃ placed after, (copyToMap ⟨0, 0⟩ 0 0x900 "ram" none).Ends obstructed (.done placed) after ∧
        placed.start = ⟨0x2000⟩ := by
  have found : obstructed.page.map? "ram" = some obstructedMap := by decide +kernel
  have pending : obstructed.page.isSaved = false := by decide +kernel
  have reservations : obstructed.page.reservations = [⟨⟨0x1801⟩, ⟨0x1811⟩⟩] := by
    decide +kernel
  have first : FindsFirst ⟨0, 0⟩ 0 0x900 "ram" none obstructedMap obstructed :=
    copyToMap_firstFit rfl pending found (by decide)
  have works : Works ⟨0, 0⟩ 0 0x900 obstructedMap obstructed :=
    ⟨obstructed_reads, IdentityMemory.writable _ (by decide)⟩
  have fits : Fits obstructed.page.reservations obstructedMap 0x900 ⟨0x2000⟩ := by
    rw [reservations]
    refine ⟨by decide, by decide, by decide, ?_⟩
    rintro address low _ ⟨entry, listed, covered⟩
    rw [List.mem_singleton.mp listed, SystemPage.Reservation.contains_iff] at covered
    have low : 0x2000 ≤ address.toNat := low
    have high : address.toNat < 0x1811 := covered.2
    omega
  obtain ⟨placed, after, ends, _⟩ := first.succeeds works ⟨_, fits⟩
  have start : ((copyToMap ⟨0, 0⟩ 0 0x900 "ram" none).run obstructed).outcome.map Placed.start =
      .done ⟨0x2000⟩ := by decide +kernel
  rw [ends.1] at start
  exact ⟨found, works, first, placed, after, ends, Outcome.done.inj start⟩

end Bootloader.Loader
