import Bootloader.Bench.World
import Bootloader.Memory.Identity
import Bootloader.Proofs.Boot.Copying
import Bootloader.Proofs.Files.Harmless
import Bootloader.Proofs.SystemPage.Cursor

/-!
# The tops of maps in requests and copies

A copy of an image to a map moves the top of the map by requests: once to the next page, and
then behind every chunk that it writes. It measures the free bytes first, and adds the length of
the image to where it started. On a page that was built by requests neither of it can go wrong,
nor can any of the writes (`copyOnce_returns`), whatever the files give and wherever the map
lies. With what holds of all tops at all times, this is the account of the cursors
(`tops_in_place`).
-/

set_option autoImplicit false

namespace Bootloader.Loader

open Act SystemPage

variable {ω μ : Type}

/-- What is harmless for the files does not concern the page. -/
theorem onFiles_safe {α : Type} {request : FileAct ω α} (harmless : request.Harmless)
    {invariant : SystemPage → Prop} :
    (onFiles request : BootAct ω μ α).Safe fun loader => invariant loader.page := by
  refine Safe.mapError (Safe.zoom harmless (fun _ _ => trivial) ?_)
  exact fun _ _ holds _ => holds

variable [Hardware ω] [PhysicalMemory μ] {handle : Handle} {map : String} {offset : Nat}

theorem copyFrom_safe {remaining : Nat} {hasher : Option Trust.Hasher} :
    (copyFrom handle map offset remaining hasher : BootAct ω μ (Option Trust.Hasher)).Safe
      fun loader => loader.page.Consistent := by
  induction remaining using Nat.strongRecOn generalizing offset hasher with
  | ind remaining ih =>
      rw [copyFrom]
      split
      case isTrue => exact safe_pure
      case isFalse more =>
        have positive : 0 < Capacity.chunk := by decide
        refine (onFiles_safe Files.readExact_harmless).bind fun chunk => Safe.bind ?_ fun _ =>
          ih _ (by omega)
        refine Safe.mapError (Safe.zoom writeToMap_safe (fun _ holds => holds) ?_)
        exact fun _ _ _ kept => kept

/-- **An attempt to copy an image does not crash** where the maps are consistent. -/
theorem copyOnce_returns {size : Nat} {algorithm : Option Trust.Algorithm}
    {before after : Loader ω μ} {outcome : Outcome BootError Placed}
    (consistent : before.page.Consistent)
    (ends : (copyOnce handle offset size map algorithm : BootAct ω μ Placed).Ends before outcome
      after) : outcome ≠ .crashed := by
  rcases ends_bind.mp ends with ⟨start, _, here, _⟩ | ⟨halt, here, halts⟩
  · obtain ⟨ending, _, aligning, renamed, _⟩ := ends_onPage.mp here
    rw [mapError_eq_done.mp renamed] at aligning
    rcases alignMapTop_ends aligning with ⟨⟨_, failed⟩, _⟩ | ⟨target, _, pending, found, _⟩
    · cases failed
    rcases copyOnce_begins pending found ends with ⟨fits, ends⟩ | ⟨_, rfl⟩
    · obtain ⟨settled, aligned, _, _⟩ := consistent.moveTop pending found .align
      rcases ends_bind.mp ends with ⟨_, _, _, ends⟩ | ⟨halt, copying, halts⟩
      · have below := (settled.bounded target.alignTop (map?_mem aligned).1).2
        obtain ⟨stop, reached, _⟩ := MemoryMap.advance?_of_le_freeSize below fits
        rcases ends_orCrash_bind.mp ends with ⟨_, _, done, _⟩ | ⟨unreached, _⟩
        · exact done ▸ nofun
        · cases unreached.symm.trans reached
      · exact halts.ne_crashed (copyFrom_safe _ _ _ settled copying).1
    · nofun
  · exact halts.ne_crashed (alignMapTop_harmless.zoom.mapError _ _ _ trivial here).1

/-- **Whatever is requested of an empty page, the tops of its maps stay in place**, and each
further request, granted or not, leaves them in place and lowers none. So neither the requests
nor the attempts to copy an image to a map ever leave the address space on the way. -/
theorem tops_in_place (memory : μ) (requests : List Request) (request : Request) :
    let store := afterAll requests (empty, memory)
    let visit := request.visit store
    (∀ map ∈ store.1.maps, map.TopInPlace) ∧
    (∀ map ∈ visit.after.1.maps, map.TopInPlace) ∧
    (∀ (index : Nat) (map : MemoryMap), store.1.maps[index]? = some map →
      ∃ later, visit.after.1.maps[index]? = some later ∧ later.label = map.label ∧
        map.top ≤ later.top) ∧
    (request ≠ .save → visit.outcome ≠ .crashed) ∧
    ∀ (loader : Loader ω μ), loader.page = store.1 →
      ∀ (handle : Handle) (offset size : Nat) (name : String)
        (algorithm : Option Trust.Algorithm),
        ((copyOnce handle offset size name algorithm : BootAct ω μ Placed).run loader).outcome ≠
          .crashed := by
  intro store visit
  have consistent : store.1.Consistent := consistent_afterAll memory requests
  have clear : ∀ map ∈ store.1.maps, map.Clear :=
    (afterAll_changes requests (empty, memory)).clear consistent_empty nofun
  have changes : Changes store.1 visit.after.1 := visit_changes request store
  refine ⟨?before, ?after, ?rising, ?requested, ?copied⟩
  case before => exact fun map member => consistent.topInPlace member (clear map member)
  case after =>
    intro map member
    exact (changes.keeps consistent).1.topInPlace member (changes.clear consistent clear map member)
  case rising => exact fun index map listed => changes.top_le consistent listed
  case requested => exact fun other => perform_returns consistent other (visit_ends request store)
  case copied =>
    intro loader same handle offset size name algorithm
    exact copyOnce_returns (same ▸ consistent) (ends_run _ loader)

/-- A map that ends with the address space: there is no next page, so its top comes to rest at
its end, where a copy finds no room. -/
theorem tops_in_place_last :
    ∃ (requests : List Request) (store : SystemPage × IdentityMemory)
      (visit : Visit IdentityMemory) (later : MemoryMap)
      (loader : Loader Bench.World IdentityMemory),
      requests = [.addMap "high" ⟨0xffffffffffffd000⟩ ⟨0xffffffffffffffff⟩ default,
        .write "high" [1, 2], .reserve ⟨0xffffffffffffd001⟩ 0x10,
        .raiseTop "high" ⟨0xfffffffffffff001⟩] ∧
      store = afterAll requests (empty, IdentityMemory.zeros) ∧
      visit = (Request.alignTop "high").visit store ∧
      visit.after.1.maps = [later] ∧ later.top = ⟨0xffffffffffffffff⟩ ∧ later.TopInPlace ∧
      visit.outcome ≠ .crashed ∧ loader.page = store.1 ∧
      ((copyOnce ⟨0, 0⟩ 0 5 "high" none : BootAct Bench.World IdentityMemory Placed).run
        loader).outcome ≠ .crashed := by
  obtain ⟨requests, asked⟩ : ∃ requests : List Request, requests =
      [.addMap "high" ⟨0xffffffffffffd000⟩ ⟨0xffffffffffffffff⟩ default, .write "high" [1, 2],
        .reserve ⟨0xffffffffffffd001⟩ 0x10, .raiseTop "high" ⟨0xfffffffffffff001⟩] := ⟨_, rfl⟩
  have other : Request.alignTop "high" ≠ .save := nofun
  obtain ⟨_, after, _, requested, copied⟩ :=
    tops_in_place (ω := Bench.World) IdentityMemory.zeros requests (.alignTop "high")
  have maps : ((Request.alignTop "high").visit
      (afterAll requests (empty, IdentityMemory.zeros))).after.1.maps =
      [⟨"high", 0, ⟨0xffffffffffffd000⟩, ⟨0xffffffffffffffff⟩, default, ⟨0xffffffffffffffff⟩,
        [⟨⟨0xffffffffffffd001⟩, ⟨0xffffffffffffd011⟩⟩]⟩] := by
    rw [asked]
    decide +kernel
  refine ⟨requests, _, _, _,
    { ofParts Board.standard ⟨[], ⟨[], []⟩⟩ IdentityMemory.zeros 0 with
      page := (afterAll requests (empty, IdentityMemory.zeros)).1 },
    asked, rfl, rfl, maps, rfl, after _ ?_, requested other, rfl,
    copied _ rfl ⟨0, 0⟩ 0 5 "high" none⟩
  rw [maps]
  exact List.mem_singleton_self _

end Bootloader.Loader
