import Bootloader.Memory.Identity
import Bootloader.Proofs.SystemPage.History

/-!
# What a request leaves that fails

A request checks its arguments before it changes a registry, so a request that is refused leaves
the page and the memory as they were. There are two exceptions that are meant: a copy that asks
to be repeated moves a top, and a save makes its reservation first. There is one more. The sizes
of scheduler windows are read and counted before the first window is recorded, but it is not
checked that all of them end in time; so of a list in which a window would end too late, the
windows before it stay (`pushWindows_fails`). Nothing else remains of a request that fails
(`failed_request_leaves`).
-/

set_option autoImplicit false

namespace Bootloader.SystemPage

open Act

/-! ## Scheduler windows -/

/-- Windows of given sizes one behind the other, numbered from an index on. -/
def windowsFrom (start : UInt64) (index : Nat) : List UInt64 → List WindowRecord
  | [] => []
  | size :: rest =>
      ⟨start, start + size, UInt8.ofNat index⟩ :: windowsFrom (start + size) (index + 1) rest

/-- The end of windows of given sizes that begin at a time. -/
def windowsStop (start : UInt64) (sizes : List UInt64) : Nat :=
  sizes.foldl (fun stop size => stop + size.toNat) start.toNat

/-- The windows of the first sizes of a list end in time, and the next one would not. -/
structure FitsUpTo (start : UInt64) (sizes fitting : List UInt64) : Prop where
  inTime : windowsStop start fitting < UInt64.size
  late : ∃ size rest, sizes = fitting ++ size :: rest ∧
    UInt64.size ≤ windowsStop start (fitting ++ [size])

/-- The time at which the next window begins. -/
def nextStart (page : SystemPage) : UInt64 :=
  (page.windows.getLast?.map WindowRecord.stop).getD 0

variable {page after : SystemPage}

theorem windowsStop_cons {start size stop : UInt64}
    (reached : stop.toNat = start.toNat + size.toNat) (rest : List UInt64) :
    windowsStop start (size :: rest) = windowsStop stop rest := by
  rw [windowsStop, windowsStop, List.foldl_cons, reached]

/-- A window that ends in time ends at the sum, which did not wrap around. -/
theorem of_fitting? {start size stop : UInt64}
    (reached : Text.fitting? (start.toNat + size.toNat) = some stop) :
    stop = start + size ∧ stop.toNat = start.toNat + size.toNat := by
  have number := Text.fitting?_eq_some_iff.mp reached
  have sum := congrArg UInt64.ofNat number
  rw [UInt64.ofNat_toNat, UInt64.ofNat_add, UInt64.ofNat_toNat, UInt64.ofNat_toNat] at sum
  exact ⟨sum, number⟩

theorem FitsUpTo.cons {start size stop : UInt64} {sizes fitting : List UInt64}
    (reached : stop.toNat = start.toNat + size.toNat) (fits : FitsUpTo stop sizes fitting) :
    FitsUpTo start (size :: sizes) (size :: fitting) := by
  obtain ⟨inTime, last, rest, split, late⟩ := fits
  refine ⟨?_, last, rest, congrArg (size :: ·) split, ?_⟩
  · rwa [windowsStop_cons reached]
  · rwa [List.cons_append, windowsStop_cons reached]

/-- Windows are appended up to the first one that would end too late. -/
theorem pushWindows_fails {start : UInt64} {sizes : List UInt64} {error : PageError}
    (ends : (pushWindows start sizes).Ends page (.failed error) after) :
    error = .badNumber ∧ ∃ fitting, FitsUpTo start sizes fitting ∧ after = { page with
      windows := page.windows ++ windowsFrom start page.windows.length fitting } := by
  induction sizes generalizing start page with
  | nil => cases ends.1
  | cons size rest ih =>
      simp only [pushWindows, ends_ofOption_bind, ends_update_bind] at ends
      rcases ends with ⟨stop, reached, ends⟩ | ⟨late, failed, same⟩
      · obtain ⟨sum, number⟩ := of_fitting? reached
        obtain ⟨bad, fitting, fits, left⟩ := ih ends
        refine ⟨bad, size :: fitting, fits.cons number, ?_⟩
        rw [left, windowsFrom, ← sum, List.append_assoc, List.length_append, List.length_singleton]
        rfl
      · cases failed
        refine ⟨rfl, [], ⟨?_, size, rest, rfl, ?_⟩, ?_⟩
        · exact start.toNat_lt
        · simpa [windowsStop] using Text.fitting?_eq_none_iff.mp late
        · rw [← same, windowsFrom, List.append_nil]

/-! ## Requests -/

section

variable {μ : Type} [PhysicalMemory μ]

omit [PhysicalMemory μ] in
/-- Where the page refuses without a change, memory is not changed either. -/
theorem store_of_refused {α : Type} {action : PageAct α} {answer : α → Option Address}
    {store left : SystemPage × μ} {error : PageError}
    (refused : ∀ {after}, action.Ends store.1 (.failed error) after → after = store.1)
    (ends : (onPage action >>= fun value => pure (answer value)).Ends store (.failed error) left) :
    left = store := by
  obtain ⟨failed, memory⟩ := onPage_fails ends
  exact Prod.ext (refused failed) memory

/-- A copy that fails, and does not ask to be repeated, has no effect. -/
theorem write_of_refused {name : String} {data : Bytes} {store left : SystemPage × μ}
    {error : PageError} (final : ∀ top, error ≠ .again top)
    (ends : (Request.write name data).perform.Ends store (.failed error) left) : left = store := by
  rcases ends_bind.mp ends with ⟨_, _, _, failed, _⟩ | ⟨_, failed, halts⟩
  · cases failed
  cases halts
  rcases writeToMap_ends failed with ⟨memory, page, _⟩ | ⟨_, _, _, _, _, _, _, _, again, _⟩ |
    ⟨_, _, done, _⟩
  · exact Prod.ext page memory
  · cases again
    exact absurd rfl (final _)
  · cases done

/-- **A request that fails leaves the page and the memory as they were**, unless it is a save or
asks to be repeated, with one exception: of a list of windows in which one would end too late, the
windows before it are recorded. -/
theorem failed_request_leaves {request : Request} {store left : SystemPage × μ}
    {error : PageError} (ends : request.perform.Ends store (.failed error) left)
    (other : request ≠ .save) (final : ∀ top, error ≠ .again top) :
    left = store ∨
    error = .badNumber ∧ ∃ sizes numbers fitting, request = .addWindows sizes ∧
      (Text.listItems sizes).mapM Text.number? = some numbers ∧
      FitsUpTo store.1.nextStart numbers fitting ∧
      left = ({ store.1 with
        windows := store.1.windows ++
          windowsFrom store.1.nextStart store.1.windows.length fitting }, store.2) := by
  cases request with
  | addMap =>
      refine .inl (store_of_refused (fun failed => ?_) ends)
      exact (addMap_ends failed).elim And.right fun ⟨done, _⟩ => nomatch done
  | reserve =>
      refine .inl (store_of_refused (fun failed => ?_) ends)
      exact (reserve_ends failed).elim And.right fun ⟨done, _⟩ => nomatch done
  | write => exact .inl (write_of_refused final ends)
  | alignTop =>
      refine .inl (store_of_refused (fun failed => ?_) ends)
      exact (alignMapTop_ends failed).elim And.right fun ⟨_, done, _⟩ => nomatch done
  | raiseTop =>
      refine .inl (store_of_refused (fun failed => ?_) ends)
      exact (advanceMapTop_ends failed).elim And.right fun ⟨done, _⟩ => nomatch done
  | addProgram =>
      refine .inl (store_of_refused (fun failed => ?_) ends)
      exact (addProgram_ends failed).elim And.right fun ⟨done, _⟩ => nomatch done
  | addPartition =>
      refine .inl (store_of_refused (fun failed => ?_) ends)
      exact (addPartition_ends failed).elim And.right fun ⟨done, _⟩ => nomatch done
  | setAddress =>
      refine .inl (store_of_refused (fun failed => ?_) ends)
      exact (setAddress_ends failed).elim And.right fun ⟨done, _⟩ => nomatch done
  | addWindows sizes =>
      obtain ⟨failed, memory⟩ := onPage_fails ends
      rcases addWindows_ends failed with ⟨_, page⟩ | ⟨numbers, _, parsed, _, _, _, pushing⟩
      · exact .inl (Prod.ext page memory)
      · obtain ⟨bad, fitting, fits, page⟩ := pushWindows_fails pushing
        exact .inr ⟨bad, sizes, numbers, fitting, rfl, parsed, fits, Prod.ext page memory⟩
  | setKernel =>
      have failed := (onPage_fails (ends_read_bind.mp ends)).1
      cases (ends_update.mp failed).1
  | save => exact absurd rfl other

end

/-- A page on which a window was recorded. -/
def scheduled : SystemPage × IdentityMemory :=
  afterAll [.addWindows "10"] (empty, IdentityMemory.zeros)

/-- Of three windows the second one would end too late; the first one stays. -/
theorem windows_half_added :
    let visit := (Request.addWindows "5;18446744073709551615;7").visit scheduled
    visit.outcome = .failed .badNumber ∧ visit.before.1.windows = [⟨0, 10, 0⟩] ∧
      visit.after.1.windows = [⟨0, 10, 0⟩, ⟨10, 15, 1⟩] := by
  decide +kernel

/-- What the request left is told by the sizes that fit; a map that is refused leaves nothing. -/
theorem failed_request_leaves_windows :
    (∃ error left, (Request.addWindows "5;18446744073709551615;7").perform.Ends scheduled
        (.failed error) left ∧
      ∃ numbers fitting, FitsUpTo 10 numbers fitting ∧
        left.1.windows = scheduled.1.windows ++ windowsFrom 10 1 fitting) ∧
    (Request.addMap "ram" ⟨0x2000⟩ ⟨0x1000⟩ default).perform.Ends scheduled (.failed .badRange)
      scheduled := by
  refine ⟨?windows, ?map⟩
  case windows =>
    let visit := (Request.addWindows "5;18446744073709551615;7").visit scheduled
    have ends : (Request.addWindows "5;18446744073709551615;7").perform.Ends scheduled
        (.failed .badNumber) visit.after :=
      ⟨by decide +kernel, rfl⟩
    refine ⟨_, _, ends, ?_⟩
    rcases failed_request_leaves ends (by decide) nofun with same |
      ⟨_, _, numbers, fitting, _, _, fits, left⟩
    · have more : visit.after.1.windows ≠ scheduled.1.windows := by decide +kernel
      exact absurd (congrArg (fun store => store.1.windows) same) more
    · have next : scheduled.1.nextStart = 10 := by decide +kernel
      have one : scheduled.1.windows.length = 1 := by decide +kernel
      rw [next, one] at left
      rw [next] at fits
      exact ⟨numbers, fitting, fits, congrArg (fun store => store.1.windows) left⟩
  case map =>
    have ends : (Request.addMap "ram" ⟨0x2000⟩ ⟨0x1000⟩ default).perform.Ends scheduled
        (.failed .badRange)
        ((Request.addMap "ram" ⟨0x2000⟩ ⟨0x1000⟩ default).visit scheduled).after :=
      ⟨by decide +kernel, rfl⟩
    rcases failed_request_leaves ends (by decide) nofun with same | ⟨bad, _⟩
    · exact same ▸ ends
    · cases bad

end Bootloader.SystemPage
