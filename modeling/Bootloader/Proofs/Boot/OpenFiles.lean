import Bootloader.Proofs.Boot.Conduct
import Bootloader.Proofs.Boot.Session

/-!
# Files that commands open

Whatever a command line is and whatever the devices answer, a line that returns leaves open what
was open, and nothing else: a handle that it took was given back, be it that the device failed to
open, to read, to show, to close or to flush the file, or that the program stopped in between
(`execute_sameOpen`). So scripts and sessions of a fresh loader end with no file open, and all
handles are there for what comes next (`lines_leave_no_file_open`).

A line that waits for a device which never falls silent does not return, and nothing is said
of it. How long a loader is patient is no part of this: it may be any number.
-/

set_option autoImplicit false

namespace Bootloader

open Act

variable {ω μ : Type}

namespace Files

variable [Hardware ω] {files : Files ω}

/-- Opening is not refused for want of a handle, unless a framed device answered the last call
that was made to open the name with that error. -/
structure Spares (files : Files ω) : Prop where
  window : ∀ aliasName window,
    ((openWindow aliasName window).run files).outcome ≠ .failed .handlesExhausted
  name : ∀ aliasName name flags,
    ((openFile aliasName name flags).run files).outcome = .failed .handlesExhausted →
      files.OpeningRefused aliasName name flags .handlesExhausted

theorem spares_of_free {index : Nat} (free : files.freeSlot? = some index) : files.Spares where
  window aliasName window exhausted := by
    have full := openWindow_exhausted ⟨exhausted, rfl⟩
    cases free.symm.trans full
  name aliasName name flags exhausted := by
    rcases openFile_exhausted exhausted with full | refused
    · cases free.symm.trans full
    · exact refused

end Files

namespace Loader

variable [Hardware ω] {before after loader : Loader ω μ}

/-- A loader without open files, all of whose handles are free. -/
structure Idle (loader : Loader ω μ) : Prop where
  openCount : loader.files.openCount = 0
  free : loader.files.freeSlot? = some 0

omit [Hardware ω] in
theorem Idle.of_sameOpen (idle : Idle before) (same : Files.SameOpen before.files after.files) :
    Idle after :=
  ⟨same.openCount.trans idle.openCount, same.freeSlot?.trans idle.free⟩

/-- Starting a loader opens nothing. -/
theorem start_idle {board : Board} {devices : Devices ω} {memory : μ} {patience : Nat} :
    Idle ((start : BootAct ω μ Unit).run (ofParts board devices memory patience)).state := by
  have parts : Idle (ofParts board devices memory patience) := ⟨rfl, rfl⟩
  obtain ⟨_, _, _, same⟩ := start_files (ends_run start (ofParts board devices memory patience))
  refine parts.of_sameOpen (Files.sameOpen_of_slots ?_)
  rw [same]

variable [PhysicalMemory μ]

/-- **A line that returns leaves open what was open.** -/
theorem execute_sameOpen (line : String) :
    (execute line : BootAct ω μ Exit).RespectsOnReturn (OfFiles Files.SameOpen) := by
  intro before outcome after ends returns
  by_cases launched : Launched line outcome
  · obtain ⟨_, _, same⟩ := execute_releases ends launched
    rw [OfFiles, same]
    exact Files.sameOpen_of_slots rfl
  · exact (execute_conducts ends launched).2 returns

theorem executeLines_sameOpen (lines : List String) :
    (executeLines lines : BootAct ω μ Exit).RespectsOnReturn (OfFiles Files.SameOpen) := by
  induction lines with
  | nil => exact respects_pure.onReturn
  | cons line rest ih =>
      refine (execute_sameOpen line).bind fun exit => ?_
      cases exit with
      | success => exact ih
      | failure => exact respects_pure.onReturn

/-- In a session whose lines all return, every line leaves the loader without open files. -/
theorem Idle.session (idle : Idle loader) {lines : List String}
    (returns : ∀ turn ∈ session lines loader, turn.outcome ≠ .stalled) :
    ∀ turn ∈ Loader.session lines loader, Idle turn.after := by
  induction lines generalizing loader with
  | nil => exact fun _ member => absurd member List.not_mem_nil
  | cons line rest ih =>
      have left : Idle (turnOf line loader).after := by
        refine idle.of_sameOpen ?_
        exact execute_sameOpen line _ _ _ (ends_run _ loader) (returns _ List.mem_cons_self)
      intro turn member
      rcases List.mem_cons.mp member with rfl | member
      · exact left
      · exact ih left (fun turn member => returns turn (List.mem_cons_of_mem _ member)) turn member

/-- **No command line leaves a file open.** However the devices answer, a line that returns leaves
as many files open as it met, and every handle stands for what it stood for. So a script that
returns leaves no file open in a fresh loader, and after each line of a session none is open and
no handle is missing, whatever lines failed before. -/
theorem lines_leave_no_file_open (board : Board) (devices : Devices ω) (memory : μ)
    (patience : Nat) :
    let fresh := ((start : BootAct ω μ Unit).run (ofParts board devices memory patience)).state
    (∀ (line : String) (loader : Loader ω μ),
      let ending := (execute line).run loader
      ending.outcome ≠ .stalled →
        ending.state.files.openCount = loader.files.openCount ∧
        ∀ handle, ending.state.files.resolve? handle = loader.files.resolve? handle) ∧
    (∀ script : String,
      let ending := (runScript script).run fresh
      ending.outcome ≠ .stalled → ending.state.files.openCount = 0) ∧
    ∀ lines : List String, (∀ turn ∈ session lines fresh, turn.outcome ≠ .stalled) →
      ∀ turn ∈ session lines fresh,
        turn.after.files.openCount = 0 ∧ turn.after.files.Spares := by
  intro fresh
  refine ⟨?_, ?_, ?_⟩
  · intro line loader ending returns
    have same : Files.SameOpen loader.files ending.state.files :=
      execute_sameOpen line _ _ _ (ends_run _ loader) returns
    exact ⟨same.openCount, same.handles⟩
  · intro script ending returns
    have same : Files.SameOpen fresh.files ending.state.files :=
      executeLines_sameOpen _ _ _ _ (ends_run _ fresh) returns
    exact (start_idle.of_sameOpen same).openCount
  · intro lines returns turn member
    have idle := Idle.session start_idle returns turn member
    exact ⟨idle.openCount, Files.spares_of_free idle.free⟩

/-- A bench with a serial line that answers one read and then no more, and fails when it is
flushed. -/
def brokenLine : Devices Bench.World :=
  ⟨[⟨.uart, [false]⟩],
    ⟨[(.uart, .script ⟨[], [], [.ok [1], .error .timeout], [], [], [.error .device, .ok ()], []⟩)],
      []⟩⟩

/-- More loads fail than there are handles, and still none is missing. -/
theorem lines_leave_no_file_open_broken :
    let fresh := ((start : BootAct Bench.World IdentityMemory Unit).run
      (ofParts Board.standard brokenLine IdentityMemory.zeros 1)).state
    let lines := "phfs line 0.0" :: List.replicate 5 "kernel line"
    ((session lines fresh).map Turn.outcome) =
        .done .success :: List.replicate 5 (.done .failure) ∧
      ∀ turn ∈ session lines fresh, turn.after.files.openCount = 0 ∧ turn.after.files.Spares := by
  intro fresh lines
  have outcomes : ((session lines fresh).map Turn.outcome) =
      .done .success :: List.replicate 5 (.done .failure) := by decide +kernel
  refine ⟨outcomes, ?_⟩
  obtain ⟨_, _, sessions⟩ :=
    lines_leave_no_file_open Board.standard brokenLine IdentityMemory.zeros 1
  refine sessions lines fun turn member => ?_
  have ended : turn.outcome ∈ (session lines fresh).map Turn.outcome := List.mem_map_of_mem member
  rw [outcomes] at ended
  rcases List.mem_cons.mp ended with done | failed
  · rw [done]
    nofun
  · rw [List.eq_of_mem_replicate failed]
    nofun

end Loader

end Bootloader
