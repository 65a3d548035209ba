import Bootloader.Proofs.Boot.Commands

/-!
# Loads of a kernel

Two commands load a kernel, and both do it by the same call (`LoadCall`); before that they only
take their arguments apart. A call forgets the former kernel first and takes the new one as
its last step. So after a call there is a kernel exactly if the call ended as it should, and
then its entry is that of the image that was read (`run_settles`).
-/

set_option autoImplicit false

namespace Bootloader.Loader

open Act
open Trust (Algorithm Curve Hasher ScalarPair)

/-- A file of a device that is to be loaded as the kernel, checked with a key if there is one. -/
structure LoadCall where
  device : String
  name : Option String
  key : Option KernelKey

section

variable {ω μ : Type}

/-- The call that arguments of a plain load ask for. -/
def plainCall (arguments : List String) (loader : Loader ω μ) : Except BootError LoadCall := do
  let device ←
    match arguments with
    | [] =>
        match loader.defaultDevice with
        | some device => .ok device
        | none => .error (.badArgument "device")
    | [device] => .ok device
    | _ => .error (.usage "kernel [<dev>]")
  let protocol ← (loader.files.protocol device).mapError .file
  let name :=
    match protocol with
    | .raw => none
    | .framed => some loader.board.kernelName
  return ⟨device, name, none⟩

/-- The call that arguments of a load of a signed kernel ask for. -/
def secureCall (arguments : List String) : Except BootError LoadCall := do
  match arguments with
  | [device, name, curve, algorithm, key] => do
      let key ← Except.mapError .trust do
        let key ← ScalarPair.ofBase64 key
        let curve ← Curve.ofName curve
        let algorithm ← Algorithm.ofName algorithm
        return { curve, algorithm, key : KernelKey }
      return ⟨device, some name, some key⟩
  | _ => .error (.usage "kernel-sec <dev> <name> <curve> <hash> <base64 pubkey>")

/-- The call that a line makes where the loader stands, if it makes one. -/
def loadCall? (line : String) (loader : Loader ω μ) : Option LoadCall :=
  match Command.ofLine? line with
  | some (.kernel, arguments) => (plainCall arguments loader).toOption
  | some (.kernelSecure, arguments) => (secureCall arguments).toOption
  | _ => none

variable [Hardware ω] [PhysicalMemory μ] {before after : Loader ω μ}

/-- Make the call. -/
def LoadCall.run (call : LoadCall) : BootAct ω μ Unit :=
  loadKernel call.device call.name call.key

/-- The header of the image that a call reads, once the former kernel is forgotten. -/
def LoadCall.Reads (call : LoadCall) (before : Loader ω μ) (header : Image.FileHeader) : Prop :=
  ∃ handle opened headed,
    (onFiles (Files.openFile call.device call.name 0) : BootAct ω μ Handle).Ends
      before.withoutKernel (.done handle) opened ∧
    (Image.openImage (sourceOf handle)).Ends opened (.done header) headed

/-! ## From the arguments to the call -/

/-- A plain load takes its arguments apart, and then makes the call that they ask for. -/
theorem kernel_ends {arguments : List String} {outcome : Outcome BootError Unit} :
    (kernel arguments : BootAct ω μ Unit).Ends before outcome after ↔
      (ofExcept (plainCall arguments before) >>= LoadCall.run).Ends before outcome after := by
  -- once the device is known, its protocol decides on the file
  have named : ∀ device : String, (do
      let loader ← Act.read
      let protocol ← Act.mapError .file (Act.ofExcept (loader.files.protocol device))
      let name :=
        match protocol with
        | .raw => none
        | .framed => some loader.board.kernelName
      loadKernel device name none : BootAct ω μ Unit).Ends before outcome after ↔
      (ofExcept (plainCall [device] before) >>= LoadCall.run).Ends before outcome after := by
    intro device
    show _ ↔ (Act.ofExcept ((before.files.protocol device).mapError BootError.file >>=
      fun _ => _) >>= LoadCall.run).Ends
      before outcome after
    rw [ends_read_bind, mapError_ofExcept, ofExcept_bind, bind_assoc]
    rfl
  match arguments with
  | [] =>
      show (device >>= fun device => _).Ends before outcome after ↔ _
      rw [device, bind_assoc, ends_read_bind]
      cases found : before.defaultDevice with
      | none =>
          have refused : plainCall [] before = .error (.badArgument "device") := by
            simp only [plainCall, found]
            rfl
          rw [refused]
          exact Iff.rfl
      | some device =>
          have same : plainCall [] before = plainCall [device] before := by
            simp only [plainCall, found]
          rw [same]
          exact named device
  | [device] => exact named device
  | first :: second :: rest => exact Iff.rfl

/-- A load of a signed kernel takes its arguments apart, and then makes the call that they ask
for. -/
theorem kernelSecure_eq {arguments : List String} :
    (kernelSecure arguments : BootAct ω μ Unit) =
      ofExcept (secureCall arguments) >>= LoadCall.run := by
  match arguments with
  | [device, name, curve, algorithm, key] =>
      unfold kernelSecure secureCall
      simp only [← ofExcept_bind, ← ofExcept_pure, mapError_ofExcept]
      rw [ofExcept_bind, bind_assoc]
      rfl
  | [] | [_] | [_, _] | [_, _, _] | [_, _, _, _] | _ :: _ :: _ :: _ :: _ :: _ :: _ => rfl

/-! ## From the call to the kernel -/

/-- The launches made, and whether the page is saved. -/
def progress (loader : Loader ω μ) : List Launch × Bool :=
  (loader.launches, loader.page.isSaved)

omit [Hardware ω] in
theorem Keeps.progress (keeps : Keeps standing before after) : Keeps progress before after := by
  refine ⟨?_, keeps.written⟩
  exact congrArg (fun parts => (parts.1, parts.2.2.2)) keeps.same

omit [Hardware ω] in
theorem Transfers.keeps (transfers : Transfers before after) : Keeps standing before after := by
  refine ⟨?_, transfers.written⟩
  rw [transfers.rest]
  rfl

omit [Hardware ω] in
theorem Reserves.keeps {segments rest : List Image.ProgramHeader}
    {reserved : List SystemPage.Reservation}
    (reserves : Reserves segments before after reserved rest) : Keeps standing before after := by
  rw [reserves.only]
  exact (prepared_of_registered reserves.registered).keeps

/-- The header of an image that was copied is the one that was read first, and all segments that
were copied are to be loaded. -/
theorem copyImage_reads {handle : Handle} {key : Option KernelKey} {copied : Copied}
    (ends : (copyImage handle key : BootAct ω μ Copied).Ends before (.done copied) after) :
    (∃ headed, (Image.openImage (sourceOf handle)).Ends before (.done copied.header) headed) ∧
      ∀ segment ∈ copied.segments, segment.isLoad = true := by
  unfold copyImage at ends
  dsimp only at ends
  obtain ⟨header, headed, opening, ends⟩ := ends_bind_done.mp ends
  obtain ⟨all, _, _, ends⟩ := ends_bind_done.mp ends
  obtain ⟨_, _, _, ends⟩ := ends_bind_done.mp ends
  obtain ⟨bss, _, _, ends⟩ := ends_bind_done.mp ends
  have loads : ∀ segment ∈ all.filter Image.ProgramHeader.isLoad, segment.isLoad = true :=
    fun segment member => (List.mem_filter.mp member).2
  cases key with
  | some key =>
      obtain ⟨signature, _, _, ends⟩ := ends_bind_done.mp ends
      obtain ⟨hasher, _, _, done, _⟩ := ends_bind_done.mp (ends_pure_bind.mp ends)
      cases done
      exact ⟨⟨headed, opening⟩, loads⟩
  | none =>
      obtain ⟨hasher, _, _, done, _⟩ := ends_bind_done.mp (ends_pure_bind.mp ends)
      cases done
      exact ⟨⟨headed, opening⟩, loads⟩

/-- An image that was copied was read from a file that was opened. -/
theorem CopiedImage.reads {device : String} {name : Option String} {key : Option KernelKey}
    {copied : Copied} (image : CopiedImage device name key before copied after) :
    (LoadCall.mk device name key).Reads before copied.header ∧
      ∀ segment ∈ copied.segments, segment.isLoad = true := by
  rcases withFile_ends image.copying with ⟨handle, opened, _, _, opening, inside, _, yields⟩ |
    ⟨_, refused⟩
  · rw [yields copied rfl] at inside
    obtain ⟨⟨headed, read⟩, loads⟩ := copyImage_reads inside
    exact ⟨⟨handle, opened, headed, opening, read⟩, loads⟩
  · exact absurd rfl (refused copied)

/-- **After a load there is a kernel exactly if the load ended as it should**, and then its
entry is that of the image. Launches are not made by a load, and the page is not saved. -/
theorem LoadCall.run_settles {call : LoadCall} {outcome : Outcome BootError Unit}
    (ends : (call.run : BootAct ω μ Unit).Ends before outcome after) :
    Keeps progress before after ∧
      ((outcome = .done () ∧ after.kernelLoaded = true ∧ ∃ header, call.Reads before header ∧
          after.page.kernel.entry = Address.ofNat header.entry.toNat) ∨
        (outcome ≠ .done () ∧ after.kernelLoaded = false)) := by
  have forgotten : Keeps progress before before.withoutKernel := keeps_of_memory rfl rfl
  rcases loadKernel_steps ends with ⟨refused, transfers⟩ | ⟨copied, closed, image, accepting⟩
  · have kept := transfers.keeps
    exact ⟨forgotten.trans kept.progress, .inr ⟨refused, kept.kernelLoaded⟩⟩
  · have kept := image.transfers.keeps
    obtain ⟨left, reserved, rest, reserves, settled⟩ := acceptKernel_ends accepting
    have described : Keeps progress closed (closed.describing (describe closed.board copied)) :=
      keeps_of_memory rfl rfl
    have all := ((forgotten.trans kept.progress).trans described).trans reserves.keeps.progress
    rcases settled with ⟨done, _, rfl⟩ | ⟨rfl, _, _, _, _, rfl, _⟩
    · exact ⟨all.trans (keeps_of_memory rfl rfl), .inl ⟨done, rfl, copied.header, image.reads.1,
        congrArg SystemPage.KernelDescriptor.entry reserves.keeps.kernel⟩⟩
    · exact ⟨all, .inr ⟨nofun, reserves.keeps.kernelLoaded.trans kept.kernelLoaded⟩⟩

/-- On the page a load describes the kernel and reserves memory. -/
theorem LoadCall.run_changes {call : LoadCall} {outcome : Outcome BootError Unit}
    (ends : (call.run : BootAct ω μ Unit).Ends before outcome after) :
    SystemPage.Changes before.page after.page := by
  have forgotten : SystemPage.Changes before.page before.withoutKernel.page :=
    (SystemPage.Change.kernel _).changes
  rcases loadKernel_steps ends with ⟨_, transfers⟩ | ⟨copied, closed, image, accepting⟩
  · rw [transfers.rest]
    exact forgotten
  · have copying : closed.page = before.withoutKernel.page := by rw [image.transfers.rest]
    obtain ⟨left, reserved, rest, reserves, settled⟩ := acceptKernel_ends accepting
    have described : SystemPage.Changes before.page left.page := by
      rw [← copying] at forgotten
      exact (forgotten.tail (.kernel _)).trans reserves.registered.changes
    rcases settled with ⟨_, _, rfl⟩ | ⟨rfl, _⟩
    · exact described
    · exact described

/-! ## Lines -/

/-- What a line does: steps that do not matter for a launch, or one call that loads a kernel, or
one attempt to launch. After a call or an attempt that ends as it should nothing more is
written to the console. -/
inductive Does (line : String) (before after : Loader ω μ) : Prop where
  | prepares (unasked : loadCall? line before = none) (prepared : Prepared before after)
  | loads (call : LoadCall) (outcome : Outcome BootError Unit) (left : Loader ω μ)
      (console : String) (asked : loadCall? line before = some call)
      (ends : (call.run : BootAct ω μ Unit).Ends before outcome left)
      (same : after = { left with console }) (silent : outcome = .done () → after = left)
  | launches (arguments : List String) (outcome : Outcome BootError Unit) (left : Loader ω μ)
      (console : String) (called : Command.ofLine? line = some (.go, arguments))
      (ends : (go arguments : BootAct ω μ Unit).Ends before outcome left)
      (same : after = { left with console }) (silent : outcome = .done () → after = left)

theorem execute_does {line : String} {outcome : Outcome BootError Exit}
    (ends : (execute line : BootAct ω μ Exit).Ends before outcome after) :
    Does line before after := by
  rcases execute_ends ends with ⟨idle, console, same⟩ |
    ⟨command, arguments, ending, left, console, called, inside, _, same, silent⟩
  · refine .prepares ?_ (same ▸ (Prepares.console console).prepared)
    rw [loadCall?, idle]
  · -- a command that loads either makes its call, or fails before it
    have either : ∀ asked : Except BootError LoadCall, loadCall? line before = asked.toOption →
        (ofExcept asked >>= LoadCall.run : BootAct ω μ Unit).Ends before ending left →
        Does line before after := by
      intro asked found ends
      rcases ends_ofExcept_bind.mp ends with ⟨call, rfl, made⟩ | ⟨error, rfl, _, rfl⟩
      · exact .loads call ending left console found made same silent
      · exact .prepares found (same ▸ (Prepares.console console).prepared)
    cases command
    case kernel =>
      refine either _ ?_ (kernel_ends.mp inside)
      rw [loadCall?, called]
    case kernelSecure =>
      refine either (secureCall arguments) ?_ ?_
      · rw [loadCall?, called]
      · rw [← kernelSecure_eq]
        exact inside
    case go => exact .launches arguments ending left console called inside same silent
    all_goals
      refine .prepares ?_ ?_
      · rw [loadCall?, called]
      · have prepared := Respects.ends (prepared_ordinary (by decide) (by decide) (by decide)) inside
        exact same ▸ prepared.tail (.console console)

end

end Bootloader.Loader
