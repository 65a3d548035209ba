import Bootloader.Boot.Error
import Bootloader.Files.Access
import Bootloader.Image.Header
import Bootloader.SystemPage.Update

/-!
# The loader

A loader owns a board, the files on its devices, the system page it builds, and
the memory it writes to. It remembers what it wrote to the console, the device
to use where none is named, whether a kernel is loaded, and the launches it made.
-/

set_option autoImplicit false

namespace Bootloader

/-- What a board decides. -/
structure Board where
  resolveAttributes : String → Option Attributes
  kernelAddress : Image.ProgramHeader → Address
  kernelName : String
  footprint : Option (Address × Nat)
  pageAddress : Option Address

/-- The decisions of a board that has none of its own. -/
def Board.standard : Board where
  resolveAttributes := Attributes.parse?
  kernelAddress := Image.ProgramHeader.place
  kernelName := "phoenix.elf"
  footprint := none
  pageAddress := none

/-- A jump to a kernel, with the address of the system page. -/
structure Launch where
  entry : Address
  page : Address
  deriving DecidableEq, Repr

/-- Everything that belongs to one boot. -/
structure Loader (ω μ : Type) where
  board : Board
  files : Files ω
  page : SystemPage
  memory : μ
  console : String
  launches : List Launch
  defaultDevice : Option String
  kernelLoaded : Bool

/-- What the loader does. -/
abbrev BootAct (ω μ α : Type) := Act (Loader ω μ) BootError α

namespace Loader

variable {ω μ α : Type}

/-- A loader before anything happened. -/
def ofParts (board : Board) (devices : Devices ω) (memory : μ) (patience : Nat) :
    Loader ω μ where
  board := board
  files := Files.ofDevices devices patience
  page := SystemPage.empty
  memory := memory
  console := ""
  launches := []
  defaultDevice := none
  kernelLoaded := false

/-- Report something. -/
def report {σ ε : Type} (component : Log.Component) (level : Log.Level) (message : String) :
    Act σ ε Unit :=
  Act.note (component.report level message)

/-- Turn to the files. -/
def onFiles (request : FileAct ω α) : BootAct ω μ α :=
  Act.mapError .file (Act.zoom Loader.files (fun files loader => { loader with files }) request)

/-- Turn to the system page. -/
def onPage (request : PageAct α) : BootAct ω μ α :=
  Act.mapError .page (Act.zoom Loader.page (fun page loader => { loader with page }) request)

/-- Turn to the system page and the memory. -/
def onStore (request : StoreAct μ α) : BootAct ω μ α :=
  Act.mapError .page
    (Act.zoom (fun loader => (loader.page, loader.memory))
      (fun store loader => { loader with page := store.1, memory := store.2 }) request)

/-- Write memory directly. -/
def writeMemory [PhysicalMemory μ] (address : Address) (data : Bytes) : BootAct ω μ Unit := do
  let loader ← Act.read
  match PhysicalMemory.write loader.memory address data with
  | .ok memory => Act.put { loader with memory }
  | .error error => Act.fail (.memory error)

/-- Write to the console. -/
def print (text : String) : BootAct ω μ Unit :=
  Act.update fun loader => { loader with console := loader.console ++ text }

/-- A number given as an argument. -/
def number (argument : String) : BootAct ω μ UInt64 :=
  Act.ofOption (.page .badNumber) (Text.number? argument)

/-- The device to use where none is named. -/
def device : BootAct ω μ String := do
  let loader ← Act.read
  Act.ofOption (.badArgument "device") loader.defaultDevice

/-- Forget the kernel before its memory is overwritten. -/
def forgetKernel : BootAct ω μ Unit := do
  let loader ← Act.read
  if loader.kernelLoaded then
    report .context .warn "plo: previous kernel discarded"
  Act.update fun loader => { loader with
    kernelLoaded := false
    page := { loader.page with kernel := SystemPage.KernelDescriptor.unknown } }

variable [Hardware ω]

/-- Use an open file, and close it. A failure of the body is kept, and a failure to close
after it only reported. -/
def withFile (opening : FileAct ω Handle) (body : Handle → BootAct ω μ α) : BootAct ω μ α := do
  let handle ← onFiles opening
  Act.bracket (body handle) (onFiles (Files.close handle)) (onFiles (Files.abandon handle))

/-- Bring the devices up, reserve what the loader itself occupies, and set the address that
the board gives to the system page. -/
def start : BootAct ω μ Unit := do
  let up ← onFiles (Files.inDevices Devices.initAll)
  report .context .info ("plo: " ++ toString up ++ " device instance(s) up")
  let loader ← Act.read
  if let some (address, size) := loader.board.footprint then
    onPage (SystemPage.reserve address size)
  if let some address := loader.board.pageAddress then
    onPage (SystemPage.setAddress address)

variable [PhysicalMemory μ]

/-- Save the system page, release the devices, and jump to the kernel. -/
def launch : BootAct ω μ Unit := do
  let loader ← Act.read
  Act.require loader.kernelLoaded .noKernel
  let address ← onStore SystemPage.save
  let loader ← Act.read
  if loader.files.openCount ≠ 0 then
    report .context .warn ("plo: " ++ toString loader.files.openCount ++
      " PHFS handle(s) still open at launch")
  onFiles (Files.inDevices Devices.doneAll)
  let entry := loader.page.kernel.entry
  report .context .info ("plo: jumping to " ++ entry.render ++ ", syspage at " ++ address.render)
  Act.update fun loader => { loader with launches := loader.launches ++ [⟨entry, address⟩] }

end Loader

end Bootloader
