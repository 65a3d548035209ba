import Bootloader.Boot.ImageName
import Bootloader.Boot.Placement
import Bootloader.SystemPage.Show
import Bootloader.Trust.Base64

/-!
# Loading programs

Programs and opaque files are placed in a memory map and registered in the
system page. Where the device shows the image inside the map, it is used in
place and its range reserved; otherwise it is copied. The secure variants accept
an image only if its digest is the expected one. A program that was checked in
place is marked, because the device may show other bytes later.
-/

set_option autoImplicit false

namespace Bootloader.Loader

open Trust (Algorithm Digest)

variable {ω μ : Type}

/-- Take an image argument apart. -/
def imageName (argument : String) : BootAct ω μ ImageName :=
  Act.ofExcept (ImageName.parse argument)

/-- The first map of a list of instruction maps. -/
def firstMap (list : String) : BootAct ω μ String :=
  Act.ofOption (.badArgument "imaps") (Text.listItems list).head?

/-- Check that the maps of two lists exist and are not too many. -/
def checkLists (instructionMaps dataMaps : String) : BootAct ω μ Unit := do
  let loader ← Act.read
  let resolve (list : String) : BootAct ω μ Unit := Act.mapError .page do
    let _ ← Act.ofExcept (loader.page.resolveList list Capacity.programMaps)
  resolve instructionMaps
  resolve dataMaps

/-- Check that a map exists. -/
def checkMap (map : String) : BootAct ω μ Unit := do
  let loader ← Act.read
  let _ ← Act.mapError .page (Act.ofExcept (loader.page.mapId map))

/-- A hash algorithm and a digest given as arguments. -/
def expectedDigest (algorithm digest : String) : BootAct ω μ (Algorithm × Digest) :=
  Act.mapError .trust do
    let algorithm ← Act.ofExcept (Algorithm.ofName algorithm)
    let digest ← Act.ofExcept (Trust.Base64.decodeDigest algorithm digest)
    return (algorithm, digest)

/-- The device at the front of the arguments if one is named there, or else the one to use
where none is named; and the other arguments. -/
def splitDevice (arguments : List String) : BootAct ω μ (String × List String) := do
  let loader ← Act.read
  let named := arguments.head?.bind loader.files.alias?
  match named with
  | some entry => return (entry.name, arguments.tail)
  | none => do
      let device ← device
      return (device, arguments)

/-- Compare a digest with the expected one. -/
def checkDigest (digest expected : Digest) : BootAct ω μ Unit :=
  Act.mapError .trust (digest.verify expected.bytes)

/-- Where an image came to lie, and whether it is used in place. -/
structure Settled where
  start : Address
  stop : Address
  inPlace : Bool

/-- Register an image, and reserve its range if it is used in place. -/
def register (settled : Settled) (size : Nat) (instructionMaps dataMaps commandLine : String)
    (flags : ProgramFlags) : BootAct ω μ Unit := do
  onPage (SystemPage.addProgram settled.start settled.stop instructionMaps dataMaps commandLine
    flags)
  if settled.inPlace then
    onPage (SystemPage.reserve settled.start size)

/-- Show programs and partitions. -/
def showPrograms : BootAct ω μ Unit := do
  let loader ← Act.read
  print loader.page.renderPrograms

variable [Hardware ω]

/-- Open an image: an explicit window, or a file by name. -/
def openImage (device : String) (image : ImageName) : FileAct ω Handle :=
  match image.window with
  | some window => Files.openWindow device window
  | none => Files.openFile device (some image.file) 0

/-- The address at which the device shows an image inside a map, if it does so. A device
that refuses the mode does not. -/
def mapInPlace (handle : Handle) (size : Nat) (mode : Attributes) (map : String) :
    BootAct ω μ (Option Address) := do
  let loader ← Act.read
  let (start, stop) ← Act.mapError .page (Act.ofExcept (loader.page.mapRange map))
  let attributes ← Act.mapError .page (Act.ofExcept (loader.page.mapAttributes map))
  let request : MapRequest :=
    { offset := 0, size, mode, mapStart := start, mapSize := stop.toNat - start.toNat,
      mapAttributes := attributes }
  match ← Act.attempt (onFiles (Files.map handle request)) with
  | .done (.mappable address) => return some address
  | .done .notMappable => return none
  | .failed (.file .incompatibleMode) => return none
  | .failed error => Act.fail error
  | .crashed => Act.crash
  | .stalled => Act.stall

/-- An image that is used where it lies. -/
def settleInPlace (address : Address) (size : Nat) : BootAct ω μ Settled := do
  let stop ← Act.orCrash (address.advance? size)
  return ⟨address, stop, true⟩

variable [PhysicalMemory μ]

/-- The text that shows how a command is used. -/
def programUsage : String :=
  "app [<dev>] [-x] <name>[;argv][(offs:size)] <imaps> [dmaps]"

/-- Load a program; without arguments show what is registered. -/
def app (arguments : List String) : BootAct ω μ Unit := do
  if arguments.isEmpty then
    showPrograms
  else
    let (device, arguments) ← splitDevice arguments
    let (exec, arguments) :=
      match arguments with
      | "-x" :: rest => (true, rest)
      | other => (false, other)
    let (name, instructionMaps, dataMaps) ←
      match arguments with
      | [name, maps] => pure (name, maps, maps)
      | [name, instructionMaps, dataMaps] => pure (name, instructionMaps, dataMaps)
      | _ => Act.fail (.usage programUsage)
    let image ← imageName name
    let map ← firstMap instructionMaps
    checkLists instructionMaps dataMaps
    let (settled, size) ← withFile (openImage device image) fun handle => do
      let size ← onFiles (Files.stat handle)
      match ← mapInPlace handle size Attributes.readExec map with
      | some address => do
          let settled ← settleInPlace address size
          return (settled, size)
      | none => do
          let placed ← copyToMap handle 0 size map none
          return (⟨placed.start, placed.stop, false⟩, size)
    report .programs .info ("app " ++ image.file ++ ": " ++ settled.start.render ++ ".." ++
      settled.stop.render ++ " from " ++ device)
    register settled size instructionMaps dataMaps image.commandLine (ProgramFlags.of exec false)

/-- An image with its size and its computed digest. One that is used in place has no end if
that would lie beyond the last address. -/
structure Measured where
  start : Address
  stop : Option Address
  inPlace : Bool
  size : Nat
  digest : Digest

/-- Compute the digest of an image, where the device shows it or else while it is copied. -/
def measureAt (handle : Handle) (size : Nat) (map : String) (algorithm : Algorithm) :
    Option Address → BootAct ω μ Measured
  | some address => do
      let digest ← hashOnly handle size algorithm
      return { start := address, stop := address.advance? size, inPlace := true, size, digest }
  | none => do
      let placed ← copyToMap handle 0 size map (some algorithm)
      let digest ← Act.ofOption (.badArgument "hash") placed.digest
      return { start := placed.start, stop := some placed.stop, inPlace := false, size, digest }

/-- Compute the digest of an image. It is used in place only if a mode for that is given. -/
def measureImage (handle : Handle) (map : String) (mode : Option Attributes)
    (algorithm : Algorithm) : BootAct ω μ Measured := do
  let size ← onFiles (Files.stat handle)
  let shown ←
    match mode with
    | some mode => mapInPlace handle size mode map
    | none => pure none
  measureAt handle size map algorithm shown

/-- What a secure command is asked for. Without a mode the image is always copied. -/
structure SecureRequest where
  isProgram : Bool
  exec : Bool
  device : String
  image : ImageName
  map : String
  instructionMaps : String
  dataMaps : String
  mode : Option Attributes
  algorithm : Algorithm
  expected : Digest

namespace SecureRequest

/-- The word that selects the command. -/
def command (request : SecureRequest) : String :=
  if request.isProgram then "app-secure" else "blob-secure"

/-- Report something about the image. -/
def report (request : SecureRequest) (level : Log.Level) (message : String) :
    BootAct ω μ Unit :=
  Loader.report (if request.isProgram then .programs else .blobs) level
    (request.command ++ " " ++ request.image.file ++ ": " ++ message)

end SecureRequest

/-- Settle an image whose digest is the expected one. Only a program is run, so only of a
program it is reported that it has to be checked again. -/
def settleVerified (request : SecureRequest) (handle : Handle) :
    BootAct ω μ (Settled × Nat) := do
  let measured ← measureImage handle request.map request.mode request.algorithm
  checkDigest measured.digest request.expected
  if measured.inPlace && request.isProgram then
    request.report .warn ("verified in place at " ++ measured.start.render ++
      ", the kernel must verify it again")
  let stop ← Act.orCrash measured.stop
  return (⟨measured.start, stop, measured.inPlace⟩, measured.size)

/-- Place an image whose digest has to be the expected one, and register it. -/
def placeVerified (request : SecureRequest) : BootAct ω μ Unit := do
  let (settled, size) ← withFile (openImage request.device request.image) fun handle =>
    settleVerified request handle
  request.report .info (settled.start.render ++ ".." ++ settled.stop.render ++
    " verified (" ++ request.algorithm.name ++ ")")
  register settled size request.instructionMaps request.dataMaps request.image.commandLine
    (ProgramFlags.of request.exec settled.inPlace)

/-- The text that shows how a command is used. -/
def secureProgramUsage : String :=
  "app-secure <dev> [-x|-xn] <name>[;argv] <imaps> <dmaps> <hash> <base64 digest>"

/-- What the arguments of a program ask for. It is used in place only if they say so. -/
def secureProgram (arguments : List String) : BootAct ω μ SecureRequest := do
  let (device, arguments) ←
    match arguments with
    | device :: rest => pure (device, rest)
    | [] => Act.fail (.usage secureProgramUsage)
  let (exec, inPlace, arguments) :=
    match arguments with
    | "-x" :: rest => (true, false, rest)
    | "-xn" :: rest => (true, true, rest)
    | other => (false, false, other)
  match arguments with
  | [name, instructionMaps, dataMaps, algorithm, digest] => do
      let (algorithm, expected) ← expectedDigest algorithm digest
      let image ← imageName name
      let map ← firstMap instructionMaps
      checkLists instructionMaps dataMaps
      return { isProgram := true, exec, device, image, map, instructionMaps, dataMaps,
               mode := if inPlace then some Attributes.readExec else none, algorithm, expected }
  | _ => Act.fail (.usage secureProgramUsage)

/-- Load a program whose digest has to be the expected one. -/
def appSecure (arguments : List String) : BootAct ω μ Unit := do
  let request ← secureProgram arguments
  placeVerified request

/-- Copy an opaque file into a map; without arguments show what is registered. -/
def blob (arguments : List String) : BootAct ω μ Unit := do
  match arguments with
  | [device, name, map] => do
      let image ← imageName name
      checkMap map
      let (settled, size) ← withFile (openImage device image) fun handle => do
        let size ← onFiles (Files.stat handle)
        let placed ← copyToMap handle 0 size map none
        return ((⟨placed.start, placed.stop, false⟩ : Settled), size)
      report .blobs .info ("blob " ++ image.file ++ ": " ++ settled.start.render ++ ".." ++
        settled.stop.render)
      register settled size map map image.commandLine (ProgramFlags.of false false)
  | [] => showPrograms
  | _ => Act.fail (.usage "blob [<dev> <name> <map>]")

/-- What the arguments of an opaque file ask for. It is used in place wherever it can be. -/
def secureBlob (arguments : List String) : BootAct ω μ SecureRequest := do
  match arguments with
  | [device, name, map, algorithm, digest] => do
      let (algorithm, expected) ← expectedDigest algorithm digest
      let image ← imageName name
      checkMap map
      return { isProgram := false, exec := false, device, image, map, instructionMaps := map,
               dataMaps := map, mode := some (Attributes.ofList [.read]), algorithm, expected }
  | _ => Act.fail (.usage "blob-secure <dev> <name> <map> <hash> <base64 digest>")

/-- Place an opaque file whose digest has to be the expected one. -/
def blobSecure (arguments : List String) : BootAct ω μ Unit := do
  let request ← secureBlob arguments
  placeVerified request

end Bootloader.Loader
