import Bootloader.Boot.Context
import Bootloader.Files.Show
import Bootloader.SystemPage.Show

/-!
# Registering maps, devices and files

The commands that fill the registries of the loader. Most of them show their
registry when they are given no arguments.
-/

set_option autoImplicit false

namespace Bootloader.Loader

variable {ω μ : Type}

/-- Show the system page. -/
def showPage : BootAct ω μ Unit := do
  let loader ← Act.read
  print loader.page.render

/-- Add a memory map, or show the system page. -/
def addMap (arguments : List String) : BootAct ω μ Unit := do
  match arguments with
  | [] => showPage
  | [name, start, stop, attributes] => do
      let start ← number start
      let stop ← number stop
      let loader ← Act.read
      let attributes ←
        Act.ofOption (.badArgument "attributes") (loader.board.resolveAttributes attributes)
      let _ ← onPage (SystemPage.addMap name ⟨start⟩ ⟨stop⟩ attributes)
  | _ => Act.fail (.usage "map [<name> <start> <end> <attributes>]")

/-- Move the system page, or show it. -/
def movePage (arguments : List String) : BootAct ω μ Unit := do
  match arguments with
  | [] => showPage
  | [address] => do
      let address ← number address
      onPage (SystemPage.setAddress ⟨address⟩)
  | _ => Act.fail (.usage "syspage [<address>]")

/-- Add a partition, or show what is registered. -/
def addPartition (arguments : List String) : BootAct ω μ Unit := do
  match arguments with
  | [] => do
      let loader ← Act.read
      print loader.page.renderPrograms
  | [name, allocation, access] => onPage (SystemPage.addPartition name allocation access)
  | _ => Act.fail (.usage "part [<name> <alloc maps> <access maps>]")

/-- Add scheduler windows. -/
def addWindows (arguments : List String) : BootAct ω μ Unit := do
  match arguments with
  | [sizes] => onPage (SystemPage.addWindows sizes)
  | _ => Act.fail (.usage "sched <size0;size1;...>")

/-- The instance that two numbers around the first point name. -/
def deviceNumber (argument : String) : BootAct ω μ DeviceId := do
  let (major, minor) ← Act.ofOption (.badArgument "major.minor") (Text.cut '.' argument.toList)
  let major ← number (String.ofList major)
  let major ← Act.ofOption (.badArgument "major") (Major.ofNumber? major.toNat)
  let minor ← number (String.ofList minor)
  Act.require (minor.toNat < UInt32.size) (.badArgument "minor")
  return ⟨major, minor.toNat⟩

/-- Add an alias for a device, or show the aliases. The first device is the one to use where
none is named. -/
def addAlias (arguments : List String) : BootAct ω μ Unit := do
  match arguments with
  | [] => do
      let loader ← Act.read
      print (loader.files.renderAliases ++ loader.files.renderFiles)
  | [aliasName, device] => add aliasName device .raw
  | [aliasName, device, protocol] => do
      let protocol ← Act.ofOption (.badArgument "protocol") (Protocol.ofName? protocol)
      add aliasName device protocol
  | _ => Act.fail (.usage "phfs [<alias> <major.minor> [protocol]]")
where
  add (aliasName device : String) (protocol : Protocol) : BootAct ω μ Unit := do
    let device ← deviceNumber device
    onFiles (Files.registerDevice aliasName device protocol)
    Act.update fun loader => { loader with
      defaultDevice := loader.defaultDevice <|> some aliasName }
    print (aliasName ++ ": " ++ device.render ++ " (" ++ protocol.name ++ ")\n")

/-- Add an alias for a window of a raw device. -/
def addFile (arguments : List String) : BootAct ω μ Unit := do
  match arguments with
  | [aliasName, start, size] => do
      let start ← number start
      let size ← number size
      onFiles (Files.registerFile aliasName ⟨start.toNat, size.toNat⟩)
  | _ => Act.fail (.usage "file <alias> <address> <size>")

end Bootloader.Loader
