import Bootloader.Files.Basic
import Bootloader.Text.Layout
import Bootloader.Text.Number

/-!
# Aliases and handles in text
-/

set_option autoImplicit false

namespace Bootloader

/-- A handle as its slot and the generation of the slot. -/
def Handle.render (handle : Handle) : String :=
  "Handle \x7b slot: " ++ toString handle.slot ++ ", generation: " ++
    toString handle.generation.toNat ++ " \x7d"

namespace Files

open Text

variable {ω : Type}

/-- The line of a device alias. -/
def renderAlias (entry : DeviceAlias) : String :=
  padRight 16 entry.name ++ " " ++ padLeft 5 (toString entry.device.major.number) ++ " " ++
    padLeft 5 (toString entry.device.minor) ++ "  " ++ entry.protocol.name ++ "\n"

/-- The device aliases. -/
def renderAliases (files : Files ω) : String :=
  padRight 16 "ALIAS" ++ " " ++ padLeft 5 "MAJOR" ++ " " ++ padLeft 5 "MINOR" ++ "  PROTOCOL\n" ++
    String.join (files.aliases.map renderAlias)

/-- The line of a file alias. -/
def renderFile (entry : FileAlias) : String :=
  padRight 16 entry.name ++ " " ++ paddedHex 8 entry.window.start ++ " " ++
    paddedHex 8 entry.window.size ++ "\n"

/-- The file aliases. -/
def renderFiles (files : Files ω) : String :=
  padRight 16 "FILE" ++ " " ++ padLeft 10 "ADDRESS" ++ " " ++ padLeft 10 "SIZE" ++ "\n" ++
    String.join (files.files.map renderFile)

end Files

end Bootloader
