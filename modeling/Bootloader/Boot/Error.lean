import Bootloader.Device.Basic
import Bootloader.Image.Header
import Bootloader.Memory
import Bootloader.SystemPage.Basic
import Bootloader.Trust.Error

/-!
# Why a command fails
-/

set_option autoImplicit false

namespace Bootloader

/-- The error of a command: that of a part of the loader, or one of the command itself. -/
inductive BootError where
  | file (error : FileError)
  | page (error : PageError)
  | image (error : ImageError)
  | trust (error : Trust.Error)
  | memory (error : MemoryError)
  | usage (text : String)
  | unknownCommand
  | badArgument (what : String)
  | noSignature
  | noKernel
  | emptyImage
  deriving DecidableEq, Repr

namespace BootError

/-- The text of an error. -/
def message : BootError → String
  | file error => error.message
  | page error => error.message
  | image error => error.message
  | trust error => error.message
  | memory error => error.message
  | usage text => "usage: " ++ text
  | unknownCommand => "Unknown command"
  | badArgument what => "Invalid " ++ what
  | noSignature => "The image has no .signature section"
  | noKernel => "No kernel loaded"
  | emptyImage => "The image is empty"

/-- The status code of an error. -/
def code : BootError → Int
  | file error => error.code
  | page error => error.code
  | image error => error.code
  | trust error => error.code
  | noSignature => Status.mismatch
  | emptyImage => Status.file
  | _ => Status.argument

end BootError

end Bootloader
