/-!
# Columns

Texts are padded with blanks to the width of a column, counted in characters. A
text that is wider is left as it is.
-/

set_option autoImplicit false

namespace Bootloader.Text

/-- A text followed by blanks up to a width. -/
def padRight (width : Nat) (text : String) : String :=
  text ++ String.ofList (List.replicate (width - text.length) ' ')

/-- A text preceded by blanks up to a width. -/
def padLeft (width : Nat) (text : String) : String :=
  String.ofList (List.replicate (width - text.length) ' ') ++ text

end Bootloader.Text
