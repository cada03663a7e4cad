import BuildYard.Text.Blank
import BuildYard.Text.Digits
import BuildYard.Text.Unseen

/-!
# Values in messages

How a message shows a text so that its ends and its control characters can be
seen: between double quotes, with escapes of one letter for the usual ones and
the code point in braces for every other character without a form of its own.
-/

set_option autoImplicit false

namespace BuildYard.Text.Literal

/-- A character inside a quoted text. -/
def writeChar (c : Char) : List Char :=
  match c with
  | '\x00' => ['\\', '0']
  | '\t' => ['\\', 't']
  | '\n' => ['\\', 'n']
  | '\r' => ['\\', 'r']
  | '\x22' => ['\\', '\x22']
  | '\\' => ['\\', '\\']
  | c =>
    if isUnseen c then "\\u\x7b".toList ++ (hex c.toNat).toList ++ ['\x7d'] else [c]

/-- A quoted text. -/
def text (s : String) : String :=
  String.ofList ('\x22' :: s.toList.flatMap writeChar ++ ['\x22'])

/-- A list of quoted texts. -/
def texts (parts : List String) : String :=
  "[" ++ join ", " (parts.map text) ++ "]"

/-- A quoted text that may be absent. -/
def optional : Option String → String
  | none => "None"
  | some s => "Some(" ++ text s ++ ")"

/-- A truth value. -/
def flag (b : Bool) : String :=
  if b then "true" else "false"

end BuildYard.Text.Literal
