import BuildYard.Json.Value

/-!
# Writing JSON

Two layouts: everything on one line without blanks (`Json.compact`), and one
element a line with an indentation of two blanks a level (`Json.pretty`). Both
escape the quote, the backslash and the control characters below a blank,
and write every other character as it is.
-/

set_option autoImplicit false

namespace BuildYard.Json

/-- A character inside a quoted text. -/
def writeChar (c : Char) : List Char :=
  match c with
  | '\x22' => ['\\', '\x22']
  | '\\' => ['\\', '\\']
  | '\x08' => ['\\', 'b']
  | '\x0c' => ['\\', 'f']
  | '\n' => ['\\', 'n']
  | '\r' => ['\\', 'r']
  | '\t' => ['\\', 't']
  | c => if c.toNat < 0x20 then ['\\', 'u'] ++ Text.fixed 16 4 c.toNat else [c]

/-- A quoted text. -/
def writeText (s : String) : List Char :=
  '\x22' :: s.toList.flatMap writeChar ++ ['\x22']

/-- A member's name; one with half of a pair is written empty. -/
def writeName (name : Option String) : List Char :=
  writeText (name.getD "")

/-- Pieces with commas between them. -/
def commaSeparated : List (List Char) → List Char
  | [] => []
  | [piece] => piece
  | piece :: rest => piece ++ ',' :: commaSeparated rest

mutual

/-- A value on one line. -/
def writeCompact : Json → List Char
  | .null => "null".toList
  | .bool b => (if b then "true" else "false").toList
  | .number run => run
  | .text s => writeText s
  | .broken => writeText ""
  | .array items => '[' :: commaSeparated (compactItems items) ++ [']']
  | .object members => '\x7b' :: commaSeparated (compactMembers members) ++ ['\x7d']

/-- The elements of an array, each on its own. -/
def compactItems : List Json → List (List Char)
  | [] => []
  | item :: rest => writeCompact item :: compactItems rest

/-- The members of an object, each on its own. -/
def compactMembers : List (Option String × Json) → List (List Char)
  | [] => []
  | (name, item) :: rest => (writeName name ++ ':' :: writeCompact item) :: compactMembers rest

end

/-- A line break and the indentation of `depth` levels. -/
def indent (depth : Nat) : List Char :=
  '\n' :: List.replicate (2 * depth) ' '

/-- Pieces on lines of their own between brackets; nothing between them when
there is no piece. -/
def block (depth : Nat) (opening closing : Char) (pieces : List (List Char)) : List Char :=
  if pieces.isEmpty then [opening, closing]
  else
    opening :: commaSeparated (pieces.map (indent (depth + 1) ++ ·)) ++ indent depth ++ [closing]

mutual

/-- A value laid out from `depth` levels on. -/
def writePretty (depth : Nat) : Json → List Char
  | .null => "null".toList
  | .bool b => (if b then "true" else "false").toList
  | .number run => run
  | .text s => writeText s
  | .broken => writeText ""
  | .array items => block depth '[' ']' (prettyItems (depth + 1) items)
  | .object members => block depth '\x7b' '\x7d' (prettyMembers (depth + 1) members)

/-- The elements of an array, each on its own. -/
def prettyItems (depth : Nat) : List Json → List (List Char)
  | [] => []
  | item :: rest => writePretty depth item :: prettyItems depth rest

/-- The members of an object, each on its own. -/
def prettyMembers (depth : Nat) : List (Option String × Json) → List (List Char)
  | [] => []
  | (name, item) :: rest =>
    (writeName name ++ ':' :: ' ' :: writePretty depth item) :: prettyMembers depth rest

end

/-- A value as one line without blanks. -/
def compact (value : Json) : String :=
  String.ofList value.writeCompact

/-- A value with one element a line. -/
def pretty (value : Json) : String :=
  String.ofList (value.writePretty 0)

end BuildYard.Json
