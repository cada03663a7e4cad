/-!
# Blanks, case and pieces of text

`isBlank` is the Unicode property White_Space. `fold` lower-cases as far as a
comparison with words of ASCII letters can tell: besides the letters A to Z it
knows the two characters whose lower case begins with an ASCII letter.
-/

set_option autoImplicit false

namespace BuildYard.Text

/-- The characters of the property White_Space. -/
def isBlank (c : Char) : Bool :=
  let n := c.toNat
  (9 ≤ n && n ≤ 13) || n == 0x20 || n == 0x85 || n == 0xA0 || n == 0x1680 ||
    (0x2000 ≤ n && n ≤ 0x200A) || n == 0x2028 || n == 0x2029 || n == 0x202F || n == 0x205F ||
    n == 0x3000

/-- A list without its longest tail of elements that satisfy `p`. -/
def dropLastWhile {α : Type} (p : α → Bool) (cs : List α) : List α :=
  (cs.reverse.dropWhile p).reverse

/-- Characters without the blanks at both ends. -/
def strip (cs : List Char) : List Char :=
  dropLastWhile isBlank (cs.dropWhile isBlank)

/-- A text without the blanks at both ends. -/
def trim (s : String) : String :=
  String.ofList (strip s.toList)

/-- A text without the blanks at its end. -/
def trimEnd (s : String) : String :=
  String.ofList (dropLastWhile isBlank s.toList)

/-- The lower case of a character: U+0130 becomes an i and a combining dot, the
Kelvin sign becomes k; a character outside ASCII otherwise stays outside. -/
def foldChar (c : Char) : List Char :=
  if c.toNat == 0x130 then ['i', Char.ofNat 0x307]
  else if c.toNat == 0x212A then ['k']
  else [c.toLower]

/-- A text in lower case, for comparison with ASCII words. -/
def fold (cs : List Char) : List Char :=
  cs.flatMap foldChar

/-- Whether `part` occurs in `cs` in one piece. -/
def contains (part : List Char) : List Char → Bool
  | [] => part.isEmpty
  | c :: cs => part.isPrefixOf (c :: cs) || contains part cs

/-- The pieces between the characters that satisfy `p`; one more than those characters. -/
def splitOn (p : Char → Bool) : List Char → List (List Char)
  | [] => [[]]
  | c :: cs =>
    match splitOn p cs with
    | [] => [[c]]
    | piece :: rest => if p c then [] :: piece :: rest else (c :: piece) :: rest

/-- The parts before and after the first `mark`. -/
def splitFirst? (mark : Char) : List Char → Option (List Char × List Char)
  | [] => none
  | c :: cs =>
    if c = mark then some ([], cs)
    else (splitFirst? mark cs).map fun (before, after) => (c :: before, after)

/-- The parts before and after the last `mark`. -/
def splitLast? (mark : Char) : List Char → Option (List Char × List Char)
  | [] => none
  | c :: cs =>
    match splitLast? mark cs with
    | some (before, after) => some (c :: before, after)
    | none => if c = mark then some ([], cs) else none

/-- The lines of a text: each ends with a line feed, which may be left out at the
end; a carriage return before it belongs to the line end. -/
def lines (s : String) : List String :=
  let pieces := splitOn (· == '\n') s.toList
  let ended := pieces.dropLast.map fun piece =>
    String.ofList (if piece.getLast? == some '\r' then piece.dropLast else piece)
  match pieces.getLast? with
  | some [] | none => ended
  | some last => ended ++ [String.ofList last]

/-- Texts joined with `between` in each gap. -/
def join (between : String) (parts : List String) : String :=
  String.intercalate between parts

end BuildYard.Text
