import BuildYard.Json.Value
import BuildYard.Text.Blank

/-!
# Reading JSON

`Json.read?` accepts one value with blanks around it and nothing else. Each
step of the reader returns what is left, so the depth of nesting and the
number of elements are bounded by the length of the text; that bound is the
fuel, and no caller sees it. A reader that cannot go on tells whether the text
only stopped too early or is no JSON whatever may follow.
-/

set_option autoImplicit false

namespace BuildYard.Json

/-- Why a text is no value. -/
inductive Halt where
  /-- the text stops inside a value -/
  | unfinished
  /-- no continuation makes it a value -/
  | malformed
  deriving DecidableEq, Repr

/-- A reader takes a value off the front of a text. -/
abbrev Reader (α : Type) := List Char → Except Halt (α × List Char)

namespace Reader

/-- The blanks that JSON allows between its parts. -/
def isGap (c : Char) : Bool :=
  c == ' ' || c == '\t' || c == '\n' || c == '\r'

/-- A text without the blanks in front. -/
def skipGap (cs : List Char) : List Char :=
  cs.dropWhile isGap

/-- The number of four digits in base sixteen. -/
def unit : Reader Nat
  | a :: b :: c :: d :: rest =>
    match Text.nat? 16 [a, b, c, d] with
    | some n => .ok (n, rest)
    | none => .error .malformed
  | _ => .error .unfinished

/-- Whether a unit of UTF-16 opens a pair. -/
def isHigh (n : Nat) : Bool := 0xD800 ≤ n && n ≤ 0xDBFF

/-- Whether a unit of UTF-16 closes a pair. -/
def isLow (n : Nat) : Bool := 0xDC00 ≤ n && n ≤ 0xDFFF

/-- The character of a pair of units. -/
def pairChar (high low : Nat) : Char :=
  Char.ofNat (0x10000 + (high - 0xD800) * 0x400 + (low - 0xDC00))

/-- The character of an escape of one letter. -/
def escape? (c : Char) : Option Char :=
  match c with
  | '\x22' => some '\x22'
  | '\\' => some '\\'
  | '/' => some '/'
  | 'b' => some '\x08'
  | 'f' => some '\x0c'
  | 'n' => some '\n'
  | 'r' => some '\r'
  | 't' => some '\t'
  | _ => none

/-- The rest of a quoted text after its opening quote. `read` holds its characters,
last first, and is `none` once half of a pair was met. -/
def quoted (fuel : Nat) (read : Option (List Char)) : Reader (Option String) := fun cs =>
  match fuel, cs with
  | 0, _ | _, [] => .error .unfinished
  | fuel + 1, c :: rest =>
    if c = '\x22' then .ok (read.map fun r => String.ofList r.reverse, rest)
    else if c.toNat < 0x20 then .error .malformed
    else if c = '\\' then
      match rest with
      | 'u' :: digits =>
        match unit digits with
        | .error halt => .error halt
        | .ok (n, after) =>
          if isHigh n then
            match after with
            | '\\' :: 'u' :: more =>
              match unit more with
              | .error halt => .error halt
              | .ok (low, after') =>
                if isLow low then quoted fuel (read.map (pairChar n low :: ·)) after'
                else quoted fuel none after
            | _ => quoted fuel none after
          else if isLow n then quoted fuel none after
          else quoted fuel (read.map (Char.ofNat n :: ·)) after
      | e :: after =>
        match escape? e with
        | some ch => quoted fuel (read.map (ch :: ·)) after
        | none => .error .malformed
      | [] => .error .unfinished
    else quoted fuel (read.map (c :: ·)) rest

/-- A quoted text, or `none` inside for one with half of a pair. -/
def quotedText : Reader (Option String)
  | '\x22' :: rest => quoted (rest.length + 1) (some []) rest
  | [] => .error .unfinished
  | _ => .error .malformed

/-- A non-empty run of decimal digits. -/
def digits : Reader (List Char) := fun cs =>
  let run := cs.takeWhile Char.isDigit
  if run.isEmpty then .error (if cs.isEmpty then .unfinished else .malformed)
  else .ok (run, cs.dropWhile Char.isDigit)

/-- The integer part of a number: no zero in front of another digit. -/
def whole : Reader (List Char)
  | '0' :: rest =>
    match rest with
    | c :: _ => if c.isDigit then .error .malformed else .ok (['0'], rest)
    | [] => .ok (['0'], [])
  | cs => digits cs

/-- A fraction, if one follows. -/
def fraction : Reader (List Char)
  | '.' :: rest => (digits rest).map fun (run, after) => ('.' :: run, after)
  | cs => .ok ([], cs)

/-- An exponent, if one follows. -/
def exponent : Reader (List Char)
  | c :: rest =>
    if c = 'e' || c = 'E' then
      match rest with
      | s :: more =>
        if s = '+' || s = '-' then
          (digits more).map fun (run, after) => (c :: s :: run, after)
        else (digits rest).map fun (run, after) => (c :: run, after)
      | [] => .error .unfinished
    else .ok ([], c :: rest)
  | [] => .ok ([], [])

/-- A number without its sign. -/
def unsigned : Reader (List Char) := fun cs =>
  match whole cs with
  | .error halt => .error halt
  | .ok (w, after) =>
    match fraction after with
    | .error halt => .error halt
    | .ok (f, after) => (exponent after).map fun (e, rest) => (w ++ f ++ e, rest)

/-- A number as it is written. -/
def number : Reader (List Char)
  | '-' :: rest => (unsigned rest).map fun (run, after) => ('-' :: run, after)
  | cs => unsigned cs

/-- The text after `word`, if it begins with it. -/
def after (word : List Char) (cs : List Char) : Except Halt (List Char) :=
  match word, cs with
  | [], rest => .ok rest
  | _ :: _, [] => .error .unfinished
  | w :: word, c :: cs => if w = c then after word cs else .error .malformed

mutual

/-- A value after the blanks in front of it. -/
def value (fuel : Nat) : Reader Json := fun cs =>
  match fuel with
  | 0 => .error .malformed
  | fuel + 1 =>
    match skipGap cs with
    | '\x22' :: rest =>
      (quoted (rest.length + 1) (some []) rest).map fun (s, after) =>
        (match s with | some s => .text s | none => .broken, after)
    | '[' :: rest =>
      match skipGap rest with
      | ']' :: after => .ok (.array [], after)
      | inside => elements fuel [] inside
    | '\x7b' :: rest =>
      match skipGap rest with
      | '\x7d' :: after => .ok (.object [], after)
      | inside => members fuel [] inside
    | 'n' :: rest => (after ['u', 'l', 'l'] rest).map (.null, ·)
    | 't' :: rest => (after ['r', 'u', 'e'] rest).map (.bool true, ·)
    | 'f' :: rest => (after ['a', 'l', 's', 'e'] rest).map (.bool false, ·)
    | cs => (number cs).map fun (run, after) => (.number run, after)
termination_by 2 * fuel

/-- The elements of an array up to its closing bracket; `read` holds the earlier
ones, last first. -/
def elements (fuel : Nat) (read : List Json) : Reader Json := fun cs =>
  match fuel with
  | 0 => .error .malformed
  | fuel + 1 =>
    match value fuel cs with
    | .error halt => .error halt
    | .ok (item, after) =>
      match skipGap after with
      | ']' :: rest => .ok (.array (item :: read).reverse, rest)
      | ',' :: rest => elements fuel (item :: read) rest
      | [] => .error .unfinished
      | _ => .error .malformed
termination_by 2 * fuel + 1

/-- The members of an object up to its closing brace. -/
def members (fuel : Nat) (read : List (Option String × Json)) : Reader Json := fun cs =>
  match fuel with
  | 0 => .error .malformed
  | fuel + 1 =>
    match quotedText (skipGap cs) with
    | .error halt => .error halt
    | .ok (name, after) =>
      match skipGap after with
      | ':' :: rest =>
        match value fuel rest with
        | .error halt => .error halt
        | .ok (item, after) =>
          match skipGap after with
          | '\x7d' :: rest => .ok (.object ((name, item) :: read).reverse, rest)
          | ',' :: rest => members fuel ((name, item) :: read) rest
          | [] => .error .unfinished
          | _ => .error .malformed
      | [] => .error .unfinished
      | _ => .error .malformed
termination_by 2 * fuel + 1

end

end Reader

/-- A value off the front of a text, and what follows it. -/
def readFirst : Reader Json := fun cs =>
  Reader.value (2 * cs.length + 2) cs

/-- The value a text is, blanks around it allowed, or why it is none. -/
def read (s : String) : Except Halt Json :=
  match readFirst s.toList with
  | .ok (found, rest) =>
    if (Reader.skipGap rest).isEmpty then .ok found else .error .malformed
  | .error halt => .error halt

/-- The value a text is, blanks around it allowed. -/
def read? (s : String) : Option Json :=
  (read s).toOption

end BuildYard.Json
