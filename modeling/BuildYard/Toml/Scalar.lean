import BuildYard.Toml.Value
import BuildYard.Text.Digits

/-!
# Scalars of TOML

Readers for the four kinds of quoted text, for numbers and for dates and
times. A reader takes its part off the front of a text; it refuses what the
grammar or the range of the value does not allow: a character that may only
be escaped, an escape of no character, an integer outside 64 bits, a fraction
above every double, a day that its month does not have.
-/

set_option autoImplicit false

namespace BuildYard.Toml

/-- A reader takes a value off the front of a text. -/
abbrev Reader (α : Type) := List Char → Option (α × List Char)

namespace Reader

/-- Blanks inside a line. -/
def isSpace (c : Char) : Bool :=
  c == ' ' || c == '\t'

/-- A text without the blanks in front, line breaks kept. -/
def skipSpace (cs : List Char) : List Char :=
  cs.dropWhile isSpace

/-- Whether `c` is outside ASCII. -/
def isForeign (c : Char) : Bool :=
  0x80 ≤ c.toNat

/-- Characters that may stand in a comment. -/
def isCommentChar (c : Char) : Bool :=
  c == '\t' || (0x20 ≤ c.toNat && c.toNat ≤ 0x7F) || isForeign c

/-- Characters that stand for themselves between double quotes. -/
def isBasicChar (c : Char) : Bool :=
  isSpace c || c.toNat == 0x21 || (0x23 ≤ c.toNat && c.toNat ≤ 0x5B) ||
    (0x5D ≤ c.toNat && c.toNat ≤ 0x7E) || isForeign c

/-- Characters that stand for themselves between single quotes. -/
def isLiteralChar (c : Char) : Bool :=
  c == '\t' || (0x20 ≤ c.toNat && c.toNat ≤ 0x26) || (0x28 ≤ c.toNat && c.toNat ≤ 0x7E) ||
    isForeign c

/-- A line break. -/
def newline : Reader Unit
  | '\n' :: rest => some ((), rest)
  | '\r' :: '\n' :: rest => some ((), rest)
  | _ => none

/-! ## Quoted texts -/

/-- The character with the code point that `n` digits spell. -/
def codePoint (n : Nat) : Reader Char := fun cs =>
  let digits := cs.take n
  if digits.length < n then none
  else
    (Text.nat? 16 digits).bind fun value =>
      if value < 0xD800 || (0xDFFF < value && value ≤ 0x10FFFF) then
        some (Char.ofNat value, cs.drop n)
      else none

/-- The character of an escape, after its backslash. -/
def escape : Reader Char
  | 'b' :: rest => some ('\x08', rest)
  | 't' :: rest => some ('\t', rest)
  | 'n' :: rest => some ('\n', rest)
  | 'f' :: rest => some ('\x0c', rest)
  | 'r' :: rest => some ('\r', rest)
  | '\x22' :: rest => some ('\x22', rest)
  | '\\' :: rest => some ('\\', rest)
  | 'u' :: rest => codePoint 4 rest
  | 'U' :: rest => codePoint 8 rest
  | _ => none

/-- The rest of a text between double quotes on one line; `read` is reversed. -/
def basicTail (fuel : Nat) (read : List Char) : Reader String := fun cs =>
  match fuel, cs with
  | 0, _ | _, [] => none
  | fuel + 1, c :: rest =>
    if c = '\x22' then some (String.ofList read.reverse, rest)
    else if c = '\\' then
      match escape rest with
      | some (ch, after) => basicTail fuel (ch :: read) after
      | none => none
    else if isBasicChar c then basicTail fuel (c :: read) rest
    else none

/-- The rest of a text between single quotes on one line. -/
def literalTail (read : List Char) : Reader String
  | [] => none
  | c :: rest =>
    if c = '\x27' then some (String.ofList read.reverse, rest)
    else if isLiteralChar c then literalTail (c :: read) rest
    else none

/-- How many times `quote` stands in a row at the front. -/
def run (quote : Char) (cs : List Char) : Nat :=
  (cs.takeWhile (· == quote)).length

/-- What a row of quotes inside a text of several lines means: up to two are part
of the text, three to five end it and give it the surplus, more are refused. -/
inductive QuoteRow where
  | inside (n : Nat)
  | ending (n : Nat)
  | refused

/-- The meaning of `n` quotes in a row. -/
def QuoteRow.ofCount (n : Nat) : QuoteRow :=
  if n < 3 then .inside n else if n < 6 then .ending (n - 3) else .refused

/-- Blanks and line breaks. -/
def skipLines (fuel : Nat) (cs : List Char) : List Char :=
  match fuel with
  | 0 => cs
  | fuel + 1 =>
    match newline (skipSpace cs) with
    | some ((), rest) => skipLines fuel rest
    | none => skipSpace cs

/-- The text after a backslash that joins two lines. -/
def joinedLines? (cs : List Char) : Option (List Char) :=
  (newline (skipSpace cs)).map fun ((), rest) => skipLines (rest.length + 1) rest

/-- The rest of a text of several lines between double quotes. -/
def multiBasicTail (fuel : Nat) (read : List Char) : Reader String := fun cs =>
  match fuel, cs with
  | 0, _ | _, [] => none
  | fuel + 1, c :: rest =>
    if c = '\x22' then
      let n := run c cs
      match QuoteRow.ofCount n with
      | .inside k => multiBasicTail fuel (List.replicate k c ++ read) (cs.drop k)
      | .ending k => some (String.ofList (List.replicate k c ++ read).reverse, cs.drop n)
      | .refused => none
    else if c = '\\' then
      match joinedLines? rest with
      | some after => multiBasicTail fuel read after
      | none =>
        match escape rest with
        | some (ch, after) => multiBasicTail fuel (ch :: read) after
        | none => none
    else
      match newline cs with
      | some ((), after) => multiBasicTail fuel ('\n' :: read) after
      | none => if isBasicChar c then multiBasicTail fuel (c :: read) rest else none

/-- The rest of a text of several lines between single quotes. -/
def multiLiteralTail (fuel : Nat) (read : List Char) : Reader String := fun cs =>
  match fuel, cs with
  | 0, _ | _, [] => none
  | fuel + 1, c :: rest =>
    if c = '\x27' then
      let n := run c cs
      match QuoteRow.ofCount n with
      | .inside k => multiLiteralTail fuel (List.replicate k c ++ read) (cs.drop k)
      | .ending k => some (String.ofList (List.replicate k c ++ read).reverse, cs.drop n)
      | .refused => none
    else
      match newline cs with
      | some ((), after) => multiLiteralTail fuel ('\n' :: read) after
      | none => if isLiteralChar c then multiLiteralTail fuel (c :: read) rest else none

/-- A text without the line break in front, if there is one. -/
def dropNewline (cs : List Char) : List Char :=
  match newline cs with
  | some ((), rest) => rest
  | none => cs

/-- A quoted text on one line. -/
def lineText : Reader String
  | '\x22' :: rest => basicTail (rest.length + 1) [] rest
  | '\x27' :: rest => literalTail [] rest
  | _ => none

/-- A quoted text of any kind. -/
def quotedText : Reader String
  | '\x22' :: '\x22' :: '\x22' :: rest =>
    multiBasicTail (rest.length + 1) [] (dropNewline rest)
  | '\x27' :: '\x27' :: '\x27' :: rest =>
    multiLiteralTail (rest.length + 1) [] (dropNewline rest)
  | cs => lineText cs

/-! ## Numbers -/

/-- Digits that satisfy `p`, single underscores between them, after at least one;
`read` is reversed. -/
def digitTail (p : Char → Bool) (read : List Char) : Reader (List Char)
  | '_' :: c :: rest =>
    if p c then digitTail p (c :: read) rest else some (read.reverse, '_' :: c :: rest)
  | c :: rest => if p c then digitTail p (c :: read) rest else some (read.reverse, c :: rest)
  | [] => some (read.reverse, [])

/-- A run of digits with single underscores between them. -/
def digitRun (p : Char → Bool) : Reader (List Char)
  | c :: rest => if p c then digitTail p [c] rest else none
  | [] => none

/-- The digits of the whole part: a zero stands alone. -/
def wholePart : Reader (List Char)
  | '0' :: rest => some (['0'], rest)
  | cs => digitRun Char.isDigit cs

/-- A sign, if there is one; `true` for a minus. -/
def sign : List Char → Bool × List Char
  | '-' :: rest => (true, rest)
  | '+' :: rest => (false, rest)
  | cs => (false, cs)

/-- An exponent: its sign and digits. -/
def exponent : Reader (Bool × List Char)
  | c :: rest =>
    if c = 'e' || c = 'E' then
      let (minus, after) := sign rest
      (digitRun Char.isDigit after).map fun (run, rest) => ((minus, run), rest)
    else none
  | [] => none

/-- The digits behind a point. -/
def pointPart : Reader (List Char)
  | '.' :: rest => digitRun Char.isDigit rest
  | _ => none

/-- Whether digits `whole.point` times ten to the power round to infinity as a double. -/
def isHuge (whole point : List Char) (exponent : Int) : Bool :=
  let significant := (whole ++ point).dropWhile (· == '0')
  let scale : Int := exponent - point.length
  let magnitude : Int := significant.length + scale
  if significant.isEmpty || magnitude < 308 then false
  else if 310 < magnitude then true
  else
    let value := (Text.nat? 10 significant).getD 0
    let limit := Nat.pow 2 1024 - Nat.pow 2 970
    if 0 ≤ scale then decide (limit ≤ value * Nat.pow 10 scale.toNat)
    else decide (limit * Nat.pow 10 (-scale).toNat ≤ value)

/-- The value of an exponent, cut off far outside the range of a double. -/
def exponentValue (minus : Bool) (digits : List Char) : Int :=
  let trimmed := digits.dropWhile (· == '0')
  let size : Nat := if 9 < trimmed.length then 1000000000 else (Text.nat? 10 trimmed).getD 0
  if minus then -(size : Int) else size

/-- A fraction: digits with a point part, an exponent part or both. -/
def fraction : Reader Toml := fun cs =>
  let (minus, after) := sign cs
  (wholePart after).bind fun (whole, rest) =>
    let finish (point : List Char) (power : Int) (rest : List Char) : Option (Toml × List Char) :=
      if !minus && isHuge whole point power then none else some (.fraction, rest)
    match exponent rest with
    | some ((down, run), rest) => finish [] (exponentValue down run) rest
    | none =>
      (pointPart rest).bind fun (point, rest) =>
        match exponent rest with
        | some ((down, run), rest) => finish point (exponentValue down run) rest
        | none => finish point 0 rest

/-- The two words for numbers that are none. -/
def special : Reader Toml := fun cs =>
  match (sign cs).2 with
  | 'i' :: 'n' :: 'f' :: rest => some (.fraction, rest)
  | 'n' :: 'a' :: 'n' :: rest => some (.fraction, rest)
  | _ => none

/-- An integer that fits into 64 signed bits. -/
def boundedInteger (n : Int) (rest : List Char) : Option (Toml × List Char) :=
  if Text.fitsInt64 n then some (.integer n, rest) else none

/-- Whether `c` is a digit in `base`. -/
def isDigitIn (base : Nat) (c : Char) : Bool :=
  match Text.digit? c with
  | some d => d < base
  | none => false

/-- The digits of an integer in base two, eight or sixteen. -/
def basedInteger (base : Nat) (cs : List Char) : Option (Toml × List Char) :=
  (digitRun (isDigitIn base) cs).bind fun (run, rest) =>
    (Text.nat? base run).bind fun n => boundedInteger n rest

/-- An integer: decimal with a sign, or with a base and without. -/
def integer : Reader Toml
  | '0' :: 'x' :: rest => basedInteger 16 rest
  | '0' :: 'o' :: rest => basedInteger 8 rest
  | '0' :: 'b' :: rest => basedInteger 2 rest
  | cs =>
    let (minus, after) := sign cs
    (wholePart after).bind fun (run, rest) =>
      (Text.nat? 10 run).bind fun n => boundedInteger (if minus then -(n : Int) else n) rest

/-! ## Dates and times -/

/-- The number of exactly `n` decimal digits. -/
def exactly (n : Nat) : Reader Nat := fun cs =>
  let run := cs.take n
  if run.length = n && run.all Char.isDigit then (Text.nat? 10 run).map (·, cs.drop n) else none

/-- Two digits between `low` and `high`. -/
def twoDigits (low high : Nat) : Reader Nat := fun cs =>
  (exactly 2 cs).bind fun (n, rest) => if low ≤ n && n ≤ high then some (n, rest) else none

/-- The character `c`. -/
def char (c : Char) : Reader Unit
  | d :: rest => if d = c then some ((), rest) else none
  | [] => none

/-- The number of days of a month. -/
def daysIn (year month : Nat) : Nat :=
  if month == 2 then
    if year % 4 == 0 && (year % 100 != 0 || year % 400 == 0) then 29 else 28
  else if month == 4 || month == 6 || month == 9 || month == 11 then 30
  else 31

/-- A date. -/
def date : Reader Unit := fun cs => do
  let (year, cs) ← exactly 4 cs
  let ((), cs) ← char '-' cs
  let (month, cs) ← twoDigits 1 12 cs
  let ((), cs) ← char '-' cs
  let (day, cs) ← twoDigits 1 31 cs
  if day ≤ daysIn year month then some ((), cs) else none

/-- A time of day; its second may be the sixtieth. -/
def time : Reader Unit := fun cs => do
  let (_, cs) ← twoDigits 0 23 cs
  let ((), cs) ← char ':' cs
  let (_, cs) ← twoDigits 0 59 cs
  let ((), cs) ← char ':' cs
  let (_, cs) ← twoDigits 0 60 cs
  match cs with
  | '.' :: c :: rest =>
    if c.isDigit then some ((), rest.dropWhile Char.isDigit) else none
  | '.' :: [] => none
  | _ => some ((), cs)

/-- The distance of a time from universal time. -/
def offset : Reader Unit
  | c :: rest =>
    if c = 'Z' || c = 'z' then some ((), rest)
    else if c = '+' || c = '-' then do
      let (_, cs) ← twoDigits 0 23 rest
      let ((), cs) ← char ':' cs
      let (_, cs) ← twoDigits 0 59 cs
      some ((), cs)
    else none
  | [] => none

/-- A date, a time, or a date with a time and perhaps its offset. -/
def moment : Reader Toml := fun cs =>
  match date cs with
  | some ((), rest) =>
    match rest with
    | c :: after =>
      if c = 'T' || c = 't' || c = ' ' then
        match time after with
        | some ((), rest) =>
          match offset rest with
          | some ((), rest) => some (.moment, rest)
          | none => some (.moment, rest)
        | none => some (.moment, rest)
      else some (.moment, rest)
    | [] => some (.moment, [])
  | none => (time cs).map fun ((), rest) => (.moment, rest)

/-- What begins like a number. -/
def numeric : Reader Toml := fun cs =>
  moment cs <|> fraction cs <|> special cs <|> integer cs

end Reader

end BuildYard.Toml
