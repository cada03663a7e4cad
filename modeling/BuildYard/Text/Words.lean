/-!
# Splitting a line into words

A line is split the way a POSIX shell splits a command without expansions:
blanks separate words, quotes and backslashes protect characters, and a word
that begins with a number sign starts a comment that reaches to the end of
the line. The reader is a walk over the characters with a `Place` that says
what protects the next one.
-/

set_option autoImplicit false

namespace BuildYard.Text.Words

/-- Where in a line the reader stands. -/
inductive Place where
  /-- between words -/
  | between
  /-- after a backslash between words -/
  | betweenEscaped
  /-- inside a word, unprotected -/
  | word
  /-- after a backslash inside a word -/
  | wordEscaped
  /-- inside single quotes -/
  | single
  /-- inside double quotes -/
  | double
  /-- after a backslash inside double quotes -/
  | doubleEscaped
  /-- inside a comment -/
  | comment
  deriving DecidableEq, Repr

/-- Whether `c` separates words. -/
def isSeparator (c : Char) : Bool :=
  c == ' ' || c == '\t' || c == '\n'

/-- Where an unprotected quote or backslash leads; `plain` for any other
character, `escaped` for the backslash. -/
def Place.opening (c : Char) (escaped plain : Place) : Place :=
  if c = '\x27' then .single
  else if c = '\x22' then .double
  else if c = '\\' then escaped
  else plain

/-- Whether `c` opens a quotation or is a backslash, so that it is no part of the word. -/
def isSpecial (c : Char) : Bool :=
  c == '\x27' || c == '\x22' || c == '\\'

/-- Whether a backslash inside double quotes protects `c`. -/
def isProtectable (c : Char) : Bool :=
  c == '$' || c == '\x60' || c == '\x22' || c == '\\'

/-- The words from `place` on; `word` holds the characters of the current one,
last first. `none` when a quotation stays open. -/
def read : Place → List Char → List Char → Option (List String)
  | .between, _, [] => some []
  | .betweenEscaped, word, [] => some [String.ofList ('\\' :: word).reverse]
  | .word, word, [] => some [String.ofList word.reverse]
  | .wordEscaped, word, [] => some [String.ofList ('\\' :: word).reverse]
  | .comment, _, [] => some []
  | .single, _, [] | .double, _, [] | .doubleEscaped, _, [] => none
  | .between, word, c :: cs =>
    if isSeparator c then read .between word cs
    else if c = '#' then read .comment word cs
    else if isSpecial c then read (.opening c .betweenEscaped .word) word cs
    else read .word (c :: word) cs
  | .betweenEscaped, word, c :: cs =>
    if c = '\n' then read .between word cs else read .word (c :: word) cs
  | .word, word, c :: cs =>
    if isSeparator c then (read .between [] cs).map (String.ofList word.reverse :: ·)
    else if isSpecial c then read (.opening c .wordEscaped .word) word cs
    else read .word (c :: word) cs
  | .wordEscaped, word, c :: cs =>
    if c = '\n' then read .word word cs else read .word (c :: word) cs
  | .single, word, c :: cs =>
    if c = '\x27' then read .word word cs else read .single (c :: word) cs
  | .double, word, c :: cs =>
    if c = '\x22' then read .word word cs
    else if c = '\\' then read .doubleEscaped word cs
    else read .double (c :: word) cs
  | .doubleEscaped, word, c :: cs =>
    if c = '\n' then read .double word cs
    else if isProtectable c then read .double (c :: word) cs
    else read .double (c :: '\\' :: word) cs
  | .comment, word, c :: cs =>
    if c = '\n' then read .between word cs else read .comment word cs

/-- The words of a line, or `none` when a quotation is not closed. -/
def split? (line : String) : Option (List String) :=
  read .between [] line.toList

/-- What is said of a line whose quotation is not closed. -/
def unclosed : String := "missing closing quote"

end BuildYard.Text.Words
