/-!
# The text of shell commands

A line of shell commands is a list of commands, each with what has to have
happened before it for it to run. A command has words and says where its
output goes. Words are made of pieces: characters, and values that are only
known when the command runs. Reading is one walk over the characters, from
place to place; what the small shell of a rehearsal does not know, such as
pipes, makes the whole text unreadable.
-/

set_option autoImplicit false

namespace BuildYard.Rehearsal.Shell

/-- A piece of a word. -/
inductive Piece where
  | text (cs : List Char)
  /-- the value of a variable or a parameter; unless quoted it is split at blanks -/
  | value (name : String) (quoted : Bool)
  deriving DecidableEq, Repr

/-- A word as it is written. A quoted one stays a word if it is empty. -/
structure Word where
  pieces : List Piece := []
  quoted : Bool := false
  deriving DecidableEq, Repr

namespace Word

/-- A word with more characters at its end. -/
def add (word : Word) (cs : List Char) : Word :=
  { word with pieces := word.pieces ++ [.text cs] }

/-- A word with a value at its end. -/
def addValue (word : Word) (name : String) (quoted : Bool) : Word :=
  { word with pieces := word.pieces ++ [.value name quoted] }

/-- The number of a stream, if the word is one digit. -/
def stream? (word : Word) : Option Nat :=
  match word.quoted, word.pieces with
  | false, [.text ['0']] => some 0
  | false, [.text ['1']] => some 1
  | false, [.text ['2']] => some 2
  | _, _ => none

end Word

/-- A part of a line. -/
inductive Token where
  | word (word : Word)
  /-- the end of a command -/
  | next
  /-- what follows runs if what is before it was successful -/
  | andThen
  /-- what follows runs if what is before it was not successful -/
  | orElse
  /-- a stream goes where another one goes -/
  | join (stream target : Nat)
  /-- a stream goes to the file that the next word names -/
  | file (stream : Nat)
  deriving DecidableEq, Repr

/-- Where in a line the reader stands. -/
inductive Place where
  | plain
  | single
  | double
  | comment
  /-- in a name after a dollar sign -/
  | name (cs : List Char) (braced quoted : Bool)
  deriving DecidableEq, Repr

/-- Whether a character may stand in the name of a variable. -/
def isNameChar (c : Char) : Bool :=
  c.isAlphanum || c == '_'

/-- Whether a character alone names a parameter. -/
def isParameter (c : Char) : Bool :=
  c.isDigit || c == '$' || c == '?' || c == '#' || c == '@' || c == '*'

/-- The token for a word, if one was begun. -/
def flushed (word : Option Word) : List Token :=
  (word.map Token.word).toList

/-- The stream that a redirection is about, and the word in front of it if that is none. -/
def streamBefore (word : Option Word) : Nat × List Token :=
  match word.bind Word.stream? with
  | some stream => (stream, [])
  | none => (1, flushed word)

/-- The tokens of a line from a place on, `word` being the word begun so far; `none` for
what is not known here. -/
def tokens (word : Option Word) : Place → List Char → Option (List Token)
  | .plain, [] => some (flushed word)
  | .comment, [] => some []
  | .name cs false quoted, [] =>
    if quoted then none
    else some (flushed (some ((word.getD {}).addValue (String.ofList cs) quoted)))
  | _, [] => none
  | .comment, c :: rest =>
    if c = '\n' then (tokens none .plain rest).map (.next :: ·) else tokens none .comment rest
  | .single, c :: rest =>
    if c = '\x27' then tokens word .plain rest
    else tokens (some ((word.getD {}).add [c])) .single rest
  | .name cs braced quoted, c :: rest =>
    let after : Place := if quoted then .double else .plain
    let named := (word.getD {}).addValue (String.ofList cs) quoted
    if isNameChar c then tokens word (.name (cs ++ [c]) braced quoted) rest
    else if braced then
      if c = '\x7d' then tokens (some named) after rest else none
    else if quoted && c = '\x22' then tokens (some named) .plain rest
    else if quoted then tokens (some (named.add [c])) .double rest
    else if c = ' ' || c = '\t' then (tokens none .plain rest).map (.word named :: ·)
    else if c = ';' || c = '\n' then (tokens none .plain rest).map ([.word named, .next] ++ ·)
    else if c = '/' || c = '.' || c = ':' || c = '=' || c = '-' || c = ',' then
      tokens (some (named.add [c])) .plain rest
    else none
  | .double, '\\' :: c :: rest =>
    let kept := if c = '\x22' || c = '\\' || c = '$' then [c] else ['\\', c]
    tokens (some ((word.getD {}).add kept)) .double rest
  | .double, '$' :: '\x7b' :: rest => tokens word (.name [] true true) rest
  | .double, '$' :: c :: rest =>
    if isParameter c then
      tokens (some ((word.getD {}).addValue (String.singleton c) true)) .double rest
    else if isNameChar c then tokens word (.name [c] false true) rest
    else if c = '\x22' then tokens (some ((word.getD {}).add ['$'])) .plain rest
    else tokens (some ((word.getD {}).add ['$', c])) .double rest
  | .double, c :: rest =>
    if c = '\x22' then tokens word .plain rest
    else if c = '\x60' then none
    else tokens (some ((word.getD {}).add [c])) .double rest
  | .plain, '\\' :: c :: rest => tokens (some ((word.getD {}).add [c])) .plain rest
  | .plain, '$' :: '\x7b' :: rest => tokens word (.name [] true false) rest
  | .plain, '$' :: c :: rest =>
    if isParameter c then
      tokens (some ((word.getD {}).addValue (String.singleton c) false)) .plain rest
    else if isNameChar c then tokens word (.name [c] false false) rest
    else none
  | .plain, '&' :: '&' :: rest =>
    (tokens none .plain rest).map (flushed word ++ [.andThen] ++ ·)
  | .plain, '|' :: '|' :: rest =>
    (tokens none .plain rest).map (flushed word ++ [.orElse] ++ ·)
  | .plain, '>' :: '&' :: '1' :: rest =>
    let (stream, before) := streamBefore word
    (tokens none .plain rest).map (before ++ [.join stream 1] ++ ·)
  | .plain, '>' :: '&' :: '2' :: rest =>
    let (stream, before) := streamBefore word
    (tokens none .plain rest).map (before ++ [.join stream 2] ++ ·)
  | .plain, c :: rest =>
    if c = ' ' || c = '\t' then (tokens none .plain rest).map (flushed word ++ ·)
    else if c = ';' || c = '\n' then
      (tokens none .plain rest).map (flushed word ++ [.next] ++ ·)
    else if c = '\x27' then tokens (some { word.getD {} with quoted := true }) .single rest
    else if c = '\x22' then tokens (some { word.getD {} with quoted := true }) .double rest
    else if c = '#' && word.isNone then tokens none .comment rest
    else if c = '>' then
      let (stream, before) := streamBefore word
      (tokens none .plain rest).map (before ++ [.file stream] ++ ·)
    else if c = '|' || c = '&' || c = '<' || c = '(' || c = ')' || c = '\x60' then none
    else tokens (some ((word.getD {}).add [c])) .plain rest

/-- What has to have happened for a command to run. -/
inductive When where
  | always
  | success
  | failure
  deriving DecidableEq, Repr

/-- Where a stream is sent. -/
inductive Target where
  | stream (number : Nat)
  | file (word : Word)
  deriving DecidableEq, Repr

/-- A command as it is written. -/
structure Command where
  condition : When
  words : List Word := []
  /-- where streams go, in the order in which it is written -/
  redirections : List (Nat × Target) := []
  deriving DecidableEq, Repr

/-- The commands of a line, `command` being the one begun so far. -/
def commands (command : Command) : List Token → Option (List Command)
  | [] => some [command]
  | .word word :: rest => commands { command with words := command.words ++ [word] } rest
  | .next :: rest => (commands { condition := .always } rest).map (command :: ·)
  | .andThen :: rest => (commands { condition := .success } rest).map (command :: ·)
  | .orElse :: rest => (commands { condition := .failure } rest).map (command :: ·)
  | .join stream target :: rest =>
    commands { command with redirections := command.redirections ++ [(stream, .stream target)] }
      rest
  | .file stream :: .word word :: rest =>
    commands { command with redirections := command.redirections ++ [(stream, .file word)] } rest
  | .file _ :: _ => none

/-- The commands of a text. -/
def read? (text : String) : Option (List Command) :=
  (tokens none .plain text.toList).bind (commands { condition := .always })

end BuildYard.Rehearsal.Shell
