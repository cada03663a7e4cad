import BuildYard.Toml.Scalar

/-!
# TOML documents

A document is read line by line into a tree of tables. The tree remembers how
each table came to be, because that decides who may add to it: a table with a
header of its own is closed to dotted keys, a table that dotted keys made is
closed to headers, and a table that only lies on the way to another may get a
header once. A value, an inline table among them, is closed to everyone.

Values nest to a depth below `Toml.maxDepth`, and a dotted key has fewer parts
than that.
-/

set_option autoImplicit false

namespace BuildYard.Toml

/-- The depth that values may not reach. -/
def maxDepth : Nat := 80

/-- How a table came to be. -/
inductive Origin where
  /-- it has a header, or is the whole document -/
  | declared
  /-- it lies on the way to a table with a header -/
  | implied
  /-- dotted keys made it -/
  | dotted
  deriving DecidableEq, Repr

/-- What stands under a key while a document is read. -/
inductive Node where
  /-- a value, closed to additions -/
  | value (v : Toml)
  | table (origin : Origin) (entries : List (String × Node))
  /-- the tables of one array, in order -/
  | tables (items : List (List (String × Node)))

/-- The entries of a table while a document is read. -/
abbrev Entries := List (String × Node)

namespace Entries

/-- What stands under `key`. -/
def find (key : String) (entries : Entries) : Option Node :=
  (List.find? (fun entry => entry.1 == key) entries).map (·.2)

/-- The entries with `node` under `key`, which is there already. -/
def replace (key : String) (node : Node) (entries : Entries) : Entries :=
  entries.map fun entry => if entry.1 == key then (key, node) else entry

/-- Changes the table at a path, making the tables on the way that are missing.
`byDots` tells dotted keys from headers. -/
def edit (byDots : Bool) (change : Origin → Entries → Option Entries) :
    List String → Origin → Entries → Option Entries
  | [], origin, entries => change origin entries
  | key :: path, _, entries =>
    match entries.find key with
    | none =>
      let origin : Origin := if byDots then .dotted else .implied
      (edit byDots change path origin []).map fun inner => entries ++ [(key, .table origin inner)]
    | some (.value _) => none
    | some (.table origin inner) =>
      if byDots && origin == .declared then none
      else
        (edit byDots change path origin inner).map fun inner =>
          entries.replace key (.table origin inner)
    | some (.tables items) =>
      match items.getLast? with
      | none => none
      | some last =>
        (edit byDots change path .declared last).map fun last =>
          entries.replace key (.tables (items.dropLast ++ [last]))

/-- Adds a value under a dotted key; a key is set once, and only in a table that
dotted keys made or, without dots, in one that they did not. -/
def put (path : List String) (key : String) (v : Toml) (entries : Entries) : Option Entries :=
  edit true
    (fun origin entries =>
      if (origin == .dotted) == path.isEmpty then none
      else if (entries.find key).isSome then none
      else some (entries ++ [(key, .value v)]))
    path .declared entries

/-- Opens the table that a header names. -/
def openTable (path : List String) (key : String) (entries : Entries) : Option Entries :=
  edit false
    (fun _ entries =>
      match entries.find key with
      | none => some (entries ++ [(key, .table .declared [])])
      | some (.table .implied inner) => some (entries.replace key (.table .declared inner))
      | some _ => none)
    path .declared entries

/-- Opens one more table of the array that a header names. -/
def openItem (path : List String) (key : String) (entries : Entries) : Option Entries :=
  edit false
    (fun _ entries =>
      match entries.find key with
      | none => some (entries ++ [(key, .tables [[]])])
      | some (.tables items) => some (entries.replace key (.tables (items ++ [[]])))
      | some _ => none)
    path .declared entries

/-- Adds a value under a dotted key inside the table that a header opened. -/
def putIn (header path : List String) (key : String) (v : Toml) (entries : Entries) :
    Option Entries :=
  edit false (fun _ inner => put path key v inner) header .declared entries

end Entries

mutual

/-- The value that a node has become. -/
def Node.toValue : Node → Toml
  | .value v => v
  | .table _ entries => .table (Node.entryValues entries)
  | .tables items => .array (Node.itemValues items)

/-- The values of the entries of a table. -/
def Node.entryValues : List (String × Node) → List (String × Toml)
  | [] => []
  | (key, node) :: rest => (key, node.toValue) :: Node.entryValues rest

/-- The tables of an array. -/
def Node.itemValues : List (List (String × Node)) → List Toml
  | [] => []
  | entries :: rest => .table (Node.entryValues entries) :: Node.itemValues rest

end

namespace Reader

/-- Characters of a key without quotes. -/
def isBareChar (c : Char) : Bool :=
  c.isAlphanum || c == '_' || c == '-'

/-- One part of a key. -/
def keyPart : Reader String := fun cs =>
  match cs with
  | '\x22' :: _ | '\x27' :: _ => lineText cs
  | _ =>
    let run := cs.takeWhile isBareChar
    if run.isEmpty then none else some (String.ofList run, cs.dropWhile isBareChar)

/-- The parts of a dotted key, blanks around each allowed. -/
def keyParts (fuel : Nat) : Reader (List String) := fun cs =>
  match fuel with
  | 0 => none
  | fuel + 1 =>
    match keyPart (skipSpace cs) with
    | none => none
    | some (part, rest) =>
      match skipSpace rest with
      | '.' :: more => (keyParts fuel more).map fun (parts, rest) => (part :: parts, rest)
      | rest => some ([part], rest)

/-- A dotted key: the parts in front and the last one. -/
def key : Reader (List String × String) := fun cs =>
  (keyParts (cs.length + 1) cs).bind fun (parts, rest) =>
    if maxDepth ≤ parts.length then none
    else parts.getLast?.map fun last => ((parts.dropLast, last), rest)

/-- A text without the comment in front, if there is one. -/
def skipComment (cs : List Char) : List Char :=
  match cs with
  | '#' :: rest => rest.dropWhile isCommentChar
  | _ => cs

/-- Blanks, comments and line breaks between the elements of an array. -/
def skipGaps (fuel : Nat) (cs : List Char) : List Char :=
  match fuel with
  | 0 => cs
  | fuel + 1 =>
    match newline (skipComment (skipSpace cs)) with
    | some ((), rest) => skipGaps fuel rest
    | none => skipSpace cs

/-- Blanks, comments and line breaks, as many as there are. -/
def skipAllGaps (cs : List Char) : List Char :=
  skipGaps (cs.length + 1) cs

/-- The elements of an array up to its closing bracket; `read` is reversed. -/
def arrayTail (element : Reader Toml) (fuel : Nat) (read : List Toml) : Reader Toml := fun cs =>
  match fuel with
  | 0 => none
  | fuel + 1 =>
    match skipAllGaps cs with
    | ']' :: rest => some (.array read.reverse, rest)
    | inside =>
      match element inside with
      | none => none
      | some (item, rest) =>
        match skipAllGaps rest with
        | ',' :: more => arrayTail element fuel (item :: read) more
        | ']' :: more => some (.array (item :: read).reverse, more)
        | _ => none

/-- The entries of an inline table up to its closing brace. -/
def inlineTail (element : Reader Toml) (fuel : Nat) (entries : Entries) : Reader Toml := fun cs =>
  match fuel with
  | 0 => none
  | fuel + 1 =>
    match key cs with
    | none => none
    | some ((path, last), rest) =>
      match rest with
      | '=' :: after =>
        match element (skipSpace after) with
        | none => none
        | some (item, rest) =>
          match entries.put path last item with
          | none => none
          | some entries =>
            match skipSpace rest with
            | ',' :: more => inlineTail element fuel entries more
            | '\x7d' :: more => some (.table (Node.entryValues entries), more)
            | _ => none
      | _ => none

/-- A value that nests to less than `depth` levels. -/
def value (depth : Nat) : Reader Toml := fun cs =>
  match cs with
  | '\x22' :: _ | '\x27' :: _ => (quotedText cs).map fun (s, rest) => (.text s, rest)
  | '[' :: rest =>
    match depth with
    | 0 => none
    | depth + 1 => arrayTail (value depth) (rest.length + 1) [] rest
  | '\x7b' :: rest =>
    match depth with
    | 0 => none
    | depth + 1 =>
      match skipSpace rest with
      | '\x7d' :: more => some (.table [], more)
      | inside => inlineTail (value depth) (inside.length + 1) [] inside
  | 't' :: 'r' :: 'u' :: 'e' :: rest => some (.bool true, rest)
  | 'f' :: 'a' :: 'l' :: 's' :: 'e' :: rest => some (.bool false, rest)
  | cs => numeric cs

/-- The end of a line: blanks, perhaps a comment, then a line break or the end of
the document. -/
def lineEnd (cs : List Char) : Option (List Char) :=
  match skipComment (skipSpace cs) with
  | [] => some []
  | rest => (newline rest).map (·.2)

/-- One line that says something. -/
inductive Line where
  | header (path : List String) (key : String)
  | itemHeader (path : List String) (key : String)
  | entry (path : List String) (key : String) (v : Toml)

/-- A line that is neither blank nor a comment. -/
def line : Reader Line := fun cs =>
  match cs with
  | '[' :: '[' :: rest =>
    (key rest).bind fun ((path, last), rest) =>
      match rest with
      | ']' :: ']' :: more => some (.itemHeader path last, more)
      | _ => none
  | '[' :: rest =>
    (key rest).bind fun ((path, last), rest) =>
      match rest with
      | ']' :: more => some (.header path last, more)
      | _ => none
  | cs =>
    (key cs).bind fun ((path, last), rest) =>
      match rest with
      | '=' :: more =>
        (value (maxDepth - 1) (skipSpace more)).map fun (v, rest) => (.entry path last v, rest)
      | _ => none

/-- The lines of a document; `header` is the path of the table that was opened last. -/
def lines (fuel : Nat) (header : List String) (entries : Entries) (cs : List Char) :
    Option Entries :=
  match fuel with
  | 0 => none
  | fuel + 1 =>
    match skipSpace cs with
    | [] => some entries
    | '#' :: rest => (lineEnd ('#' :: rest)).bind (lines fuel header entries)
    | inside =>
      match newline inside with
      | some ((), rest) => lines fuel header entries rest
      | none =>
        match line inside with
        | none => none
        | some (found, rest) =>
          match lineEnd rest with
          | none => none
          | some rest =>
            match found with
            | .header path key =>
              match entries.openTable path key with
              | some entries => lines fuel (path ++ [key]) entries rest
              | none => none
            | .itemHeader path key =>
              match entries.openItem path key with
              | some entries => lines fuel (path ++ [key]) entries rest
              | none => none
            | .entry path key v =>
              match entries.putIn header path key v with
              | some entries => lines fuel header entries rest
              | none => none

end Reader

/-- A text without the mark of byte order in front. -/
def dropByteOrderMark (cs : List Char) : List Char :=
  match cs with
  | c :: rest => if c.toNat = 0xFEFF then rest else cs
  | [] => []

/-- The table that a document is. -/
def read? (text : String) : Option (List (String × Toml)) :=
  let cs := dropByteOrderMark text.toList
  (Reader.lines (cs.length + 2) [] [] cs).map Node.entryValues

end BuildYard.Toml
