import BuildYard.Bytes
import BuildYard.Error
import BuildYard.Path

/-!
# Trees of files

A tree of directories, files and symbolic links, and how a path is followed
in it: step by step from the root or from a directory, two points leading up,
a link leading wherever its target does. A step longer than a name may be, a
step below something that is no directory and a chain of too many links end
the walk with the system's error for it.
-/

set_option autoImplicit false

namespace BuildYard

/-- A file, a directory with its entries by name, or a link. -/
inductive FileTree where
  | file (mode : Nat) (data : Bytes)
  | directory (mode : Nat) (entries : List (String × FileTree))
  | link (target : String)
  deriving Inhabited

namespace FileTree

/-- The number of links that a walk may follow. -/
def maxLinks : Nat := 40

/-- The number of bytes that a name may have. -/
def maxName : Nat := 255

/-- The number of bytes that a path may have. -/
def maxPath : Nat := 4095

/-- The entry called `name`. -/
def child? (name : String) : FileTree → Option FileTree
  | directory _ entries => (entries.find? (·.1 == name)).map (·.2)
  | _ => none

/-- Whether it is a directory. -/
def isDirectory : FileTree → Bool
  | directory _ _ => true
  | _ => false

/-- Whether it is a regular file. -/
def isFile : FileTree → Bool
  | file _ _ => true
  | _ => false

/-- What lies below `tree` along names, no link followed. -/
def descend (tree : FileTree) : List String → Option FileTree
  | [] => some tree
  | name :: names => (tree.child? name).bind (·.descend names)

/-- The steps of a path; a closing slash asks for a directory like a point does. -/
def steps (path : String) : List String :=
  Path.pieces path ++ if path.endsWith "/" then ["."] else []

/-- Walks on from the directory `here`, given by its names from the root, and yields
the names of where the steps lead. `fuel` bounds steps and links together. -/
def walk (root : FileTree) (follow : Bool) (fuel links : Nat) (here : List String) :
    List String → Except IoError (List String)
  | [] => if (root.descend here).isSome then .ok here else .error .notFound
  | step :: more =>
    match fuel, root.descend here with
    | 0, _ => .error .tooManyLinks
    | _, none => .error .notFound
    | fuel + 1, some tree =>
      if !tree.isDirectory then .error .notDirectory
      else if step = "." then walk root follow fuel links here more
      else if step = ".." then walk root follow fuel links here.dropLast more
      else if maxName < step.utf8ByteSize then .error .nameTooLong
      else
        match tree.child? step with
        | none => .error .notFound
        | some (.link target) =>
          if more.isEmpty && !follow then .ok (here ++ [step])
          else if target.isEmpty then .error .notFound
          else
            match links with
            | 0 => .error .tooManyLinks
            | links + 1 =>
              let start := if Path.isAbsolute target then [] else here
              walk root follow fuel links start (steps target ++ more)
        | some _ => walk root follow fuel links (here ++ [step]) more
termination_by fuel

/-- The names from the root of where a path leads, seen from the directory `base`;
`follow` tells whether a link at its end is followed. -/
def locate (root : FileTree) (base : String) (follow : Bool) (path : String) :
    Except IoError (List String) :=
  if path.contains (Char.ofNat 0) then
    .error (.other "file name contained an unexpected NUL byte")
  else if path.isEmpty then .error .notFound
  else if maxPath < path.utf8ByteSize then .error .nameTooLong
  else
    let start := if Path.isAbsolute path then [] else Path.pieces base
    root.walk follow (maxPath * (maxLinks + 2)) maxLinks start (steps path)

/-- What a path leads to, seen from the directory `base`. -/
def find (root : FileTree) (base : String) (follow : Bool) (path : String) :
    Except IoError FileTree := do
  match root.descend (← root.locate base follow path) with
  | some tree => .ok tree
  | none => .error .notFound

/-- Whether a path leads to anything. -/
def present (root : FileTree) (base path : String) : Bool :=
  (root.find base true path).toBool

/-- Whether a path leads to a directory. -/
def directoryAt (root : FileTree) (base path : String) : Bool :=
  match root.find base true path with
  | .ok tree => tree.isDirectory
  | .error _ => false

/-- Whether a path leads to a regular file. -/
def fileAt (root : FileTree) (base path : String) : Bool :=
  match root.find base true path with
  | .ok tree => tree.isFile
  | .error _ => false

/-- The contents of the file that a path leads to. -/
def read (root : FileTree) (base path : String) : Except IoError Bytes := do
  match ← root.find base true path with
  | .file _ data => .ok data
  | .directory _ _ => .error .isDirectory
  | .link _ => .error .notFound

/-- The text of the file that a path leads to. -/
def readText (root : FileTree) (base path : String) : Except IoError String := do
  match Bytes.text? (← root.read base path) with
  | some text => .ok text
  | none => .error .notText

/-- Entries with one of them set, added at the end when it is new. -/
def setEntry (name : String) (tree : FileTree) (entries : List (String × FileTree)) :
    List (String × FileTree) :=
  if entries.any (·.1 == name) then
    entries.map fun entry => if entry.1 == name then (name, tree) else entry
  else entries ++ [(name, tree)]

/-- A tree with something put below it along names; directories on the way are made. -/
def insert (new : FileTree) : List String → FileTree → FileTree
  | [], _ => new
  | name :: names, directory mode entries =>
    let old := ((entries.find? (·.1 == name)).map (·.2)).getD (directory 0o755 [])
    directory mode (setEntry name (insert new names old) entries)
  | name :: names, _ => directory 0o755 [(name, insert new names (directory 0o755 []))]

/-- A tree with something put at a path, whose steps are taken as they are written. -/
def insertAt (root : FileTree) (path : String) (new : FileTree) : FileTree :=
  insert new (Path.parts path) root

/-- Where a file that is written to a path comes to lie, by names from the root; a link
at its end leads on to its target. -/
def placeFor (root : FileTree) (base : String) (links : Nat) (path : String) :
    Except IoError (List String) :=
  let names := Path.pieces path
  match names.getLast? with
  | none => .error .isDirectory
  | some name => do
    let start := if Path.isAbsolute path then [] else Path.pieces base
    let dir ← root.walk true (maxPath * (maxLinks + 2)) maxLinks start (names.dropLast ++ ["."])
    match (root.descend dir).bind (child? name) with
    | some (.link target) =>
      match links with
      | 0 => .error .tooManyLinks
      | links + 1 => placeFor root ("/" ++ Text.join "/" dir) links target
    | _ => .ok (dir ++ [name])
termination_by links

/-- The tree after a file was written to a path. -/
def write (root : FileTree) (base path : String) (data : Bytes) : Except IoError FileTree := do
  if path.isEmpty then throw .notFound
  match root.find base true path with
  | .ok (.directory _ _) => throw .isDirectory
  | .error .notFound | .ok _ => pure ()
  | .error cause => throw cause
  let place ← root.placeFor base maxLinks path
  let mode := match root.descend place with
    | some (.file mode _) => mode
    | _ => 0o644
  pure (insert (.file mode data) place root)

end FileTree

end BuildYard
