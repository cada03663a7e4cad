import BuildYard.Text.Blank

/-!
# Paths of the host

A path is a text whose parts are separated by slashes. Two paths are the same
when their parts are: repeated and closing slashes and parts that are a single
point say nothing, except a point that opens a relative path. A part that is
two points is a part like any other.
-/

set_option autoImplicit false

namespace BuildYard.Path

/-- Whether a path starts at the root. -/
def isAbsolute (path : String) : Bool :=
  path.startsWith "/"

/-- The texts between the slashes, empty ones left out. -/
def pieces (path : String) : List String :=
  ((Text.splitOn (· == '/') path.toList).map String.ofList).filter (· ≠ "")

/-- The parts of a path that name a step. -/
def parts (path : String) : List String :=
  match pieces path with
  | first :: rest =>
    if first == "." && !isAbsolute path then first :: rest.filter (· ≠ ".")
    else (first :: rest).filter (· ≠ ".")
  | [] => []

/-- Whether two paths are the same step by step. -/
def same (a b : String) : Bool :=
  isAbsolute a == isAbsolute b && parts a == parts b

/-- `path` seen from the directory `base`. -/
def join (base path : String) : String :=
  if isAbsolute path || base.isEmpty then path
  else if base.endsWith "/" then base ++ path
  else base ++ "/" ++ path

/-- The last part of a path, unless that is no name. -/
def fileName? (path : String) : Option String :=
  (parts path).getLast?.bind fun last => if last == "." || last == ".." then none else some last

/-- The directory and the name of a path inside a container. -/
def splitInContainer (path : String) : String × String :=
  match Text.splitLast? '/' path.toList with
  | some ([], name) => ("/", String.ofList name)
  | some (dir, name) => (String.ofList dir, String.ofList name)
  | none => (".", path)

end BuildYard.Path
