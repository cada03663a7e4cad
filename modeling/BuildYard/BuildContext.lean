import BuildYard.Archive.Reader
import BuildYard.FileTree

/-!
# Build contexts

The context of an image that is built is a directory, sent to the engine as an
archive: every entry in the order of names, a directory before what is in it,
links as links. The chosen Dockerfile comes last under the name `Dockerfile`;
it is left out at its own place, and so is whatever the context holds at its
root under that name.
-/

set_option autoImplicit false

namespace BuildYard.BuildContext

/-- The name under which an engine looks for the Dockerfile. -/
def dockerfileName : String := "Dockerfile"

/-- Entries in the order of their names. -/
def sorted (entries : List (String × FileTree)) : List (String × FileTree) :=
  entries.mergeSort fun a b => decide (a.1 ≤ b.1)

/-- The member for one entry, whatever lies below it left aside. -/
def memberOf (name : String) : FileTree → Archive.Member
  | .file mode data => { name, mode, content := .file data }
  | .directory mode _ => { name, mode, content := .directory }
  | .link target => { name, mode := 0o777, content := .link target }

/-- A relative path for an entry of the directory at `dir`. -/
def childName (dir name : String) : String :=
  if dir.isEmpty then name else dir ++ "/" ++ name

mutual

/-- The tree with the entries of every directory in the order of their names. -/
def normalize : FileTree → FileTree
  | .directory mode entries => .directory mode (sorted (normalizeAll entries))
  | tree => tree

/-- The same for every entry. -/
def normalizeAll : List (String × FileTree) → List (String × FileTree)
  | [] => []
  | (name, tree) :: rest => (name, normalize tree) :: normalizeAll rest

end

mutual

/-- The members for an entry and what is below it. `skip` tells, by the relative path,
what is left out with everything below it. -/
def membersOf (skip : String → Bool) (dir name : String) : FileTree → List Archive.Member
  | .directory mode entries =>
    if skip (childName dir name) then []
    else
      memberOf (childName dir name) (.directory mode []) ::
        membersIn skip (childName dir name) entries
  | .file mode data =>
    if skip (childName dir name) then [] else [memberOf (childName dir name) (.file mode data)]
  | .link target =>
    if skip (childName dir name) then [] else [memberOf (childName dir name) (.link target)]

/-- The members for the entries of a directory. -/
def membersIn (skip : String → Bool) (dir : String) :
    List (String × FileTree) → List Archive.Member
  | [] => []
  | (name, tree) :: rest => membersOf skip dir name tree ++ membersIn skip dir rest

end

/-- Whether an entry of the context is left out: it is the chosen Dockerfile, or it
stands where the chosen one goes. -/
def isLeftOut (context dockerfile relative : String) : Bool :=
  Path.same (Path.join context relative) dockerfile || relative == dockerfileName

/-- The members of a context, the chosen Dockerfile last. -/
def archiveMembers (root : FileTree) (base context dockerfile : String) :
    Except IoError (List Archive.Member) := do
  match ← root.find base true context with
  | .directory _ entries =>
    let inside := membersIn (isLeftOut context dockerfile) "" (sorted (normalizeAll entries))
    let chosen ← root.find base false dockerfile
    .ok (inside ++ [memberOf dockerfileName chosen])
  | _ => .error .notDirectory

/-- The archive of a context. -/
def pack (root : FileTree) (base context dockerfile : String) : Except IoError Bytes := do
  let members ← archiveMembers root base context dockerfile
  match Archive.encode members with
  | .ok archive => .ok archive
  | .error fault => .error (.other fault.message)

/-- The archive for an image that is built: the context below the workspace and the
Dockerfile below the context, both of which have to be there. -/
def prepare (root : FileTree) (base workspace context file : String) :
    Except ResolutionError Bytes :=
  let context := Path.join workspace context
  let dockerfile := Path.join context file
  if !root.directoryAt base context then .error (.missingContext context)
  else if !root.fileAt base dockerfile then .error (.missingDockerfile dockerfile)
  else
    match pack root base context dockerfile with
    | .ok archive => .ok archive
    | .error e => .error (.packaging e)

end BuildYard.BuildContext
