import BuildYard.Bytes
import BuildYard.Settings
import BuildYard.Starter

/-!
# The build account

Processes in a work container run under an account of their own. It is made
by adding one line to the container's list of groups and one to its list of
users, after whatever these files hold already.
-/

set_option autoImplicit false

namespace BuildYard

namespace Account

/-- The name of the account. -/
def userName : String := "jenkins"

/-- The numbers of user and group; ten thousand each when the settings give none. -/
def ids (agent : AgentSettings) : Nat × Nat :=
  agent.uidGid?.getD (10000, 10000)

/-- A text without the slashes at its end. -/
def dropSlashes (path : String) : String :=
  String.ofList (Text.dropLastWhile (· == '/') path.toList)

/-- The line for the list of groups. -/
def groupEntry (agent : AgentSettings) : String :=
  userName ++ ":x:" ++ toString (ids agent).2 ++ ":\n"

/-- The line for the list of users; the home is the workspace root. -/
def passwdEntry (agent : AgentSettings) : String :=
  userName ++ ":x:" ++ toString (ids agent).1 ++ ":" ++ toString (ids agent).2 ++ "::" ++
    dropSlashes agent.workspaceRoot ++ ":/bin/false\n"

/-- What a work container runs while processes come and go. -/
def idleCommand (agent : AgentSettings) : List String :=
  match agent.helper with
  | some _ => [helperPath, "wait"]
  | none => ["sleep", "infinity"]

end Account

/-- The byte of a line feed. -/
def lineFeed : UInt8 := 10

/-- The contents of a text file with a line added; the last line there is closed first. -/
def appendLine (contents : Bytes) (line : String) : Bytes :=
  let closed :=
    if contents.isEmpty || contents.getLast? == some lineFeed then contents
    else contents ++ [lineFeed]
  let added := Bytes.ofString line
  if added.getLast? == some lineFeed then closed ++ added else closed ++ added ++ [lineFeed]

end BuildYard
