import BuildYard.FileTree
import BuildYard.Host
import BuildYard.Rehearsal.ShellText

/-!
# Programs in a rehearsal

A rehearsal has a handful of programs: those that print something, a shell
for scripts, and whatever files of the scene are executable. A program is
found by its name, or by a path if there is a slash in it. What it writes and
how it ends is all that is kept of a run.
-/

set_option autoImplicit false

namespace BuildYard.Rehearsal.Shell

/-- What came of the run of a program. -/
structure Done where
  out : Bytes := []
  err : Bytes := []
  ending : Host.Ending := .exited 0
  deriving DecidableEq, Repr, Inhabited

namespace Done

/-- A run that wrote a text. -/
def writing (text : String) : Done :=
  { out := Bytes.ofString text }

/-- A run that complained and ended with a code. -/
def complaining (text : String) (code : Nat) : Done :=
  { err := Bytes.ofString text, ending := .exited code }

end Done

/-- What a program finds when it begins. -/
structure Surroundings where
  files : FileTree
  dir : String
  /-- a signal to end comes once it waits -/
  signalled : Bool := false
  deriving Inhabited

/-- The number under which a program knows itself. -/
def ownNumber : String := "1000"

/-! ## Programs that print something -/

/-- What `echo` writes. -/
def echo : List String → Done
  | "-n" :: words => .writing (Text.join " " words)
  | words => .writing (Text.join " " words ++ "\n")

/-- What `cat` writes. -/
def cat (here : Surroundings) : List String → Done
  | [] => {}
  | path :: rest =>
    let later := cat here rest
    match here.files.read here.dir path with
    | .ok data => { later with out := data ++ later.out }
    | .error cause =>
      let reason := String.ofList ((Text.splitOn (· == '(') cause.message.toList).headD [])
      { later with
        err := Bytes.ofString ("cat: " ++ path ++ ": " ++ Text.trim reason ++ "\n") ++ later.err
        ending := .exited 1 }

/-- What `ls` writes about the directory in which it is called. -/
def list (here : Surroundings) : Done :=
  match here.files.find here.dir true here.dir with
  | .ok (.directory _ entries) =>
    let names := (entries.map (·.1)).filter fun name => !name.startsWith "."
    .writing (String.join ((names.mergeSort fun a b => decide (a ≤ b)).map (· ++ "\n")))
  | _ => .complaining "" 2

/-- The text that `printf` makes of a form and words. -/
def formed : List Char → List String → List Char
  | [], _ => []
  | '\\' :: 'n' :: rest, words => '\n' :: formed rest words
  | '\\' :: 't' :: rest, words => '\t' :: formed rest words
  | '\\' :: '\\' :: rest, words => '\\' :: formed rest words
  | '%' :: '%' :: rest, words => '%' :: formed rest words
  | '%' :: 's' :: rest, words => (words.headD "").toList ++ formed rest words.tail
  | c :: rest, words => c :: formed rest words

/-- What telling this very program to end comes to. -/
def kill : List String → Done
  | ["-0", target] => if target = ownNumber then {} else .complaining "" 1
  | ["-s", _, target] | [_, target] | [target] =>
    if target = ownNumber then { ending := .signalled } else .complaining "" 1
  | _ => .complaining "" 2

/-- A run of one of the programs that are no shells. -/
def simple? (here : Surroundings) (name : String) (arguments : List String) : Option Done :=
  match name with
  | "true" => some {}
  | "false" => some { ending := .exited 1 }
  | "echo" => some (echo arguments)
  | "printf" =>
    some (.writing (String.ofList (formed (arguments.headD "").toList arguments.tail)))
  | "cat" => some (cat here arguments)
  | "ls" => some (list here)
  | "pwd" => some (.writing (here.dir ++ "\n"))
  | "sleep" => some { ending := if here.signalled then .signalled else .exited 0 }
  | "kill" => some (kill arguments)
  | _ => none

/-! ## The shell -/

/-- The state of a shell. -/
structure State where
  here : Surroundings
  /-- the parameters, the name of the script first -/
  parameters : List String
  assigned : List (String × String) := []
  /-- the code of the last command -/
  code : Nat := 0
  out : Bytes := []
  err : Bytes := []
  /-- how the shell ended, if it did -/
  ending : Option Host.Ending := none
  deriving Inhabited

namespace State

/-- The values of a name: one, but for all parameters together. -/
def values (state : State) (name : String) : List String :=
  match name with
  | "@" | "*" => state.parameters.tail
  | "#" => [toString state.parameters.tail.length]
  | "?" => [toString state.code]
  | "$" => [ownNumber]
  | "PWD" => [state.here.dir]
  | name =>
    match Text.nat? 10 name.toList with
    | some place => [state.parameters.getD place ""]
    | none => [((state.assigned.find? (·.1 == name)).map (·.2)).getD ""]

/-- Joins the last of the words so far and the first of the words that follow. -/
def joined (words more : List String) : List String :=
  match words.getLast?, more with
  | some last, first :: rest => words.dropLast ++ (last ++ first) :: rest
  | none, more => more
  | _, [] => words

/-- The words that a piece stands for, to be joined to what is around it. -/
def pieceWords (state : State) : Piece → List String
  | .text cs => [String.ofList cs]
  | .value name quoted =>
    let values := state.values name
    if name = "@" then values
    else
      let text := Text.join " " values
      if quoted then [text]
      else
        ((Text.splitOn (fun c => c == ' ' || c == '\t' || c == '\n') text.toList).filter
          (!·.isEmpty)).map String.ofList

/-- The words that a word stands for. -/
def expand (state : State) (word : Word) : List String :=
  let words := (word.pieces.map state.pieceWords).foldl joined []
  if words.isEmpty && word.quoted && !word.pieces.contains (.value "@" true) then [""] else words

/-- The variable that a word sets, if it does nothing else. -/
def assignment? (words : List String) : Option (String × String) :=
  match words with
  | [word] =>
    match Text.splitFirst? '=' word.toList with
    | some (c :: name, value) =>
      if !c.isDigit && (c :: name).all isNameChar then
        some (String.ofList (c :: name), String.ofList value)
      else none
    | _ => none
  | _ => none

/-- Where the two streams of a command end: at a stream of the shell, or nowhere that is
seen. -/
def routes (command : Command) : Option Nat × Option Nat :=
  command.redirections.foldl (fun (out, err) (stream, target) =>
    let goal : Option Nat := match target with
      | .stream 1 => out
      | .stream _ => err
      | .file _ => none
    if stream = 2 then (out, goal) else if stream = 1 then (goal, err) else (out, err))
    (some 1, some 2)

/-- The state after a run of a command. -/
def took (state : State) (command : Command) (done : Done) : State :=
  let (out, err) := routes command
  let written (stream : Nat) : Bytes :=
    (if out = some stream then done.out else []) ++ (if err = some stream then done.err else [])
  { state with
    out := state.out ++ written 1
    err := state.err ++ written 2
    code := match done.ending with
      | .exited code => code.toNat
      | _ => 143 }

/-- The state after the shell has ended. -/
def ended (state : State) (ending : Host.Ending) : State :=
  { state with ending := some ending }

/-- The state after going to another directory. -/
def enter (state : State) (path : String) : State :=
  match state.here.files.locate state.here.dir true path with
  | .ok names =>
    { state with
      here := { state.here with dir := "/" ++ Text.join "/" names }
      code := 0 }
  | .error _ => { state with code := 2 }

/-- The state after a command; `launch` runs a program that the shell does not have. -/
def perform (launch : Surroundings → String → List String → Except IoError Done)
    (state : State) (command : Command) : State :=
  let words := command.words.flatMap state.expand
  match assignment? words, words with
  | some entry, _ => { state with assigned := entry :: state.assigned, code := 0 }
  | none, [] => state
  | none, ":" :: _ => { state with code := 0 }
  | none, ["exit"] => state.ended (.exited state.code)
  | none, "exit" :: code :: _ =>
    state.ended (.exited ((Text.nat? 10 code.toList).map (Int.ofNat <| · % 256) |>.getD 2))
  | none, ["cd", path] => state.enter path
  | none, "exec" :: name :: arguments =>
    match launch state.here name arguments with
    | .ok done => (state.took command done).ended done.ending
    | .error _ => state.ended (.exited 127)
  | none, "kill" :: arguments =>
    match (kill arguments).ending with
    | .signalled => state.ended .signalled
    | _ => state.took command (kill arguments)
  | none, "sleep" :: _ => if state.here.signalled then state.ended .signalled else state
  | none, name :: arguments =>
    match launch state.here name arguments with
    | .ok done => state.took command done
    | .error .notFound =>
      state.took command (.complaining ("sh: 1: " ++ name ++ ": not found\n") 127)
    | .error cause =>
      state.took command (.complaining ("sh: 1: " ++ name ++ ": " ++ cause.message ++ "\n") 126)

/-- Whether a command runs after what happened before it. -/
def allows (state : State) : When → Bool
  | .always => true
  | .success => state.code == 0
  | .failure => state.code != 0

/-- The state after commands, in order, up to the end of the shell. -/
def performAll (launch : Surroundings → String → List String → Except IoError Done)
    (state : State) : List Command → State
  | [] => state
  | command :: rest =>
    if state.ending.isSome then state
    else
      let state := if state.allows command.condition then state.perform launch command else state
      performAll launch state rest

/-- What came of the run of a shell. -/
def done (state : State) : Done :=
  { out := state.out, err := state.err, ending := state.ending.getD (.exited state.code) }

end State

/-- A run of a script. -/
def script (launch : Surroundings → String → List String → Except IoError Done)
    (here : Surroundings) (parameters : List String) (text : String) : Done :=
  match read? text with
  | some commands => (State.performAll launch { here, parameters } commands).done
  | none => .complaining "sh: 1: Syntax error\n" 2

/-! ## Finding programs -/

/-- Whether a name is that of a shell. -/
def isShell (name : String) : Bool :=
  name == "sh" || name == "bash" || name == "dash"

/-- The name of a program of the system, given by a path. -/
def systemName? (path : String) : Option String :=
  if path.startsWith "/bin/" || path.startsWith "/usr/bin/" then Path.fileName? path else none

/-- Runs a program, given by its name or by a path. `depth` bounds how deeply scripts run
scripts. -/
def launch : Nat → Surroundings → String → List String → Except IoError Done
  | 0, _, _, _ => .error .tooManyLinks
  | depth + 1, here, program, arguments =>
    let known (name : String) : Except IoError Done :=
      if isShell name then
        match arguments with
        | "-c" :: text :: parameters =>
          .ok (script (launch depth) here
            (if parameters.isEmpty then [name] else parameters) text)
        | path :: parameters => do
          let text ← here.files.readText here.dir path
          .ok (script (launch depth) here (path :: parameters) text)
        | [] => .ok {}
      else
        match simple? here name arguments with
        | some done => .ok done
        | none => .error .notFound
    if !program.contains '/' then known program
    else
      match systemName? program with
      | some name => known name
      | none =>
        match here.files.find here.dir true program with
        | .error cause => .error cause
        | .ok (.file mode data) =>
          if mode &&& 0o111 = 0 then .error .permissionDenied
          else
            match Bytes.text? data with
            | some text => .ok (script (launch depth) here (program :: arguments) text)
            | none => .error (.other "Exec format error (os error 8)")
        | .ok _ => .error .permissionDenied

/-- How deeply scripts may run scripts. -/
def maxDepth : Nat := 16

/-- Runs a program in a directory, which is entered from the directory `base`. -/
def launchIn (files : FileTree) (base dir : String) (signalled : Bool) (program : String)
    (arguments : List String) : Except IoError Done := do
  let names ← files.locate base true dir
  launch maxDepth { files, dir := "/" ++ Text.join "/" names, signalled } program arguments

end BuildYard.Rehearsal.Shell
