import BuildYard.Build.Yard
import BuildYard.Helper
import BuildYard.Json.Reader
import BuildYard.Relay

/-!
# The program

The program reads and writes files, shows its log and passes on what
processes write. All else that it asks of its host it passes on through two
files, which are named pipes as a rule: a question is a line written to one,
its answer a line read from the other. Called as the helper, by its first
argument, it does what the helper does.
-/

set_option autoImplicit false

namespace BuildYard.Main

/-- The name of the variable for the file to which questions are written. -/
def questionsVariable : String := "STEVEDORE_QUESTIONS"

/-- The name of the variable for the file from which answers are read. -/
def answersVariable : String := "STEVEDORE_ANSWERS"

/-- How the program reaches its host. -/
structure Line where
  journal : Log.Journal
  /-- the spans that are open in the log -/
  opened : IO.Ref (List Log.OpenSpan)
  /-- where questions go and answers come from -/
  relay : Option (IO.FS.Handle × IO.FS.Handle)

/-- What the system says about a failed operation. -/
def faultOf : IO.Error → IoError
  | .noFileOrDirectory _ _ _ => .notFound
  | .permissionDenied _ _ _ => .permissionDenied
  | fault => .other (toString fault)

/-- An operation on files. -/
def attempt {α : Type} (operation : IO α) : IO (Except IoError α) := do
  try
    pure (.ok (← operation))
  catch fault => pure (.error (faultOf fault))

namespace Line

/-- Shows an entry of the log. -/
def display (line : Line) (entry : Log.Entry) : IO Unit := do
  let (shown, opened) := line.journal.step (← line.opened.get) entry
  line.opened.set opened
  for text in shown do
    IO.eprintln (text.render line.journal.format)

/-- Passes a question on and reads the answer. -/
def pass (line : Line) (question : Host.Ask) : IO question.Answer := do
  match line.relay with
  | none => pure (Relay.answer question .null)
  | some (questions, answers) => do
    questions.putStrLn (Relay.question question).compact
    questions.flush
    let given ← answers.getLine
    pure (Relay.answer question ((Json.read? given).getD .null))

/-- Answers a question. -/
def answer (line : Line) (question : Host.Ask) : IO question.Answer :=
  match question with
  | .log entry => line.display entry
  | .read path => attempt do
    let data ← IO.FS.readBinFile path
    pure data.toList
  | .present path => do
    match ← attempt (IO.FS.Handle.mk path .read) with
    | .error .notFound => pure false
    | _ => pure true
  | .writeFile path text => attempt (IO.FS.writeFile path text)
  | .write sink data => do
    let stream ← match sink with
      | .output => IO.getStdout
      | .errors | .agent => IO.getStderr
    stream.write (ByteArray.mk data.toArray)
    stream.flush
  | question => line.pass question

/-- Does a task. -/
def perform {α : Type} (line : Line) : Host.Task α → IO α
  | .done value => pure value
  | .ask question next => do
    let given ← line.answer question
    line.perform (next given)

end Line

/-- The value of a variable of the environment. -/
abbrev Variables := List (String × String)

/-- The variables that the program looks at, as they are set. -/
def readVariables : IO Variables := do
  let names :=
    [Overrides.driverVariable, Overrides.hostVariable, Overrides.dockerPathVariable,
      Command.formatVariable, Command.filterVariable, Command.commonFilterVariable,
      Command.momentsVariable, questionsVariable, answersVariable]
  let found ← names.mapM fun name => do
    pure ((← IO.getEnv name).map (name, ·))
  pure (found.filterMap id)

/-- The value of a variable among those that were read. -/
def Variables.value? (found : Variables) (name : String) : Option String :=
  (found.find? (·.1 == name)).map (·.2)

/-- Opens the files for questions and answers, if both are named. -/
def openRelay (found : Variables) : IO (Option (IO.FS.Handle × IO.FS.Handle)) := do
  match found.value? questionsVariable, found.value? answersVariable with
  | some questions, some answers => do
    let questions ← IO.FS.Handle.mk questions .write
    let answers ← IO.FS.Handle.mk answers .read
    pure (some (questions, answers))
  | _, _ => pure none

/-- The exit code of the program for how a program ended that it became. -/
def exitCodeOf : Host.Ending → Int
  | .exited code => code
  | _ => 128

/-- What a call of the program does. -/
def call (arguments : List String) (environment : Command.Environment) : Host.Task Int :=
  match arguments with
  | "trampoline" :: rest => exitCodeOf <$> Helper.invoke rest
  | arguments => do
    let (code, _) ← Yard.carryOut (Command.invoke arguments environment) none
    pure code

end BuildYard.Main

/-- A call of the program. -/
def main (arguments : List String) : IO UInt32 := do
  let found ← BuildYard.Main.readVariables
  let line : BuildYard.Main.Line :=
    { journal := BuildYard.Command.journalOf arguments found.value?
      opened := ← IO.mkRef []
      relay := ← BuildYard.Main.openRelay found }
  let code ← line.perform (BuildYard.Main.call arguments found.value?)
  pure (UInt32.ofNat code.toNat)
