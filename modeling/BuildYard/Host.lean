import BuildYard.Error
import BuildYard.Bytes
import BuildYard.Json.Value
import BuildYard.Log
import BuildYard.Program

/-!
# What the yard asks of its host

All that happens outside the yard happens through questions to the host: files
are read, key material is kept, the program of the engine's command line is
run or started, and requests are sent to the engine's API. The answers say
everything that the yard comes to know.
-/

set_option autoImplicit false

namespace BuildYard.Host

/-! ## The engine's command line -/

/-- A run of the engine's program. -/
structure Invocation where
  program : String
  arguments : List String
  /-- variables besides those that are inherited -/
  environment : List (String × String) := []
  deriving DecidableEq, Repr, Inhabited

/-- How a program that ran to its end came out. -/
inductive Outcome where
  | notStarted (cause : IoError)
  /-- it ended before it had taken all of its input -/
  | unread
  /-- with its exit code, unless a signal ended it, and what it wrote -/
  | ended (code : Option Int) (out err : Bytes)
  deriving DecidableEq, Repr, Inhabited

/-- How a program that was started goes on. -/
inductive Ending where
  | exited (code : Int)
  /-- ended by a signal -/
  | signalled
  /-- it goes on until it is ended from outside -/
  | untilStopped
  deriving DecidableEq, Repr, Inhabited

/-- A program that was started: all that it will write, and how it ends. -/
structure Child where
  out : Bytes
  err : Bytes
  ending : Ending
  deriving DecidableEq, Repr, Inhabited

/-- What is fed to a process. -/
structure Input where
  data : Bytes := []
  /-- more may follow, so that its end never comes -/
  staysOpen : Bool := false
  deriving DecidableEq, Repr, Inhabited

/-! ## The engine's API -/

/-- What a request carries. -/
inductive Body where
  | none
  | json (value : Json)
  | bytes (data : Bytes)
  deriving Inhabited

/-- A request to the engine. -/
structure Request where
  method : String
  path : String
  query : List (String × String) := []
  body : Body := .none
  deriving Inhabited

/-- An answer of the engine that comes as a whole. -/
structure Reply where
  status : Nat
  body : Bytes
  deriving DecidableEq, Repr, Inhabited

/-- A connection that the engine keeps for the streams of a process. -/
structure Stream where
  /-- all that the engine will send -/
  data : Bytes
  /-- it stays open after that -/
  staysOpen : Bool := false
  /-- why it breaks off after that, if it does not end in order -/
  broken : Option ApiError := none
  deriving DecidableEq, Repr, Inhabited

/-! ## Questions -/

/-- Where the output of processes goes. -/
inductive Sink where
  | output
  | errors
  /-- whoever listens to the agent -/
  | agent
  deriving DecidableEq, Repr, Inhabited

/-- A question to the host. -/
inductive Ask where
  | log (entry : Log.Entry)
  /-- the contents of a file -/
  | read (path : String)
  /-- whether anything is at a path -/
  | present (path : String)
  /-- puts a file with a text at a path -/
  | writeFile (path text : String)
  /-- adds to what a sink receives -/
  | write (sink : Sink) (data : Bytes)
  /-- puts key material into a new directory of its own -/
  | storeKeys (files : List (String × String))
  | discardKeys (dir : String)
  /-- runs a program to its end, feeding it -/
  | invoke (invocation : Invocation) (input : Option Bytes)
  /-- starts a program, feeding it -/
  | start (invocation : Invocation) (input : Option Input)
  /-- sends a request and takes the answer as a whole -/
  | send (host : String) (request : Request)
  /-- sends a request for a connection to the streams of a process, feeding it -/
  | connect (host : String) (request : Request) (input : Option Input)
  /-- the archive of a build context below a workspace -/
  | context (workspace context file : String)
  /-- a number of 64 bits that did not occur before -/
  | freshNumber
  /-- whether a path leads to a directory -/
  | directory (path : String)
  /-- goes to a directory and becomes another program there -/
  | become (dir program : String) (arguments : List String)
  /-- waits for a signal to end -/
  | awaitSignal
  deriving Inhabited

/-- What each question is answered with. -/
abbrev Ask.Answer : Ask → Type
  | .log _ => Unit
  | .read _ => Except IoError Bytes
  | .present _ => Bool
  | .writeFile _ _ => Except IoError Unit
  | .write _ _ => Unit
  | .storeKeys _ => Except IoError String
  | .discardKeys _ => Except IoError Unit
  | .invoke _ _ => Outcome
  | .start _ _ => Except IoError Child
  | .send _ _ => Except ApiError Reply
  | .connect _ _ _ => Except ApiError (Reply ⊕ Stream)
  | .context _ _ _ => Except ResolutionError Bytes
  | .freshNumber => Nat
  | .directory _ => Bool
  | .become _ _ _ => Except IoError Ending
  | .awaitSignal => Unit

/-- A program that asks the host. -/
abbrev Task (α : Type) := Program Ask Ask.Answer α

/-- Asks one question. -/
def ask (question : Ask) : Task question.Answer :=
  Program.question question

/-- Reports an event. -/
def note (level : Log.Level) (part : Log.Part) (text : String) : Task Unit :=
  ask (.log (.event level part text))

/-- Reports an event of a process that goes on by itself. -/
def remark (level : Log.Level) (part : Log.Part) (text : String) (about : Option String) :
    Task Unit :=
  ask (.log (.aside level part text about))

/-- A task inside a span. -/
def within {α : Type} (span : Log.Span) (task : Task α) : Task α := do
  ask (.log (.opened span))
  let value ← task
  ask (.log (.closed span))
  pure value

end BuildYard.Host
