import BuildYard.Text.Blank

/-!
# What a program reports

While it works, a program reports events: each has a level, the part of the
program that speaks, and a text. Events lie inside spans, which are opened and
closed around an operation. Which of them are shown, and how, is not the
business of the one who reports.
-/

set_option autoImplicit false

namespace BuildYard.Log

/-- How much an event matters. -/
inductive Level where
  | error
  | warn
  | info
  | debug
  | trace
  deriving DecidableEq, Repr, Inhabited

namespace Level

/-- The word for a level. -/
def word : Level → String
  | error => "error"
  | warn => "warn"
  | info => "info"
  | debug => "debug"
  | trace => "trace"

/-- The word for a level in capitals. -/
def capitals : Level → String
  | error => "ERROR"
  | warn => "WARN"
  | info => "INFO"
  | debug => "DEBUG"
  | trace => "TRACE"

/-- All levels, what matters most first. -/
def all : List Level :=
  [error, warn, info, debug, trace]

/-- The place of a level: the less it matters, the higher. -/
def rank : Level → Nat
  | error => 1
  | warn => 2
  | info => 3
  | debug => 4
  | trace => 5

end Level

/-- The parts of the program that report. -/
inductive Part where
  | builds
  | images
  | processes
  | settings
  | logging
  | drivers
  | endpoint
  | commandLineDriver
  | apiDriver
  | memoryDriver
  | command
  | pingCommand
  | runCommand
  deriving DecidableEq, Repr, Inhabited

/-- The path under which filters and readers of the log know a part. -/
def Part.path : Part → String
  | builds => "stevedore_core::provisioner"
  | images => "stevedore_core::spec"
  | processes => "stevedore_core::process"
  | settings => "stevedore_core::settings"
  | logging => "stevedore_core::logging"
  | drivers => "stevedore_core::driver"
  | endpoint => "stevedore_core::driver::endpoint"
  | commandLineDriver => "stevedore_core::driver::cli"
  | apiDriver => "stevedore_core::driver::native"
  | memoryDriver => "stevedore_core::driver::mock"
  | command => "stevedore::cli"
  | pingCommand => "stevedore::commands::ping"
  | runCommand => "stevedore::commands::run"

/-- An operation with events inside. -/
structure Span where
  part : Part
  name : String
  deriving DecidableEq, Repr, Inhabited

/-- The level of every span. -/
def Span.level : Level := .info

/-- One thing that is reported. -/
inductive Entry where
  /-- an event with its text -/
  | event (level : Level) (part : Part) (text : String)
  /-- an event outside of all spans, and perhaps the process that it is about -/
  | aside (level : Level) (part : Part) (text : String) (about : Option String)
  | opened (span : Span)
  | closed (span : Span)
  deriving DecidableEq, Repr, Inhabited

end BuildYard.Log
