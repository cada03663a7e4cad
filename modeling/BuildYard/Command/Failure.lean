import BuildYard.Build.Action
import BuildYard.Error

/-!
# How a command fails

A command that fails tells why: a text, and below it the causes. With one
cause the report shows it indented under the text; several are numbered from
zero, what caused what. Lines after the first of a cause are indented as far
as the first.
-/

set_option autoImplicit false

namespace BuildYard.Command

/-- Why a command failed. -/
structure Failure where
  text : String
  /-- what caused it, and what caused that, and so on -/
  causes : List String := []
  deriving DecidableEq, Repr, Inhabited

namespace Failure

/-- A failure from a text and the causes below it, given together. -/
def ofChain : List String → Failure
  | [] => { text := "" }
  | text :: causes => { text, causes }

/-- A failure as the cause of another that a text tells of. -/
def under (failure : Failure) (text : String) : Failure :=
  { text, causes := failure.text :: failure.causes }

/-- The width of the place for the number of a cause. -/
def numberWidth : Nat := 5

/-- A cause with what stands in front of its first line; the others begin below it. -/
def indented (opening text : String) : String :=
  let lines := (Text.splitOn (· == '\n') text.toList).map String.ofList
  opening ++ Text.join ("\n" ++ String.ofList (List.replicate opening.length ' ')) lines

/-- Causes with their numbers, from `number` on. -/
def numbered (number : Nat) : List String → List String
  | [] => []
  | text :: rest =>
    let digits := toString number
    let blanks := String.ofList (List.replicate (numberWidth - digits.length) ' ')
    indented (blanks ++ digits ++ ": ") text :: numbered (number + 1) rest

/-- The causes as they are shown. -/
def causeLines : List String → List String
  | [] => []
  | [text] => [indented "    " text]
  | causes => numbered 0 causes

/-- The whole report of a failure. -/
def report (failure : Failure) : String :=
  match causeLines failure.causes with
  | [] => failure.text
  | lines => failure.text ++ "\n\nCaused by:\n" ++ Text.join "\n" lines

end Failure

/-! ## Commands that may fail -/

/-- Work of a command, which may fail. -/
abbrev Duty (α : Type) := ExceptT Failure (Program Action Action.Answer) α

namespace Duty

/-- Work that cannot fail. -/
def ofWork {α : Type} (work : Work α) : Duty α :=
  ExceptT.lift work

/-- Work that may fail; `tell` gives the texts of its failure. -/
def attempt {ε α : Type} (tell : ε → List String) (work : Work (Except ε α)) : Duty α := do
  match ← ofWork work with
  | .ok value => pure value
  | .error cause => throw (.ofChain (tell cause))

/-- Work that may fail, for which a text tells what was tried. -/
def attemptTo {ε α : Type} (text : String) (tell : ε → List String)
    (work : Work (Except ε α)) : Duty α := do
  match ← ofWork work with
  | .ok value => pure value
  | .error cause => throw ((Failure.ofChain (tell cause)).under text)

/-- A duty inside a span. -/
def within {α : Type} (span : Log.Span) (duty : Duty α) : Duty α :=
  ExceptT.mk (Work.within span duty.run)

/-- Reports an event. -/
def note (level : Log.Level) (part : Log.Part) (text : String) : Duty Unit :=
  ofWork (Work.note level part text)

end Duty

end BuildYard.Command
