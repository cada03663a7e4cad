import BuildYard.Json.Printer
import BuildYard.Log.Filter

/-!
# What is shown of a report

A journal turns the entries of a report into lines. It shows the events that
its filter lets through, each with the innermost span that is shown around it,
and of the spans themselves the moments that it is asked for: when a span
begins, is entered, is left and ends. A span that the work leaves is entered
once more when it is given up.
-/

set_option autoImplicit false

namespace BuildYard.Log

/-- How lines are written. -/
inductive Format where
  | text
  | json
  deriving DecidableEq, Repr, Inhabited

/-- The word for a format. -/
def Format.word : Format → String
  | text => "text"
  | json => "json"

/-- The format that a word names; whatever else is said, lines are text. -/
def Format.ofWord (word : String) : Format :=
  if word = json.word then json else text

/-- A moment in the life of a span. -/
inductive Moment where
  | new
  | enter
  | exit
  | close
  deriving DecidableEq, Repr, Inhabited

namespace Moment

/-- The word for a moment. -/
def word : Moment → String
  | new => "new"
  | enter => "enter"
  | exit => "exit"
  | close => "close"

/-- The moments that a word asks for. -/
def named : List Char → List Moment
  | ['n', 'e', 'w'] => [new]
  | ['c', 'l', 'o', 's', 'e'] => [close]
  | ['e', 'n', 't', 'e', 'r'] => [enter]
  | ['e', 'x', 'i', 't'] => [exit]
  | ['a', 'c', 't', 'i', 'v', 'e'] => [enter, exit]
  | ['f', 'u', 'l', 'l'] => [new, enter, exit, close]
  | _ => []

/-- The moments that a text asks for: words in whatever case, separated by commas or
bars. -/
def ofText (text : String) : List Moment :=
  (Text.splitOn (fun c => c == ',' || c == '|') text.toList).flatMap fun piece =>
    named ((Text.strip piece).map Char.toLower)

/-- The moments that are shown when nothing is said about them. -/
def usual : Format → List Moment
  | .json => [new, close]
  | .text => []

/-- What happens to a span when the work inside it begins. -/
def atOpening : List Moment := [new, enter]

/-- What happens to a span when the work inside it has ended. -/
def atClosing : List Moment := [exit, enter, exit, close]

end Moment

/-- A line that is shown. -/
structure Line where
  level : Level
  /-- the path of the part that speaks -/
  path : String
  text : String
  /-- the innermost span that is shown -/
  span : Option String
  deriving DecidableEq, Repr, Inhabited

namespace Line

/-- A line as text. -/
def toText (line : Line) : String :=
  line.level.capitals ++ " " ++ (line.span.map (· ++ ": ")).getD "" ++ line.path ++ ": " ++
    line.text

/-- A line as a record. -/
def toJson (line : Line) : Json :=
  .record
    ([("level", .text line.level.capitals),
      ("fields", .record [("message", .text line.text)]),
      ("target", .text line.path)] ++
      (line.span.map fun name => ("span", Json.record [("name", .text name)])).toList)

/-- A line in a format. -/
def render (line : Line) : Format → String
  | .text => line.toText
  | .json => line.toJson.compact

end Line

/-- How a report is shown. -/
structure Journal where
  filter : Filter
  format : Format := .text
  moments : List Moment := []
  deriving DecidableEq, Repr, Inhabited

/-- A span that is open. -/
structure OpenSpan where
  span : Span
  shown : Bool
  /-- what is shown inside it on its account -/
  within : Threshold := none
  deriving DecidableEq, Repr, Inhabited

namespace Journal

/-- Whether an open span shows a level inside it. -/
def shownInside (journal : Journal) (opened : List OpenSpan) (level : Level) : Bool :=
  journal.filter.reachesInto level && opened.any fun frame => frame.within.shows level

/-- Whether an event is shown inside the open spans, innermost first. -/
def showsEvent (journal : Journal) (opened : List OpenSpan) (level : Level) (part : Part) :
    Bool :=
  journal.shownInside opened level || (journal.filter.threshold part.path).shows level

/-- A span that begins inside the open ones. -/
def enter (journal : Journal) (opened : List OpenSpan) (span : Span) : OpenSpan :=
  let named := journal.filter.within? span
  let shown := (named.isSome && journal.filter.reachesInto Span.level) ||
    journal.showsEvent opened Span.level span.part
  { span, shown, within := if shown then named.getD none else none }

/-- The name of the innermost open span that is shown. -/
def innermost (opened : List OpenSpan) : Option String :=
  (opened.find? (·.shown)).map (·.span.name)

/-- The lines for what happens to a span. -/
def spanLines (journal : Journal) (frame : OpenSpan) (moments : List Moment) : List Line :=
  if frame.shown then
    (moments.filter fun moment => journal.moments.contains moment).map fun moment =>
      { level := Span.level
        path := frame.span.part.path
        text := moment.word
        span := some frame.span.name }
  else []

/-- The lines for an entry, and the spans that are open after it. -/
def step (journal : Journal) (opened : List OpenSpan) : Entry → List Line × List OpenSpan
  | .event level part text =>
    (if journal.showsEvent opened level part then
      [{ level, path := part.path, text, span := innermost opened }]
    else [], opened)
  | .aside level part text _ =>
    (if journal.showsEvent [] level part then
      [{ level, path := part.path, text, span := none }]
    else [], opened)
  | .opened span =>
    let frame := journal.enter opened span
    (journal.spanLines frame Moment.atOpening, frame :: opened)
  | .closed _ =>
    match opened with
    | [] => ([], [])
    | frame :: rest => (journal.spanLines frame Moment.atClosing, rest)

/-- The lines for the entries that follow inside the open spans. -/
def linesFrom (journal : Journal) (opened : List OpenSpan) : List Entry → List Line
  | [] => []
  | entry :: rest =>
    let (lines, opened) := journal.step opened entry
    lines ++ journal.linesFrom opened rest

/-- The lines for a whole report. -/
def lines (journal : Journal) (report : List Entry) : List Line :=
  journal.linesFrom [] report

end Journal

end BuildYard.Log
