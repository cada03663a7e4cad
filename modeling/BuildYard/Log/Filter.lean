import BuildYard.Log
import BuildYard.Text.Blank
import BuildYard.Text.Digits

/-!
# Which events are shown

A filter is a list of directives, separated by commas: a level for everything
(`debug`), a level for the parts whose path begins in a certain way
(`engine=debug`), or the beginning of a path alone, which stands for
all its levels. A directive may also name a span in brackets
(`engine[ping]=trace`): that span is then shown with all that happens
inside it.

Of the directives for a part, the one with the longest beginning counts, and
the last one of those that are written alike. A part without a directive is
not shown. A filter without any directive shows errors.
-/

set_option autoImplicit false

namespace BuildYard.Log

/-- How much is shown: nothing, or what matters at least as much as a level. -/
abbrev Threshold := Option Level

namespace Threshold

/-- The place of a threshold: the more it shows, the higher. -/
def rank (threshold : Threshold) : Nat :=
  (threshold.map Level.rank).getD 0

/-- Whether a level is shown. -/
def shows (threshold : Threshold) (level : Level) : Bool :=
  decide (level.rank ≤ threshold.rank)

/-- The threshold that shows more. -/
def widest (a b : Threshold) : Threshold :=
  if a.rank < b.rank then b else a

/-- The threshold of each digit, in order. -/
def inOrder : List Threshold :=
  none :: Level.all.map some

/-- The threshold that a word names, in whatever case: that of a level, `off`, or the
rank of one. -/
def ofWord? (word : List Char) : Option Threshold :=
  let folded := word.map Char.toLower
  if folded = "off".toList then some none
  else
    match Level.all.find? (fun level => level.word.toList = folded) with
    | some level => some (some level)
    | none => (Text.natBelow? 10 inOrder.length word).bind (inOrder[·]?)

end Threshold

/-- What is shown of the parts whose path begins in a certain way, or inside a span of
theirs. -/
structure Directive where
  target : Option (List Char) := none
  span : Option (List Char) := none
  threshold : Threshold
  deriving DecidableEq, Repr, Inhabited

namespace Directive

/-- Everything, in words for a threshold that is not given. -/
def everything : Threshold := some .trace

/-- Whether a directive may begin with `c`. -/
def isOpening (c : Char) : Bool :=
  c == '[' || c == '-' || c == ':' || c == '_' || c.isAlphanum || 0x80 ≤ c.toNat

/-- The threshold after an equals sign; nothing after it stands for everything. -/
def thresholdAfter? (word : List Char) : Option Threshold :=
  if word.isEmpty then some everything else Threshold.ofWord? word

/-- A directive without an equals sign and without a span: a level, or a target. -/
def ofBareWord (word : List Char) : Directive :=
  match Threshold.ofWord? word with
  | some threshold => { threshold }
  | none => { target := some word, threshold := everything }

/-- A directive for a span, read from what follows the opening bracket. -/
def ofSpan? (target : Option (List Char)) (rest : List Char) : Option Directive := do
  let (name, after) ← Text.splitFirst? ']' rest
  match after with
  | [] => some { target, span := some name, threshold := everything }
  | '=' :: word => do
    let threshold ← thresholdAfter? word
    some { target, span := some name, threshold }
  | _ => none

/-- The characters of a target in front of the sign that ends it, that sign, and what
follows. -/
def cut? : List Char → Option (List Char × Char × List Char)
  | [] => none
  | c :: rest =>
    if c = '=' || c = '[' then some ([], c, rest)
    else (cut? rest).map fun (before, sign, after) => (c :: before, sign, after)

/-- Reads a directive. Blanks around it belong to it, so that such a directive names no
part, and none is understood that has an equals sign besides. -/
def read? (piece : List Char) : Option Directive := do
  let first ← (Text.strip piece).head?
  if !isOpening first then none
  else
    match cut? piece with
    | none => some (ofBareWord piece)
    | some (target, sign, rest) =>
      if (target.head?.map Text.isBlank).getD false then none
      else if sign = '=' then
        (thresholdAfter? rest).map fun threshold => { target := some target, threshold }
      else ofSpan? (if target.isEmpty then none else some target) rest

/-- Whether a directive is about the part with a path. -/
def covers (directive : Directive) (path : String) : Bool :=
  (directive.target.map (·.isPrefixOf path.toList)).getD true

/-- How much of a path a directive gives. -/
def weight (directive : Directive) : Nat :=
  (directive.target.map (·.length + 1)).getD 0

/-- The one of two directives that counts for a part that both cover. -/
def nearer (a b : Directive) : Directive :=
  if b.weight < a.weight then a else b

end Directive

/-- What is shown. -/
structure Filter where
  directives : List Directive
  deriving DecidableEq, Repr, Inhabited

namespace Filter

/-- The filter that shows errors. -/
def errorsOnly : Filter :=
  { directives := [{ threshold := some .error }] }

/-- The filter that takes the place of one that is not understood. -/
def standard : Filter :=
  { directives := [{ threshold := some .info }] }

/-- The filter of a text, unless one of its directives is not understood. -/
def read? (text : String) : Option Filter := do
  let pieces := (Text.splitOn (· == ',') text.toList).filter fun piece => !piece.isEmpty
  if pieces.isEmpty then some errorsOnly
  else do
    let directives ← pieces.mapM Directive.read?
    some { directives }

/-- The filter of a text. -/
def ofText (text : String) : Filter :=
  (read? text).getD standard

/-- What is shown of the part with a path wherever it speaks. -/
def threshold (filter : Filter) (path : String) : Threshold :=
  let covering := filter.directives.filter fun directive =>
    directive.span.isNone && directive.covers path
  match covering with
  | [] => none
  | first :: rest => (rest.foldl Directive.nearer first).threshold

/-- What is shown inside a span on its own account; `none` if no directive names it. -/
def within? (filter : Filter) (span : Span) : Option Threshold :=
  let naming := filter.directives.filter fun directive =>
    directive.span = some span.name.toList && directive.covers span.part.path
  match naming with
  | [] => none
  | first :: rest =>
    some (rest.foldl (fun widest directive => widest.widest directive.threshold) first.threshold)

/-- Whether a directive for some span shows a level. -/
def reachesInto (filter : Filter) (level : Level) : Bool :=
  filter.directives.any fun directive => directive.span.isSome && directive.threshold.shows level

end Filter

end BuildYard.Log
