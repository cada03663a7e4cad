import BuildYard.Bytes
import BuildYard.Text.Blank
import BuildYard.Text.Digits

/-!
# Paths of requests

A request to the engine's API goes to a path into which names and ids are put
as they are. What such a path means is decided as for any reference to a
resource: a number sign ends it, a question mark ends the path inside it,
steps of one or two points are resolved, and characters that a path cannot
hold are written with a percent sign and two digits.
-/

set_option autoImplicit false

namespace BuildYard.ApiPath

/-- Whether a byte cannot stand in a path. -/
def isForeign (b : UInt8) : Bool :=
  b ≤ 0x20 || 0x7F ≤ b || (Bytes.ofString "\x22#<>?^`\x7b\x7d").contains b

/-- A byte by its number. -/
def percent (b : UInt8) : List Char :=
  '%' :: (Text.fixed 16 2 b.toNat).map Char.toUpper

/-- A step with the bytes that cannot stand in a path written by their numbers. -/
def encode (step : String) : String :=
  String.ofList ((Bytes.ofString step).flatMap fun b =>
    if isForeign b then percent b else [Char.ofNat b.toNat])

/-- A step of one point, also by its number. -/
def isHere (step : String) : Bool :=
  step == "." || step.toLower == "%2e"

/-- A step of two points, also by their numbers. -/
def isUp (step : String) : Bool :=
  [".." , ".%2e", "%2e.", "%2e%2e"].contains step.toLower

/-- Steps with those of one and two points resolved; `done` holds the earlier ones,
last first. A point at the end leaves an empty step. -/
def resolve (done : List String) : List String → List String
  | [] => done.reverse
  | [step] =>
    if isHere step then ("" :: done).reverse
    else if isUp step then ("" :: done.tail).reverse
    else (step :: done).reverse
  | step :: more =>
    if isHere step then resolve done more
    else if isUp step then resolve done.tail more
    else resolve (step :: done) more

/-- The path that a reference means, which begins with a slash. -/
def ofReference (reference : String) : String :=
  let meant := reference.toList.filter fun c => !(c == '\t' || c == '\n' || c == '\r')
  let path := meant.takeWhile fun c => c != '#' && c != '?'
  let steps := (Text.splitOn (· == '/') (path.drop 1)).map String.ofList
  "/" ++ Text.join "/" ((resolve [] steps).map encode)

end BuildYard.ApiPath
