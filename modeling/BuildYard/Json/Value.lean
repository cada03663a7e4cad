import BuildYard.Text.Digits

/-!
# JSON values

A number keeps its written form: whether it is an integer, and of what range,
is for the reader of a field to decide. A text whose escapes leave half of a
surrogate pair alone is valid JSON and no text, so `Json.broken` stands for
it. Objects keep their members in order, repetitions included; a member's
name may be broken too.
-/

set_option autoImplicit false

namespace BuildYard

/-- A JSON value. -/
inductive Json where
  | null
  | bool (b : Bool)
  /-- a number as it is written -/
  | number (written : List Char)
  | text (s : String)
  /-- a text with half of a surrogate pair -/
  | broken
  | array (items : List Json)
  /-- members in order; `none` for a name with half of a surrogate pair -/
  | object (members : List (Option String × Json))
  deriving Inhabited

namespace Json

/-- An object with the given members. -/
def record (members : List (String × Json)) : Json :=
  .object (members.map fun (name, value) => (some name, value))

/-- The number `n`. -/
def ofInt (n : Int) : Json :=
  .number (toString n).toList

/-- The integer a number stands for: written without fraction and exponent, and
not as a negative zero. -/
def int? : Json → Option Int
  | .number ('-' :: '0' :: []) => none
  | .number ('-' :: digits) => (Text.nat? 10 digits).map fun n => -(n : Int)
  | .number digits => (Text.nat? 10 digits).map Int.ofNat
  | _ => none

/-- The integer of 64 bits a number stands for. -/
def int64? (value : Json) : Option Int :=
  value.int?.bind fun n => if Text.fitsInt64 n then some n else none

/-- The text a value is. -/
def text? : Json → Option String
  | .text s => some s
  | _ => none

/-- The first member called `name`. -/
def member? (name : String) : Json → Option Json
  | .object members => (members.find? (·.1 == some name)).map (·.2)
  | _ => none

end Json

end BuildYard
