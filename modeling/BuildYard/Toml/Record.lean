import BuildYard.Toml.Value

/-!
# Records in TOML

A record is written as a table, whose entries are its fields by name, or as an
array of its fields in order. Whether entries with other names are refused,
and whether an array may go on after the last field, differs from record to
record; `Strictness` says which.
-/

set_option autoImplicit false

namespace BuildYard.Toml

/-- What a record does with more than its fields. -/
structure Strictness where
  /-- entries with other names are refused -/
  closed : Bool := true
  /-- elements after the last field are refused -/
  exact : Bool := false
  deriving DecidableEq, Repr

/-- The fields of a record in the order of `names`, `none` for each that is missing. -/
def fields? (rule : Strictness) (names : List String) : Toml → Option (List (Option Toml))
  | .table entries =>
    if rule.closed && !(entries.all fun entry => names.contains entry.1) then none
    else some (names.map (lookup · entries))
  | .array items =>
    if rule.exact && names.length < items.length then none
    else
      some ((items.take names.length).map some ++
        List.replicate (names.length - items.length) none)
  | _ => none

/-- The text a value is. -/
def text? : Toml → Option String
  | .text s => some s
  | _ => none

/-- The truth value a value is. -/
def bool? : Toml → Option Bool
  | .bool b => some b
  | _ => none

/-- The elements of an array, each read by `read`. -/
def list? {α : Type} (read : Toml → Option α) : Toml → Option (List α)
  | .array items => items.mapM read
  | _ => none

/-- A field with a value to take when it is missing. -/
def fieldOr {α : Type} (default : α) (read : Toml → Option α) : Option Toml → Option α
  | none => some default
  | some value => read value

/-- A field that may be missing. -/
def optionalField {α : Type} (read : Toml → Option α) : Option Toml → Option (Option α) :=
  fieldOr none fun value => (read value).map some

end BuildYard.Toml
