import BuildYard.Json.Value

/-!
# Records in JSON

A record is written as an object, whose members are its fields by name, or as
an array of its fields in order. A field may be named once; members with other
names are passed over; an array may stop early but not go on after the last
field.
-/

set_option autoImplicit false

namespace BuildYard.Json

/-- Whether no known name occurs twice and no name is broken. -/
def namesOnce (names : List String) (members : List (Option String × Json)) : Bool :=
  members.all (·.1.isSome) &&
    names.all fun name => (members.filter (·.1 == some name)).length ≤ 1

/-- The fields of a record in the order of `names`, `none` for each that is missing. -/
def fields? (names : List String) : Json → Option (List (Option Json))
  | .object members =>
    if namesOnce names members then
      some (names.map fun name => (members.find? (·.1 == some name)).map (·.2))
    else none
  | .array items =>
    if items.length ≤ names.length then
      some (items.map some ++ List.replicate (names.length - items.length) none)
    else none
  | _ => none

/-- A field that may be missing or null. -/
def optional? {α : Type} (read : Json → Option α) : Option Json → Option (Option α)
  | none | some .null => some none
  | some value => (read value).map some

end BuildYard.Json
