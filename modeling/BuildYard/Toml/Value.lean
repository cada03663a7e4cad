/-!
# TOML values

What a TOML document says, as far as a reader of typed fields can tell: the
numeric value of a fraction and the instant of a date are never asked for, so
they are kept by kind only.
-/

set_option autoImplicit false

namespace BuildYard

/-- A TOML value. -/
inductive Toml where
  | text (s : String)
  | integer (n : Int)
  | fraction
  | bool (b : Bool)
  /-- a date, a time or both -/
  | moment
  | array (items : List Toml)
  | table (entries : List (String × Toml))
  deriving Inhabited

namespace Toml

/-- The value under a key of a table. -/
def lookup (key : String) (entries : List (String × Toml)) : Option Toml :=
  (entries.find? (·.1 == key)).map (·.2)

end Toml

end BuildYard
