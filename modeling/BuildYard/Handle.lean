import BuildYard.Json.Printer

/-!
# Containers by handle

A handle names a container that the engine created: the image it was created
from and the id that the engine gave it. What does not exist yet has no handle.
-/

set_option autoImplicit false

namespace BuildYard

/-- A container that the engine created. -/
structure Handle where
  image : String
  id : String
  deriving DecidableEq, Repr, Inhabited

namespace Handle

/-- The first twelve characters of the id. -/
def shortId (handle : Handle) : String :=
  String.ofList (handle.id.toList.take 12)

/-- How messages show a container. -/
def display (handle : Handle) : String :=
  handle.shortId ++ " (" ++ handle.image ++ ")"

/-- The handle as a JSON record, the image first. -/
def toJson (handle : Handle) : Json :=
  .record [("image", .text handle.image), ("id", .text handle.id)]

end Handle

end BuildYard
