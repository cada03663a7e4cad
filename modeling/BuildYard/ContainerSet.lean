import BuildYard.Error
import BuildYard.ImageSource
import BuildYard.Placement
import BuildYard.Toml.Document

/-!
# The containers that a job declares

A job declares the container its builds run in and the sidecars beside it,
each with an image source and placement hints. The declaration is a TOML
document; unknown names are refused everywhere except beside the fields of a
sidecar.
-/

set_option autoImplicit false

namespace BuildYard

/-- An image with where and how to run it. -/
structure ContainerSpec where
  image : ImageSource
  hints : Hints := {}
  deriving DecidableEq, Repr, Inhabited

/-- The hints with the mounts that the image needs. -/
def ContainerSpec.effectiveHints (spec : ContainerSpec) : Hints :=
  spec.hints.withMounts spec.image.implicitMounts

/-- A named auxiliary container. -/
structure Sidecar where
  name : String
  container : ContainerSpec
  deriving DecidableEq, Repr, Inhabited

/-- Everything a job declares about the containers of its builds. -/
structure ContainerSet where
  work : ContainerSpec
  sidecars : List Sidecar := []
  deriving DecidableEq, Repr, Inhabited

/-- Variables added to `env` whose name is not set there yet. -/
def addMissing (env more : List (String × String)) : List (String × String) :=
  more.foldl (fun env pair => if env.any (·.1 == pair.1) then env else env ++ [pair]) env

namespace ContainerSet

/-- The variables that the images give to a build; of two with one name the first. -/
def environment (set : ContainerSet) : List (String × String) :=
  set.sidecars.foldl (fun env sidecar => addMissing env sidecar.container.image.environment)
    set.work.image.environment

end ContainerSet

/-! ## Reading -/

/-- The fields of a container. -/
def ContainerSpec.ofFields? (rule : Toml.Strictness) : List (Option Toml) → Option ContainerSpec
  | [some image, hints] => do
    let image ← ImageSource.ofToml? image
    let hints ← Toml.fieldOr {} (Hints.ofToml? rule) hints
    some { image, hints }
  | _ => none

/-- Reads a container. -/
def ContainerSpec.ofToml? (value : Toml) : Option ContainerSpec :=
  (value.fields? {} ["image", "hints"]).bind (ContainerSpec.ofFields? {})

/-- Reads a sidecar: a table with a name and the fields of a container. -/
def Sidecar.ofToml? : Toml → Option Sidecar
  | .table entries => do
    let name ← (Toml.lookup "name" entries).bind Toml.text?
    let container ← ContainerSpec.ofFields? { exact := true }
      [Toml.lookup "image" entries, Toml.lookup "hints" entries]
    some { name, container }
  | _ => none

namespace ContainerSet

/-- Reads a container set from the table of a document. -/
def ofToml? (entries : List (String × Toml)) : Option ContainerSet :=
  match (Toml.table entries).fields? {} ["work", "sidecars"] with
  | some [some work, sidecars] => do
    let work ← ContainerSpec.ofToml? work
    let sidecars ← Toml.fieldOr [] (Toml.list? Sidecar.ofToml?) sidecars
    some { work, sidecars }
  | _ => none

/-- The container set that a text declares. -/
def read? (text : String) : Option ContainerSet :=
  (Toml.read? text).bind ofToml?

/-- What is said of a text that declares no container set. -/
def refusal : String := "not a container set"

/-- The container set of a text found at `path`. -/
def ofText (path text : String) : Except ConfigError ContainerSet :=
  match read? text with
  | some set => .ok set
  | none => .error (.parse path refusal)

end ContainerSet

/-- The image source that a text declares. -/
def ImageSource.read? (text : String) : Option ImageSource :=
  (Toml.read? text).bind fun entries => ImageSource.ofToml? (.table entries)

end BuildYard
