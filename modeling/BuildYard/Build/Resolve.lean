import BuildYard.Build.Action
import BuildYard.ImageSource

/-!
# From image sources to tags

A container is created from a tag. A named image is its own tag; it is pulled
when the engine does not have it, and always when that is asked for. An image
with a Dockerfile is built under a new tag. The image that opens the engine's
socket needs nothing.
-/

set_option autoImplicit false

namespace BuildYard.ImageSource

/-- Work that yields a tag or the reason why there is none. -/
abbrev Resolution (α : Type) := ExceptT ResolutionError (Program Action Action.Answer) α

/-- An operation on the engine on the way to a tag. -/
def call (call : Call) : Resolution call.Value := do
  match ← ExceptT.lift (Work.call call) with
  | .ok value => pure value
  | .error cause => throw (.engine cause)

/-- An info event. -/
def info (text : String) : Resolution Unit :=
  ExceptT.lift (Work.note .info .images text)

/-- The tag for an image that is built; `number` makes it a new one. -/
def builtTag (number : Nat) : String :=
  "stevedore-" ++ String.ofList (Text.fixed 16 16 number)

/-- Makes sure that the engine has a named image. -/
def resolveNamed (image : String) (forcePull : Bool) : Resolution String := do
  let found ← call (.hasImage image)
  if !found || forcePull then
    info ("Pulling image " ++ image)
    call (.pullImage image)
  pure image

/-- Builds an image from a context below the workspace. -/
def resolveDockerfile (workspace context file : String) (forcePull : Bool) :
    Resolution String := do
  let archive ← ExceptT.mk (Work.act (.context workspace context file))
  let tag := builtTag (← ExceptT.lift (Work.act .freshNumber))
  info ("Building image " ++ tag ++ " from " ++ Path.join context file)
  call (.buildImage archive tag forcePull)
  pure tag

/-- The tag for an image source, as seen from a workspace. -/
def resolve (workspace : String) (source : ImageSource) : Resolution String :=
  ExceptT.mk (Work.within { part := .images, name := "resolve" }
    (match source with
      | named image forcePull => resolveNamed image forcePull
      | dockerfile context file forcePull => resolveDockerfile workspace context file forcePull
      | engineSocket => do
        ExceptT.lift (Work.note .debug .images "Docker socket sidecar needs no resolution")
        pure socketImage : Resolution String).run)

end BuildYard.ImageSource
