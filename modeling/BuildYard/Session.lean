import BuildYard.Handle
import BuildYard.Json.Reader
import BuildYard.Json.Record

/-!
# Sessions

A session records which volume and which containers exist for one build, and
in which phase the build is. Only the agent container and its volume may pass
to the next build; the value that carries them over is written to a file as
JSON and read back.
-/

set_option autoImplicit false

namespace BuildYard

/-- Which container runs the processes of a build. -/
inductive Phase where
  /-- until the sources are there: the checkout container -/
  | preCheckout
  /-- from then on: the work container -/
  | build
  deriving DecidableEq, Repr, Inhabited

/-- How messages name a phase. -/
def Phase.name : Phase → String
  | preCheckout => "pre-checkout"
  | build => "build"

/-- What one build leaves for the next one of the same job. -/
structure CarryOver where
  agent : Option Handle := none
  volume : Option String := none
  deriving DecidableEq, Repr, Inhabited

/-- What exists for a build so far. -/
structure Session where
  agent : Option Handle := none
  volume : Option String := none
  checkout : Option Handle := none
  work : Option Handle := none
  /-- by name, each name once, in the order of their launch -/
  sidecars : List (String × Handle) := []
  phase : Phase := .preCheckout
  deriving DecidableEq, Repr, Inhabited

namespace Session

/-- A fresh session that begins with what an earlier build left. -/
def ofCarryOver (left : CarryOver) : Session :=
  { agent := left.agent, volume := left.volume }

/-- What the next build may begin with. -/
def carryOver (session : Session) : CarryOver :=
  { agent := session.agent, volume := session.volume }

/-- The container that runs processes in the current phase, if there is one. -/
def current (session : Session) : Option Handle :=
  match session.phase with
  | .preCheckout => session.checkout
  | .build => session.work

/-- The sidecar called `name`. -/
def sidecar? (session : Session) (name : String) : Option Handle :=
  (session.sidecars.find? (·.1 == name)).map (·.2)

/-- The session with one more sidecar. -/
def withSidecar (session : Session) (name : String) (handle : Handle) : Session :=
  { session with sidecars := session.sidecars ++ [(name, handle)] }

end Session

/-! ## The carry-over as JSON -/

/-- Reads a handle; both of its fields are needed. -/
def Handle.ofJson? (value : Json) : Option Handle :=
  match value.fields? ["image", "id"] with
  | some [some image, some id] => do
    let image ← image.text?
    let id ← id.text?
    some { image, id }
  | _ => none

namespace CarryOver

/-- The names of the fields. -/
def fieldNames : List String := ["agent_container", "workdir_volume"]

/-- The carry-over as a JSON record; what is absent is null. -/
def toJson (left : CarryOver) : Json :=
  .record
    [("agent_container", (left.agent.map Handle.toJson).getD .null),
      ("workdir_volume", (left.volume.map Json.text).getD .null)]

/-- Reads a carry-over; a missing field is absent. -/
def ofJson? (value : Json) : Option CarryOver :=
  match value.fields? fieldNames with
  | some [agent, volume] => do
    let agent ← Json.optional? Handle.ofJson? agent
    let volume ← Json.optional? Json.text? volume
    some { agent, volume }
  | _ => none

/-- The carry-over that a text says. -/
def read? (text : String) : Option CarryOver :=
  (Json.read? text).bind ofJson?

end CarryOver

end BuildYard
