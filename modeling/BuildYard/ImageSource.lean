import BuildYard.Path
import BuildYard.Toml.Record

/-!
# Where images come from

An image is named, or built from a Dockerfile in the workspace of the build,
or is the fixed one that gives a build access to the engine of the host. The
last brings a mount of the engine's socket and a variable that tells a build
where the engine listens.
-/

set_option autoImplicit false

namespace BuildYard

/-- How to obtain the image of a container. -/
inductive ImageSource where
  /-- by name or id, pulled when it is missing -/
  | named (image : String) (forcePull : Bool)
  /-- built; the context is relative to the workspace, the Dockerfile to the context -/
  | dockerfile (context file : String) (forcePull : Bool)
  /-- access to the engine of the host -/
  | engineSocket
  deriving DecidableEq, Repr, Inhabited

namespace ImageSource

/-- The image that opens the engine's socket to a build. -/
def socketImage : String := "dockins/dockersock"

/-- The mount of the engine's socket. -/
def socketMount : String := "/var/run/docker.sock:/var/run/docker.sock"

/-- The variable that names the engine, and its value. -/
def socketVariable : String × String := ("DOCKER_HOST", "tcp://localhost:2375")

/-- Whether two sources mean the same image; paths are compared step by step. -/
def same : ImageSource → ImageSource → Bool
  | named image force, named image' force' => image == image' && force == force'
  | dockerfile context file force, dockerfile context' file' force' =>
    Path.same context context' && Path.same file file' && force == force'
  | engineSocket, engineSocket => true
  | _, _ => false

/-- A short description for messages. -/
def describe : ImageSource → String
  | named image _ => image
  | dockerfile context file _ => Path.join context file
  | engineSocket => socketImage

/-- Mounts that the image needs whatever the hints say. -/
def implicitMounts : ImageSource → List String
  | engineSocket => [socketMount]
  | _ => []

/-- Variables that the image gives to the processes of a build. -/
def environment : ImageSource → List (String × String)
  | engineSocket => [socketVariable]
  | _ => []

/-- The fields of a named image. -/
def namedOfFields? : List (Option Toml) → Option ImageSource
  | [some image, force] => do
    let image ← image.text?
    let force ← Toml.fieldOr false Toml.bool? force
    some (.named image force)
  | _ => none

/-- The fields of an image that is built. -/
def dockerfileOfFields? : List (Option Toml) → Option ImageSource
  | [some context, file, force] => do
    let context ← context.text?
    let file ← Toml.fieldOr "Dockerfile" Toml.text? file
    let force ← Toml.fieldOr false Toml.bool? force
    some (.dockerfile context file force)
  | _ => none

/-- Reads the fields that go with a tag. The socket's table may hold anything
besides the tag, its array nothing. -/
def ofTagged? (tag : String) (rest : Toml) : Option ImageSource :=
  let rule : Toml.Strictness := { exact := true }
  match tag with
  | "image_id" => (rest.fields? rule ["image", "force_pull"]).bind namedOfFields?
  | "dockerfile" =>
    (rest.fields? rule ["context_path", "dockerfile", "force_pull"]).bind dockerfileOfFields?
  | "docker_socket" =>
    match rest with
    | .table _ | .array [] => some .engineSocket
    | _ => none
  | _ => none

/-- Reads an image source: a table with its tag under `type`, or an array that
begins with the tag. -/
def ofToml? : Toml → Option ImageSource
  | .table entries =>
    match Toml.lookup "type" entries with
    | some (.text tag) => ofTagged? tag (.table (entries.filter (·.1 ≠ "type")))
    | _ => none
  | .array (.text tag :: rest) => ofTagged? tag (.array rest)
  | _ => none

end ImageSource

end BuildYard
