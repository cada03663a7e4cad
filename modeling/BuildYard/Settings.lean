import BuildYard.Error
import BuildYard.Path
import BuildYard.Text.Digits
import BuildYard.Toml.Document
import BuildYard.Toml.Record

/-!
# Settings

Settings say how to reach the engine, which images the builds use on their
own behalf, and how the agent container is set up. Every field has a default.
The order in which the parts speak: a choice on the command line, then the
environment, then the settings file, then the default.
-/

set_option autoImplicit false

namespace BuildYard

/-- How the engine is asked. -/
inductive DriverKind where
  /-- by its command line -/
  | cli
  /-- by its API -/
  | native
  deriving DecidableEq, Repr, Inhabited

namespace DriverKind

/-- The word for a kind. -/
def name : DriverKind → String
  | cli => "cli"
  | native => "native"

/-- The kind that a word names, in whatever case. -/
def ofText (word : String) : Except ConfigError DriverKind :=
  let folded := Text.fold word.toList
  if folded = "cli".toList then .ok .cli
  else if folded = "native".toList then .ok .native
  else
    .error (.validation
      ("Unknown driver: " ++ word ++ ". Supported drivers: cli, native"))

/-- The kind that is written in exactly one of the two words. -/
def ofWord? : String → Option DriverKind
  | "cli" => some .cli
  | "native" => some .native
  | _ => none

/-- Reads a kind: its word, or a table with the word as its only key and nothing
under it. -/
def ofToml? : Toml → Option DriverKind
  | .text word => ofWord? word
  | .table [(word, .table [])] | .table [(word, .array [])] => ofWord? word
  | _ => none

end DriverKind

/-- How to reach the engine. -/
structure EngineSettings where
  host : Option String := none
  tlsVerify : Bool := false
  /-- key material in PEM form: authority, certificate, key -/
  caPem : Option String := none
  certPem : Option String := none
  keyPem : Option String := none
  /-- the program of the engine's command line -/
  dockerPath : String := "docker"
  deriving DecidableEq, Repr, Inhabited

/-- Whether any key material is set. -/
def EngineSettings.hasKeyMaterial (engine : EngineSettings) : Bool :=
  engine.caPem.isSome || engine.certPem.isSome || engine.keyPem.isSome

/-- Images that every build uses. -/
structure ImageSettings where
  /-- the image of the agent container -/
  agent : String := "jenkinsci/slave"
  /-- the image of the checkout container -/
  checkout : String := "buildpack-deps:scm"
  deriving DecidableEq, Repr, Inhabited

/-- How the agent container is set up. -/
structure AgentSettings where
  /-- a host file that is copied into the workspace root -/
  payload : Option String := none
  command : List String :=
    ["java", "-Djava.io.tmpdir=/home/jenkins/.tmp", "-jar", "/home/jenkins/slave.jar"]
  /-- a host file that becomes the helper of every work container -/
  helper : Option String := none
  /-- where the workspace is mounted in every container -/
  workspaceRoot : String := "/home/jenkins/"
  /-- user and group by number, joined by a colon -/
  user : String := "10000:10000"
  /-- keep the agent container for the next build -/
  reuse : Bool := true
  deriving DecidableEq, Repr, Inhabited

namespace AgentSettings

/-- The directory for temporary files, shared through the workspace. -/
def tmpDir (agent : AgentSettings) : String :=
  agent.workspaceRoot ++ ".tmp"

/-- The name of the payload inside the workspace root. -/
def payloadName? (agent : AgentSettings) : Option String :=
  agent.payload.bind Path.fileName?

/-- The numbers of the user and the group. -/
def uidGid? (agent : AgentSettings) : Option (Nat × Nat) := do
  let (uid, gid) ← Text.splitFirst? ':' agent.user.toList
  let uid ← Text.natBelow? 10 UInt32.size uid
  let gid ← Text.natBelow? 10 UInt32.size gid
  some (uid, gid)

end AgentSettings

/-- All settings. -/
structure Settings where
  driver : Option DriverKind := none
  engine : EngineSettings := {}
  images : ImageSettings := {}
  agent : AgentSettings := {}
  deriving DecidableEq, Repr, Inhabited

/-! ## Reading -/

/-- Reads how to reach the engine. -/
def EngineSettings.ofToml? (value : Toml) : Option EngineSettings :=
  match value.fields? {} ["host", "tls_verify", "ca_pem", "cert_pem", "key_pem", "docker_path"] with
  | some [host, tlsVerify, caPem, certPem, keyPem, dockerPath] => do
    let default : EngineSettings := {}
    let host ← Toml.optionalField Toml.text? host
    let tlsVerify ← Toml.fieldOr default.tlsVerify Toml.bool? tlsVerify
    let caPem ← Toml.optionalField Toml.text? caPem
    let certPem ← Toml.optionalField Toml.text? certPem
    let keyPem ← Toml.optionalField Toml.text? keyPem
    let dockerPath ← Toml.fieldOr default.dockerPath Toml.text? dockerPath
    some { host, tlsVerify, caPem, certPem, keyPem, dockerPath }
  | _ => none

/-- Reads the images that every build uses. -/
def ImageSettings.ofToml? (value : Toml) : Option ImageSettings :=
  match value.fields? {} ["agent", "checkout"] with
  | some [agent, checkout] => do
    let default : ImageSettings := {}
    let agent ← Toml.fieldOr default.agent Toml.text? agent
    let checkout ← Toml.fieldOr default.checkout Toml.text? checkout
    some { agent, checkout }
  | _ => none

/-- Reads how the agent container is set up. -/
def AgentSettings.ofToml? (value : Toml) : Option AgentSettings :=
  match value.fields? {} ["payload", "command", "helper", "workspace_root", "user", "reuse"] with
  | some [payload, command, helper, workspaceRoot, user, reuse] => do
    let default : AgentSettings := {}
    let payload ← Toml.optionalField Toml.text? payload
    let command ← Toml.fieldOr default.command (Toml.list? Toml.text?) command
    let helper ← Toml.optionalField Toml.text? helper
    let workspaceRoot ← Toml.fieldOr default.workspaceRoot Toml.text? workspaceRoot
    let user ← Toml.fieldOr default.user Toml.text? user
    let reuse ← Toml.fieldOr default.reuse Toml.bool? reuse
    some { payload, command, helper, workspaceRoot, user, reuse }
  | _ => none

namespace Settings

/-- Reads settings from the table of a document. -/
def ofToml? (entries : List (String × Toml)) : Option Settings :=
  match (Toml.table entries).fields? {} ["driver", "engine", "images", "agent"] with
  | some [driver, engine, images, agent] => do
    let driver ← Toml.optionalField DriverKind.ofToml? driver
    let engine ← Toml.fieldOr {} EngineSettings.ofToml? engine
    let images ← Toml.fieldOr {} ImageSettings.ofToml? images
    let agent ← Toml.fieldOr {} AgentSettings.ofToml? agent
    some { driver, engine, images, agent }
  | _ => none

/-- The settings that a text says. -/
def read? (text : String) : Option Settings :=
  (Toml.read? text).bind ofToml?

/-- What is said of a text that says no settings. -/
def refusal : String := "not a settings file"

/-- The settings of a text found at `path`. -/
def ofText (path text : String) : Except ConfigError Settings :=
  match read? text with
  | some settings => .ok settings
  | none => .error (.parse path refusal)

/-! ## Checking and overriding -/

/-- Whether a workspace root is absolute and ends with a slash. -/
def rootIsProper (root : String) : Bool :=
  root.startsWith "/" && root.endsWith "/"

/-- The first thing that is wrong with settings, if anything is. -/
def validate (settings : Settings) : Except ConfigError Unit :=
  if !rootIsProper settings.agent.workspaceRoot then
    .error (.validation
      ("agent.workspace_root '" ++ settings.agent.workspaceRoot ++
        "' must be absolute and end with '/'"))
  else if settings.agent.uidGid?.isNone then
    .error (.validation
      ("agent.user '" ++ settings.agent.user ++ "' must be numeric uid:gid"))
  else if settings.agent.command.isEmpty then
    .error (.validation "agent.command must not be empty")
  else if settings.images.agent.isEmpty || settings.images.checkout.isEmpty then
    .error (.validation "images.agent and images.checkout must be set")
  else .ok ()

end Settings

/-- The variables that override settings. -/
structure Overrides where
  /-- the kind of driver -/
  driver : Option String := none
  /-- the engine's host; empty says nothing -/
  host : Option String := none
  /-- the program of the engine's command line; empty says nothing -/
  dockerPath : Option String := none
  deriving DecidableEq, Repr, Inhabited

namespace Overrides

/-- The name of the variable for the kind of driver. -/
def driverVariable : String := "STEVEDORE_DRIVER"

/-- The name of the variable for the engine's host. -/
def hostVariable : String := "STEVEDORE_DOCKER_HOST"

/-- The name of the variable for the engine's command line. -/
def dockerPathVariable : String := "STEVEDORE_DOCKER_PATH"

/-- The overrides in an environment. -/
def ofEnvironment (read : String → Option String) : Overrides :=
  { driver := read driverVariable
    host := read hostVariable
    dockerPath := read dockerPathVariable }

/-- The kind of driver in the environment: none, one, or a word that names none. -/
def kind? (overrides : Overrides) : Option (Except ConfigError DriverKind) :=
  overrides.driver.map DriverKind.ofText

/-- What a warning says when the variable for the driver names no kind. -/
def warning? (overrides : Overrides) : Option String :=
  match overrides.kind? with
  | some (.error e) => some ("Ignoring " ++ driverVariable ++ ": " ++ e.message)
  | _ => none

/-- `fallback`, unless the override says something. -/
def nonEmptyOr {α : Type} (wrap : String → α) (fallback : α) : Option String → α
  | some text => if text.isEmpty then fallback else wrap text
  | none => fallback

/-- Settings with the overrides applied. -/
def apply (overrides : Overrides) (settings : Settings) : Settings :=
  { settings with
    driver := match overrides.kind? with
      | some (.ok kind) => some kind
      | _ => settings.driver
    engine :=
      { settings.engine with
        host := nonEmptyOr some settings.engine.host overrides.host
        dockerPath := nonEmptyOr id settings.engine.dockerPath overrides.dockerPath } }

/-- The kind of driver to use: the choice on the command line, else the one in the
environment, else the one in the settings, else the command line's. -/
def detect (overrides : Overrides) (chosen : Option DriverKind) (settings : Settings) :
    DriverKind :=
  match chosen, overrides.kind? with
  | some kind, _ => kind
  | none, some (.ok kind) => kind
  | none, _ => settings.driver.getD .cli

end Overrides

end BuildYard
