import BuildYard.Text.Blank

/-!
# What can go wrong

Three layers: an `EngineError` is what the container engine or the way to it
did, a `ResolutionError` keeps an image from becoming a tag, and a
`ProvisionError` says which operation on which resource failed. A
`ConfigError` is about a file of settings or of containers.

Every error has a `message` and a `chain`: its own message and then the
message of each cause in turn. An error that adds nothing to its cause takes
the cause's place in the chain.
-/

set_option autoImplicit false

namespace BuildYard

/-! ## The operating system -/

/-- A failed operation on files or pipes. -/
inductive IoError where
  | notFound
  | permissionDenied
  | notDirectory
  | isDirectory
  | brokenPipe
  | nameTooLong
  | tooManyLinks
  /-- a file or a stream that should be text is not UTF-8 -/
  | notText
  | other (text : String)
  deriving DecidableEq, Repr

namespace IoError

/-- What the system says about it. -/
def message : IoError → String
  | notFound => "No such file or directory (os error 2)"
  | permissionDenied => "Permission denied (os error 13)"
  | notDirectory => "Not a directory (os error 20)"
  | isDirectory => "Is a directory (os error 21)"
  | brokenPipe => "Broken pipe (os error 32)"
  | nameTooLong => "File name too long (os error 36)"
  | tooManyLinks => "Too many levels of symbolic links (os error 40)"
  | notText => "stream did not contain valid UTF-8"
  | other text => text

/-- Whether the text is the system's own. -/
def isOfSystem : IoError → Bool
  | notText | other _ => false
  | _ => true

end IoError

/-! ## The engine -/

/-- A failed request to the engine's API. -/
inductive ApiError where
  /-- the engine answered with an error status -/
  | status (code : Nat) (text : String)
  /-- the socket does not exist -/
  | noSocket (path : String)
  /-- a line of a progress stream reports an error -/
  | stream
  /-- the answer is not what the request promises, or no answer came -/
  | other (text : String)
  deriving DecidableEq, Repr

/-- The text of a failed request. -/
def ApiError.message : ApiError → String
  | .status code text => "Docker responded with status code " ++ toString code ++ ": " ++ text
  | .noSocket path => "Socket not found: " ++ path
  | .stream => "Docker stream error"
  | .other text => text

/-- A failure while talking to the container engine. -/
inductive EngineError where
  /-- the program of the command line could not be started -/
  | notInstalled (path : String)
  /-- a command of the command line was not successful -/
  | cli (operation text : String)
  | api (cause : ApiError)
  | io (cause : IoError)
  /-- an archive could not be written or read -/
  | archive (text : String)
  /-- a task ended without a result -/
  | taskLost (text : String)
  /-- the engine reported a failure inside a stream of its own -/
  | reported (operation text : String)
  /-- the driver cannot do what the settings ask -/
  | config (text : String)
  deriving DecidableEq, Repr

namespace EngineError

/-- The text of the error. -/
def message : EngineError → String
  | notInstalled path => "Container engine CLI is not installed or not accessible: " ++ path
  | cli operation text => "Engine CLI error during " ++ operation ++ ": " ++ text
  | api cause => "Engine API error: " ++ cause.message
  | io cause => "Engine I/O error: " ++ cause.message
  | archive text => "Archive error: " ++ text
  | taskLost text => "Task join error: " ++ text
  | reported operation text =>
    "Engine reported an error during " ++ operation ++ ": " ++ text
  | config text => "Unsupported engine configuration: " ++ text

/-- The messages of the causes below the error. -/
def causes : EngineError → List String
  | api cause => [cause.message]
  | io cause => [cause.message]
  | _ => []

/-- The messages from the error down. -/
def chain (e : EngineError) : List String :=
  e.message :: e.causes

end EngineError

/-! ## Images -/

/-- A failure on the way from an image source to a tag. -/
inductive ResolutionError where
  | missingContext (path : String)
  | missingDockerfile (path : String)
  | packaging (cause : IoError)
  /-- stands for its cause -/
  | engine (cause : EngineError)
  deriving DecidableEq, Repr

namespace ResolutionError

/-- The text of the error. -/
def message : ResolutionError → String
  | missingContext path => "Build context " ++ path ++ " does not exist"
  | missingDockerfile path => "Dockerfile " ++ path ++ " does not exist"
  | packaging cause => "Failed to package build context: " ++ cause.message
  | engine cause => cause.message

/-- The messages of the causes below the error. -/
def causes : ResolutionError → List String
  | packaging cause => [cause.message]
  | engine cause => cause.causes
  | _ => []

/-- The messages from the error down. -/
def chain (e : ResolutionError) : List String :=
  e.message :: e.causes

end ResolutionError

/-! ## Builds -/

/-- The kinds of things that a build creates. -/
inductive Resource where
  | volume
  | agentContainer
  | checkoutContainer
  | workContainer
  | sidecarContainer
  deriving DecidableEq, Repr

/-- How messages name a kind of thing. -/
def Resource.name : Resource → String
  | volume => "volume"
  | agentContainer => "agent container"
  | checkoutContainer => "checkout container"
  | workContainer => "work container"
  | sidecarContainer => "sidecar container"

/-- One removal that failed while a build was cleared away. -/
structure CleanupFailure where
  /-- which thing of the build it was -/
  resource : String
  /-- its id or name -/
  target : String
  cause : EngineError
  deriving DecidableEq, Repr

/-- The text of a failed removal. -/
def CleanupFailure.message (failure : CleanupFailure) : String :=
  failure.resource ++ " " ++ failure.target ++ ": " ++ failure.cause.message

/-- A failed operation of a build. -/
inductive ProvisionError where
  | engineUnreachable (cause : EngineError)
  | existenceCheckFailed (resource : Resource) (target : String) (cause : EngineError)
  | creationFailed (resource : Resource) (target : String) (cause : EngineError)
  | imageResolutionFailed (image : String) (cause : ResolutionError)
  | executionFailed (container : String) (cause : EngineError)
  /-- some removals failed; all were attempted -/
  | cleanupFailed (failures : List CleanupFailure)
  | sidecarCollision (name : String)
  | agentNotPrepared
  deriving DecidableEq, Repr

namespace ProvisionError

/-- The text of the error. -/
def message : ProvisionError → String
  | engineUnreachable cause => "Container engine is unreachable: " ++ cause.message
  | existenceCheckFailed resource target cause =>
    "Failed to check whether " ++ resource.name ++ " " ++ target ++ " exists: " ++ cause.message
  | creationFailed resource target cause =>
    "Failed to create " ++ resource.name ++ " for " ++ target ++ ": " ++ cause.message
  | imageResolutionFailed image cause =>
    "Failed to resolve image " ++ image ++ ": " ++ cause.message
  | executionFailed container cause =>
    "Failed to start process in container " ++ container ++ ": " ++ cause.message
  | cleanupFailed failures =>
    "Cleanup failed for " ++ toString failures.length ++ " resource(s): " ++
      Text.join "; " (failures.map CleanupFailure.message)
  | sidecarCollision name =>
    "Sidecar name collision: a sidecar named '" ++ name ++ "' already exists in this build"
  | agentNotPrepared => "Agent container has not been prepared"

/-- The messages of the causes below the error. -/
def causes : ProvisionError → List String
  | engineUnreachable cause => cause.chain
  | existenceCheckFailed _ _ cause => cause.chain
  | creationFailed _ _ cause => cause.chain
  | imageResolutionFailed _ cause => cause.chain
  | executionFailed _ cause => cause.chain
  | _ => []

/-- The messages from the error down. -/
def chain (e : ProvisionError) : List String :=
  e.message :: e.causes

end ProvisionError

/-! ## Files -/

/-- A file of settings or of containers that cannot be used. -/
inductive ConfigError where
  | io (path : String) (cause : IoError)
  | parse (path text : String)
  | validation (text : String)
  deriving DecidableEq, Repr

namespace ConfigError

/-- The text of the error. -/
def message : ConfigError → String
  | io path cause => "Failed to read " ++ path ++ ": " ++ cause.message
  | parse path text => "Failed to parse " ++ path ++ ": " ++ text
  | validation text => "Configuration validation error: " ++ text

/-- The messages of the causes below the error. -/
def causes : ConfigError → List String
  | io _ cause => [cause.message]
  | _ => []

/-- The messages from the error down. -/
def chain (e : ConfigError) : List String :=
  e.message :: e.causes

end ConfigError

end BuildYard
