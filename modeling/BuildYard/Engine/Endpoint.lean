import BuildYard.Host
import BuildYard.Settings

/-!
# Where the engine listens

An endpoint says how the engine is reached: at which host, and with which key
material. Key material is kept in a directory of its own from the opening of
the endpoint until it is closed; closing twice does nothing the second time.
-/

set_option autoImplicit false

namespace BuildYard

/-- A task that can fail as talking to the engine can. -/
abbrev Attempt (α : Type) := ExceptT EngineError Host.Task α

/-- How the engine is reached. -/
structure Endpoint where
  host : Option String := none
  tlsVerify : Bool := false
  /-- the directory with the key material -/
  keyDir : Option String := none
  deriving DecidableEq, Repr, Inhabited

namespace Endpoint

/-- The files of the key material that is set, under the names that the engine's
program looks for. -/
def keyFiles (engine : EngineSettings) : List (String × String) :=
  [("ca.pem", engine.caPem), ("cert.pem", engine.certPem), ("key.pem", engine.keyPem)].filterMap
    fun (name, pem) => pem.map (name, ·)

/-- A debug event of the endpoint. -/
def debug (text : String) : Attempt Unit :=
  ExceptT.lift (Host.note .debug .endpoint text)

/-- A failure of the system as one of talking to the engine. -/
def ofSystem {α : Type} (task : Host.Task (Except IoError α)) : Attempt α := do
  match ← ExceptT.lift task with
  | .ok value => pure value
  | .error cause => throw (.io cause)

/-- Opens the endpoint that settings describe. -/
def ofSettings (engine : EngineSettings) : Attempt Endpoint := do
  let keyDir ←
    if engine.hasKeyMaterial then do
      let dir ← ofSystem (Host.ask (.storeKeys (keyFiles engine)))
      debug ("Materialized engine key material in " ++ dir)
      pure (some dir)
    else pure none
  pure { host := engine.host.filter (· ≠ ""), tlsVerify := engine.tlsVerify, keyDir }

/-- Whether talking to the endpoint involves keys. -/
def isTls (endpoint : Endpoint) : Bool :=
  endpoint.tlsVerify || endpoint.keyDir.isSome

/-- The variables by which the engine's program reaches the endpoint. -/
def environment (endpoint : Endpoint) : List (String × String) :=
  (endpoint.host.map (("DOCKER_HOST", ·))).toList ++
    (if endpoint.tlsVerify then [("DOCKER_TLS_VERIFY", "1")] else []) ++
    (endpoint.keyDir.map (("DOCKER_CERT_PATH", ·))).toList

/-- Discards the key material, if there is any left. -/
def close (endpoint : Endpoint) : Attempt Unit :=
  match endpoint.keyDir with
  | none => pure ()
  | some dir => do
    debug ("Removing engine key material in " ++ dir)
    ofSystem (Host.ask (.discardKeys dir))

/-- The endpoint once it is closed, whether or not the directory could be removed. -/
def closed (endpoint : Endpoint) : Endpoint :=
  { endpoint with keyDir := none }

end Endpoint

end BuildYard
