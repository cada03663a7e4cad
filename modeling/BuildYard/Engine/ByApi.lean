import BuildYard.Engine.ApiPath
import BuildYard.Engine.Frames
import BuildYard.Engine.Launch
import BuildYard.Engine.Replies
import BuildYard.MemoryLimit
import BuildYard.Reference
import BuildYard.Running

/-!
# The engine by its API

Every operation is one or more requests. The API is reached over a local
socket or a plain connection; what needs keys, and raw options, are left to
the engine's command line. A work container is set up by a plan of the API's own
(`setUpWork`). Processes are connections that carry frames; when the frames end,
the engine is asked for the exit code.
-/

set_option autoImplicit false

namespace BuildYard

/-- A way to the engine by its API. -/
structure ByApi where
  endpoint : Endpoint
  agent : AgentSettings
  deriving DecidableEq, Repr, Inhabited

namespace ByApi

/-- A debug event. -/
def debug (text : String) : Attempt Unit :=
  ExceptT.lift (Host.note .debug .apiDriver text)

/-- A failed request as one of talking to the engine. -/
def ofRequest {α : Type} : Except ApiError α → Attempt α
  | .ok value => pure value
  | .error cause => throw (.api cause)

/-- A request to a path. -/
def request (method path : String) (query : List (String × String)) (body : Host.Body) :
    Host.Request :=
  { method, path := ApiPath.ofReference path, query, body }

/-- Where requests go. -/
def address (driver : ByApi) : String :=
  driver.endpoint.host.getD ""

/-- Sends a request and reads the reply. -/
def send {α : Type} (driver : ByApi) (request : Host.Request)
    (read : Host.Reply → Except ApiError α) : Attempt α := do
  let reply ← ofRequest (← ExceptT.lift (Host.ask (.send driver.address request)))
  ofRequest (read reply)

/-- A reply of which only the success matters. -/
def unread (reply : Host.Reply) : Except ApiError Unit :=
  (Replies.accepted reply).map fun _ => ()

/-- Sends a request of which only the success matters. -/
def command (driver : ByApi) (method path : String) (query : List (String × String))
    (body : Host.Body) : Attempt Unit :=
  driver.send (request method path query body) unread

/-- Sends a request that looks whether something exists. -/
def probe {α : Type} (driver : ByApi) (path : String) (read : Json → Option α) :
    Attempt Bool := do
  let answer ← ExceptT.lift (Host.ask (.send driver.address (request "GET" path [] .none)))
  let reply ← ofRequest answer
  match Replies.decoded read reply with
  | .ok _ => pure true
  | .error (.status 404 _) => pure false
  | .error cause => throw (.api cause)

/-- Whether a value is a record of the given fields. -/
def recordOf (fields : List Replies.Field) (value : Json) : Option Unit :=
  (Replies.record? fields value).map fun _ => ()

/-- Sends a request for a connection to the streams of a process. -/
def connect (driver : ByApi) (request : Host.Request) (input : Option Host.Input) :
    Attempt Host.Stream := do
  match ← ofRequest (← ExceptT.lift (Host.ask (.connect driver.address request input))) with
  | .inr stream => pure stream
  | .inl reply =>
    match Replies.accepted reply with
    | .error cause => throw (.api cause)
    | .ok _ => throw (.api (.other "the connection was not kept"))

/-! ## Launches -/

/-- Texts as JSON. -/
def texts (items : List String) : Json :=
  .array (items.map .text)

/-- The memory limit among hints in bytes. -/
def memoryOf (hints : Hints) : Except EngineError (Option Int) :=
  match hints.memory with
  | none => .ok none
  | some limit =>
    match MemoryLimit.parse? limit with
    | some bytes => .ok (some bytes)
    | none => .error (.config ("invalid memory limit '" ++ limit ++ "'"))

/-- Whether raw options say anything. -/
def hasRawOptions (hints : Hints) : Bool :=
  (hints.rawOptions.map fun raw => !(Text.strip raw.toList).isEmpty).getD false

/-- What a container shares with an agent. -/
def sharedConfig (beside : Handle) (hints : Hints) :
    Except EngineError (List (String × Json)) := do
  if hasRawOptions hints then
    throw (.config "raw engine options require the cli driver")
  let memory ← memoryOf hints
  pure
    (((memory.map fun bytes => ("Memory", Json.ofInt bytes)).toList) ++
      (if hints.volumes.isEmpty then [] else [("Binds", texts hints.volumes)]) ++
      [("NetworkMode", .text ("container:" ++ beside.id)),
        ("VolumesFrom", texts [beside.id]),
        ("IpcMode", .text ("container:" ++ beside.id))])

/-- The part of a creation that concerns the host. -/
def hostConfig (creation : Launch.Creation) : Except EngineError (List (String × Json)) := do
  let shared ← match creation.shared with
    | some (beside, hints) => sharedConfig beside hints
    | none => pure []
  let mounted := creation.workspace.map fun (volume, root) =>
    ("Binds", texts [volume ++ ":" ++ root])
  let silent := if creation.interactive then
    [("LogConfig", Json.record [("Type", .text "none")])] else []
  pure (mounted.toList ++ silent ++ shared)

/-- The body of the request that creates a container. -/
def creationBody (creation : Launch.Creation) : Except EngineError Json := do
  let host ← hostConfig creation
  let attached := if creation.interactive then
    ["AttachStdin", "AttachStdout", "AttachStderr", "OpenStdin"].map (·, Json.bool true) else []
  let command := if creation.interactive || creation.user.isSome then
    [("Cmd", texts creation.command)] else []
  pure (Json.record
    ((creation.user.map fun user => ("User", Json.text user)).toList ++ attached ++
      ((creation.tmpDir.map fun dir => ("Env", texts ["TMPDIR=" ++ dir])).toList) ++ command ++
      [("Image", .text creation.image)] ++
      ((creation.workDir.map fun dir => ("WorkingDir", Json.text dir)).toList) ++
      [("HostConfig", .record host)]))

/-- Creates a container. -/
def create (driver : ByApi) (creation : Launch.Creation) : Attempt String := do
  let body ← ExceptT.mk (pure (creationBody creation))
  let (id, warnings) ←
    driver.send (request "POST" "/containers/create" [] (.json body))
      (Replies.decoded Replies.creation?)
  warnings.forM fun warning =>
    ExceptT.lift
      (Host.note .warn .apiDriver ("Engine warning creating container: " ++ warning))
  pure id

/-- The path of a container. -/
def containerPath (id part : String) : String :=
  "/containers/" ++ id ++ part

/-- Starts a container. -/
def startContainer (driver : ByApi) (id : String) : Attempt Unit :=
  driver.command "POST" (containerPath id "/start") [] .none

/-- What an error says of a request, without that it was one to the API. -/
def bareText : EngineError → String
  | .api cause => cause.message
  | cause => cause.message

/-- Removes a container whatever its state. -/
def remove (driver : ByApi) (id : String) : Attempt Unit :=
  driver.command "DELETE" (containerPath id "") [("force", "true")] .none

/-- The contents of a file inside a container. -/
def copyOut (driver : ByApi) (id path : String) : Attempt Bytes := do
  let archive ←
    driver.send (request "GET" (containerPath id "/archive") [("path", path)] .none)
      Replies.accepted
  match Archive.firstFile archive with
  | .ok contents => pure contents
  | .error fault => throw (.archive fault.message)

/-- A step of a launch as requests. -/
def step (driver : ByApi) : (s : Launch.Step) → Host.Task s.Answer
  | .create creation => (driver.create creation).run
  | .copyOut id path => (driver.copyOut id path).run
  | .copyIn id dir archive =>
    (driver.command "PUT" (containerPath id "/archive") [("path", dir)] (.bytes archive)).run
  | .start id => (driver.startContainer id).run
  | .discard id => Except.mapError bareText <$> (driver.remove id).run
  | .readFile path => Host.ask (.read path)
  | .report level text => Host.note level .apiDriver text

/-- Adds a line to a text file in a directory inside a container. -/
def appendToFile (id dir name line : String) : Launch.Plan Unit := do
  let contents ← Launch.copyOut id (dir ++ "/" ++ name)
  Launch.putFile id dir name (appendLine contents line) 0o644

/-- The name of the helper in the root of a container. -/
def helperName : String :=
  String.ofList (helperPath.toList.dropWhile (· == '/'))

/-- Makes a created work container ready and starts it. -/
def setUpWork (settings : AgentSettings) (id : String) : Launch.Plan Unit := do
  appendToFile id "/etc" "group" (Account.groupEntry settings)
  appendToFile id "/etc" "passwd" (Account.passwdEntry settings)
  if let some helper := settings.helper then
    let contents ← Launch.readFile helper
    Launch.putFile id "/" helperName contents 0o555
  Launch.start id

/-- Creates and starts a work container. -/
def launchWork (settings : AgentSettings) (image : String) (beside : Handle) (hints : Hints) :
    Launch.Plan Handle := do
  let id ← Launch.create (Launch.workCreation settings image beside hints)
  Launch.report .debug ("Created work container " ++ id)
  Launch.orDiscard id (setUpWork settings id)
  pure { image, id }

/-! ## Processes -/

/-- Passes on one frame. -/
def passFrame (description : String) (sinks : Sinks) (frame : Frames.Frame) :
    Host.Task Unit :=
  match frame.channel with
  | .input => pure ()
  | .output | .console =>
    match sinks.out with
    | some sink => Host.ask (.write sink frame.data)
    | none => pure ()
  | .errors =>
    match sinks.err with
    | some sink => Host.ask (.write sink frame.data)
    | none =>
      (Text.lines (Bytes.textLossy frame.data)).forM fun line =>
        Host.remark .warn .apiDriver line (some description)

/-- Passes on what comes over a connection: its frames in their order, up to what breaks it
off. -/
def pump (description : String) (sinks : Sinks) :
    List (Except ApiError Frames.Frame) → Attempt Unit
  | [] => pure ()
  | .ok frame :: rest => do
    ExceptT.lift (passFrame description sinks frame)
    pump description sinks rest
  | .error cause :: _ => throw (.api cause)

/-- What comes over a connection: its frames, and then why it broke off, unless it ends in
order or stays open. -/
def pieces (stream : Host.Stream) : List (Except ApiError Frames.Frame) :=
  let received := Frames.decode stream.data
  let cut : Option ApiError :=
    if received.rest.isEmpty || stream.staysOpen then none
    else some (.other "the connection ended inside a frame")
  received.frames.map .ok ++ ((stream.broken.or cut).map .error).toList

/-- The course of a process on a connection: frames are passed on, then `finish` asks
how it came out; while the connection stays open it can be told to stop. -/
def course (description : String) (sinks : Sinks) (stream : Host.Stream)
    (finish stopped : Attempt Int) : Course :=
  Course.after (pump description sinks (pieces stream)).run fun
    | .error cause => .ended (.error cause)
    | .ok () =>
      if stream.staysOpen then .idle (Course.after stopped.run .ended)
      else Course.after finish.run .ended

/-- The exit code of a container that the engine waits for; minus one if it tells none. -/
def waitForExit (driver : ByApi) (id : String) : Attempt Int := do
  let body ← driver.send (request "POST" (containerPath id "/wait") [] .none) Replies.accepted
  match Replies.values false body with
  | (value :: _, _) =>
    match Replies.waitCode? value with
    | some code => pure code
    | none => throw (.api (.other "unexpected answer"))
  | ([], true) => pure (-1)
  | ([], false) => throw (.api (.other "unexpected answer"))

/-- Ends a container and waits for it. -/
def kill (driver : ByApi) (id : String) : Attempt Int := do
  ExceptT.lift (Host.remark .debug .apiDriver ("Killing agent container " ++ id) none)
  driver.command "POST" (containerPath id "/kill") [] .none
  driver.waitForExit id

/-- Attaches to the agent container and starts it. -/
def attach (driver : ByApi) (agent : Handle) (input : Option Host.Input) : Attempt Running := do
  let stream ←
    driver.connect
      (request "POST" (containerPath agent.id "/attach")
        [("stdin", Text.Literal.flag input.isSome), ("stdout", "true"), ("stderr", "true"),
          ("stream", "true"), ("logs", "false")] .none)
      input
  driver.startContainer agent.id
  debug ("Attached to agent container " ++ agent.display)
  pure (.begin ("agent " ++ agent.shortId)
    (course ("agent " ++ agent.id) .agent stream
      (driver.waitForExit agent.id) (driver.kill agent.id)))

/-- Leaves a process in a container to itself, which the API cannot end. -/
def detach (description : String) : Attempt Int := do
  ExceptT.lift
    (Host.remark .warn .apiDriver
      ("Detaching from " ++ description ++ "; the engine API cannot signal exec'ed processes")
      none)
  pure (-1)

/-- The body of the request for a process in a container. -/
def execBody (driver : ByApi) (starter : Starter) : Json :=
  let useHelper := driver.agent.helper.isSome
  .record
    ([("AttachStdout", .bool true), ("AttachStderr", .bool true),
        ("Cmd", texts (starter.argv useHelper))] ++
      (if useHelper then []
        else (starter.pwd.map fun dir => ("WorkingDir", Json.text dir)).toList))

/-- Runs a process in a container. -/
def exec (driver : ByApi) (container : String) (starter : Starter) : Attempt Running := do
  let description := Text.join " " (starter.redactedArgv driver.agent.helper.isSome)
  debug ("Running in " ++ container ++ ": " ++ description)
  let id ←
    driver.send
      (request "POST" (containerPath container "/exec") [] (.json (driver.execBody starter)))
      (Replies.decoded Replies.execId?)
  let stream ←
    driver.connect
      (request "POST" ("/exec/" ++ id ++ "/start") []
        (.json (.record [("Detach", .bool false), ("Tty", .bool false)]))) none
  pure (.begin description
    (course description starter.sinks stream
      (driver.send (request "GET" ("/exec/" ++ id ++ "/json") [] .none)
        (Replies.decoded Replies.exitCode?))
      (detach description)))

/-! ## Operations -/

/-- Follows the progress that a request starts. -/
def follow (driver : ByApi) (request : Host.Request) (topic : Replies.Topic)
    (shown : String → String) : Attempt Unit := do
  let body ← driver.send request Replies.accepted
  let (texts, result) := Replies.progress topic body
  texts.forM fun text => debug (shown text)
  ofRequest result

/-- An operation of the engine as requests. -/
def attempt (driver : ByApi) : (call : Call) → Attempt (call.Value)
  | .serverVersion =>
    driver.send (request "GET" "/version" [] .none) (Replies.decoded Replies.version?)
  | .hasVolume name =>
    if name.isEmpty then pure false
    else driver.probe ("/volumes/" ++ name) Replies.volumeName?
  | .createVolume => do
    let name ←
      driver.send (request "POST" "/volumes/create" [] (.json (.record [])))
        (Replies.decoded Replies.volumeName?)
    debug ("Created volume " ++ name)
    pure name
  | .removeVolume name => driver.command "DELETE" ("/volumes/" ++ name) [] .none
  | .hasContainer id =>
    if id.isEmpty then pure false
    else driver.probe (containerPath id "/json") (recordOf Replies.containerFields)
  | .launchAgent image volume => (Launch.agent driver.agent image volume).perform driver.step
  | .attachAgent agent input => driver.attach agent input
  | .launchWork image agent hints =>
    (launchWork driver.agent image agent hints).perform driver.step
  | .launchSidecar image agent hints => (Launch.sidecar image agent hints).perform driver.step
  | .exec container starter => driver.exec container starter
  | .removeContainer handle => driver.remove handle.id
  | .pullImage image =>
    let (name, tag) := Reference.split image
    driver.follow (request "POST" "/images/create" [("fromImage", name), ("tag", tag)] .none)
      .pull id
  | .hasImage image =>
    driver.probe ("/images/" ++ image ++ "/json") (recordOf Replies.imageFields)
  | .buildImage context tag forcePull =>
    driver.follow
      (request "POST" "/build"
        [("dockerfile", "Dockerfile"), ("t", tag), ("pull", Text.Literal.flag forcePull),
          ("rm", "true")] (.bytes context))
      .build Text.trimEnd
  | .close => driver.endpoint.close

/-- The driver after an operation. -/
def next (driver : ByApi) : Call → ByApi
  | .close => { driver with endpoint := driver.endpoint.closed }
  | _ => driver

end ByApi

end BuildYard
