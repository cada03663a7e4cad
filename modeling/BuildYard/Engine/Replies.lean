import BuildYard.Host
import BuildYard.Json.Reader
import BuildYard.Json.Record

/-!
# What the engine's API answers

A reply is a status and a body. A body that should be a record is held to the
types of its fields; fields that are not known are passed over. The body of an
error status says in its `message` what went wrong. Progress comes as lines of
JSON; one that reports an error ends the progress.
-/

set_option autoImplicit false

namespace BuildYard.Replies

/-! ## Records -/

/-- What a field may hold. -/
inductive Kind where
  | text
  | integer
  | flag
  | texts
  /-- texts by name -/
  | labels
  /-- one of some words -/
  | word (words : List String)
  /-- a record of integers and, after them, texts, each of which may be missing -/
  | detail (integers texts : List String)
  deriving DecidableEq, Repr, Inhabited

/-- The fields of a record in the order of `names`, `none` for each that is missing. A
record written as an array has all of them. -/
def members? (names : List String) (value : Json) : Option (List (Option Json)) :=
  match value with
  | .array items => if items.length = names.length then some (items.map some) else none
  | value => value.fields? names

/-- Whether a value is a record of integers and texts under these names. -/
def isDetail (integers texts : List String) (value : Json) : Bool :=
  match members? (integers ++ texts) value with
  | none => false
  | some found =>
    let holds (test : Json → Bool) : Option Json → Bool
      | none | some .null => true
      | some value => test value
    (found.take integers.length).all (holds (·.int64?.isSome)) &&
      (found.drop integers.length).all (holds (·.text?.isSome))

/-- Whether a value is of a kind. -/
def Kind.admits : Kind → Json → Bool
  | text, value => value.text?.isSome
  | integer, value => value.int64?.isSome
  | flag, .bool _ => true
  | texts, .array items => items.all (·.text?.isSome)
  | labels, .object members => members.all fun (name, item) => name.isSome && item.text?.isSome
  | word words, value => (value.text?.map words.contains).getD false
  | detail numbers words, value => isDetail numbers words value
  | _, _ => false

/-- Whether a field may be missing, or null. -/
inductive Presence where
  /-- it is there with a value -/
  | needed
  /-- it is there, perhaps as null -/
  | there
  /-- it is there, or missing, or null -/
  | optional
  deriving DecidableEq, Repr, Inhabited

/-- What is known of a field. -/
structure Field where
  name : String
  kind : Kind
  presence : Presence := .optional
  deriving DecidableEq, Repr, Inhabited

/-- Whether a field may stand as it does. -/
def Field.admits (field : Field) : Option Json → Bool
  | none => field.presence == .optional
  | some .null => field.presence != .needed
  | some value => field.kind.admits value

/-- The fields of a record, each as its kind allows; null counts as missing. -/
def record? (fields : List Field) (value : Json) : Option (List (Option Json)) := do
  let found ← members? (fields.map (·.name)) value
  if (fields.zip found).all fun (field, value) => field.admits value then
    some (found.map fun | some .null => none | value => value)
  else none

/-- The field called `name` in a record of known fields. -/
def fieldOf? (fields : List Field) (name : String) (value : Json) : Option (Option Json) := do
  let found ← record? fields value
  some (((fields.zip found).find? (·.1.name == name)).bind (·.2))

/-- Fields of one kind that may be missing. -/
def optionals (kind : Kind) (names : List String) : List Field :=
  names.map fun name => { name, kind }

/-! ## Single replies -/

/-- What is said of an answer that is not what it should be. -/
def unexpected {α : Type} : Except ApiError α :=
  .error (.other "unexpected answer")

/-- Whether a status means success; one that tells that nothing had to be changed does. -/
def isSuccess (status : Nat) : Bool :=
  (200 ≤ status && status < 300) || status == 304 || status == 101

/-- What an error record says, or `none` when its text is to be taken as a whole. An
array is a record by position, and one that goes on is no JSON of that form. -/
def messageOf : Json → Except Json.Halt (Option String)
  | .array (.text _ :: _ :: _) => .error .malformed
  | value =>
    .ok (match value.fields? ["message"] with
      | some [some (.text message)] => some message
      | _ => none)

/-- What an error status with a text means. A text that begins with a value which is
no error record is the message itself. -/
def refusalOfText (status : Nat) (text : String) : ApiError :=
  match Json.readFirst text.toList with
  | .error _ => .other "unreadable error"
  | .ok (value, rest) =>
    match messageOf value with
    | .error _ => .other "unreadable error"
    | .ok none => .status status text
    | .ok (some message) =>
      if (Json.Reader.skipGap rest).isEmpty then .status status message
      else .other "unreadable error"

/-- What an error status means. -/
def refusal (reply : Host.Reply) : ApiError :=
  if reply.body.isEmpty then .status reply.status ""
  else
    match Bytes.text? reply.body with
    | some text => refusalOfText reply.status text
    | none => .other "unreadable error"

/-- The body of a successful reply. -/
def accepted (reply : Host.Reply) : Except ApiError Bytes :=
  if isSuccess reply.status then .ok reply.body else .error (refusal reply)

/-- A body as JSON. -/
def jsonOf (body : Bytes) : Except ApiError Json :=
  match (Bytes.text? body).bind Json.read? with
  | some value => .ok value
  | none => unexpected

/-- A successful reply as a value that `read` accepts. -/
def decoded {α : Type} (read : Json → Option α) (reply : Host.Reply) : Except ApiError α := do
  let value ← jsonOf (← accepted reply)
  match read value with
  | some result => .ok result
  | none => unexpected

/-- What the engine says of its version. -/
def versionFields : List Field :=
  optionals .text ["Version", "ApiVersion", "MinAPIVersion", "GitCommit", "GoVersion", "Os", "Arch",
    "KernelVersion", "BuildTime"] ++
  optionals .flag ["Experimental"]

/-- The version in a reply; the engine may leave it out. -/
def version? (value : Json) : Option String := do
  let version ← fieldOf? versionFields "Version" value
  some ((version.bind Json.text?).getD "unknown")

/-- What the engine says of a volume. -/
def volumeFields : List Field :=
  [{ name := "Name", kind := .text, presence := .needed },
    { name := "Driver", kind := .text, presence := .needed },
    { name := "Mountpoint", kind := .text, presence := .needed },
    { name := "CreatedAt", kind := .text },
    { name := "Labels", kind := .labels, presence := .there },
    { name := "Scope", kind := .word ["", "local", "global"], presence := .there },
    { name := "Options", kind := .labels, presence := .there }]

/-- The name of the volume in a reply. -/
def volumeName? (value : Json) : Option String := do
  (← fieldOf? volumeFields "Name" value).bind Json.text?

/-- What the engine says of a container. -/
def containerFields : List Field :=
  optionals .text ["Id", "Created", "Path", "Image", "ResolvConfPath", "HostnamePath", "HostsPath",
    "LogPath", "Name", "Driver", "Platform", "MountLabel", "ProcessLabel", "AppArmorProfile"] ++
  optionals .texts ["Args", "ExecIDs"] ++
  optionals .integer ["RestartCount", "SizeRw", "SizeRootFs"]

/-- What the engine says of an image. -/
def imageFields : List Field :=
  optionals .text ["Id", "Parent", "Comment", "Created", "DockerVersion", "Author", "Architecture",
    "Variant", "Os", "OsVersion"] ++
  optionals .texts ["RepoTags", "RepoDigests"] ++
  optionals .integer ["Size", "VirtualSize"]

/-- What the engine says when it created a container. -/
def creationFields : List Field :=
  [{ name := "Id", kind := .text, presence := .needed },
    { name := "Warnings", kind := .texts, presence := .there }]

/-- The id of a created container and the engine's warnings. -/
def creation? (value : Json) : Option (String × List String) := do
  let id ← (← fieldOf? creationFields "Id" value).bind Json.text?
  let warnings ← fieldOf? creationFields "Warnings" value
  match warnings with
  | some (.array items) => some (id, items.filterMap Json.text?)
  | _ => some (id, [])

/-- The id of a process that is to run in a container. -/
def execId? (value : Json) : Option String := do
  let fields : List Field := [{ name := "Id", kind := .text, presence := .needed }]
  (← fieldOf? fields "Id" value).bind Json.text?

/-- What the engine says of a process that ran in a container. -/
def execFields : List Field :=
  optionals .integer ["ExitCode", "Pid"] ++
  optionals .text ["DetachKeys", "ID", "ContainerID"] ++
  optionals .flag ["CanRemove", "Running", "OpenStdin", "OpenStderr", "OpenStdout"]

/-- The lowest 32 bits of a number as a signed one. -/
def low32 (n : Int) : Int :=
  n.bmod UInt32.size

/-- The exit code of a process that ran in a container, minus one if it has none. -/
def exitCode? (value : Json) : Option Int := do
  let code ← fieldOf? execFields "ExitCode" value
  some (((code.bind Json.int64?).map low32).getD (-1))

/-- The exit code with which a container ended. -/
def waitCode? (value : Json) : Option Int := do
  let fields : List Field :=
    [{ name := "StatusCode", kind := .integer, presence := .needed },
      { name := "Error", kind := .detail [] ["Message"] }]
  let code ← (← fieldOf? fields "StatusCode" value).bind Json.int64?
  some (low32 code)

/-! ## Lines of JSON -/

/-- What a line of a stream says. -/
inductive Line where
  | value (value : Json)
  /-- nothing yet: the line stops inside a value, or says null -/
  | pause
  | malformed
  deriving Inhabited

/-- What a line says. -/
def Line.ofBytes (bytes : Bytes) : Line :=
  match Bytes.text? bytes with
  | none => .malformed
  | some text =>
    match Json.read text with
    | .ok .null => .pause
    | .ok found => .value found
    | .error .unfinished => .pause
    | .error .malformed => .malformed

/-- The first line of a sequence, without its line feed, and what follows it; a
sequence without line feed is a line that may still go on. -/
def takeLine : Bytes → Bytes × Option Bytes
  | [] => ([], none)
  | b :: rest =>
    if b = 10 then ([], some rest)
    else
      let (line, after) := takeLine rest
      (b :: line, after)

/-- A line and what follows it are one byte less than the whole. -/
theorem takeLine_length (bytes : Bytes) :
    ∀ after ∈ (takeLine bytes).2,
      (takeLine bytes).1.length + after.length < bytes.length := by
  induction bytes with
  | nil => simp [takeLine]
  | cons b rest ih =>
    intro after h
    by_cases feed : b = 10
    · simp only [takeLine, feed, ↓reduceIte, Option.mem_def, Option.some.injEq] at h ⊢
      subst h
      simp
    · simp only [takeLine, feed, ↓reduceIte] at h ⊢
      have := ih after h
      simp only [List.length_cons]
      omega

/-- The values in a stream, and whether all of it could be read. A line that says nothing
yet is read again together with the next one once more bytes may come; at the end of
the stream, `ended`, nothing may be left of it. -/
def values (ended : Bool) (bytes : Bytes) : List Json × Bool :=
  match _h : (takeLine bytes).2 with
  | some after =>
    match Line.ofBytes (takeLine bytes).1 with
    | .value value =>
      let (more, whole) := values ended after
      (value :: more, whole)
    | .pause =>
      let joined := (takeLine bytes).1 ++ after
      if ended then ([], joined.isEmpty) else values true joined
    | .malformed => ([], false)
  | none =>
    if bytes.isEmpty then ([], true)
    else
      match Line.ofBytes (takeLine bytes).1 with
      | .value value => ([value], true)
      | .pause => ([], false)
      | .malformed => ([], false)
termination_by bytes.length
decreasing_by
  · have := takeLine_length bytes after (by simp [*])
    omega
  · have := takeLine_length bytes after (by simp [*])
    simp only [List.length_append]
    omega

/-! ## Progress -/

/-- What a stream of progress is about. -/
inductive Topic where
  /-- pulling an image; its lines tell a status -/
  | pull
  /-- building an image; its lines tell the output of the build -/
  | build
  deriving DecidableEq, Repr, Inhabited

namespace Topic

/-- The field in which a line of progress tells something. -/
def tells : Topic → String
  | pull => "status"
  | build => "stream"

/-- The fields of a line of progress. -/
def fields : Topic → List Field
  | pull =>
    [{ name := "id", kind := .text },
      { name := "error", kind := .text },
      { name := "errorDetail", kind := .detail ["code"] ["message"] },
      { name := "status", kind := .text },
      { name := "progress", kind := .text },
      { name := "progressDetail", kind := .detail ["current", "total"] [] }]
  | build =>
    [{ name := "id", kind := .text },
      { name := "stream", kind := .text },
      { name := "error", kind := .text },
      { name := "errorDetail", kind := .detail ["code"] ["message"] },
      { name := "status", kind := .text },
      { name := "progress", kind := .text },
      { name := "progressDetail", kind := .detail ["current", "total"] [] },
      { name := "aux", kind := .detail [] ["ID"] }]

end Topic

/-- What a line of progress tells. -/
inductive Progress where
  | told (text : String)
  | silent
  | failed (error : ApiError)
  deriving DecidableEq, Repr, Inhabited

/-- What a line of progress says; an error in it comes before all else. -/
def Progress.ofJson (topic : Topic) (value : Json) : Progress :=
  match fieldOf? topic.fields "error" value, fieldOf? topic.fields topic.tells value with
  | some (some _), _ => .failed .stream
  | some none, some (some (.text text)) => .told text
  | some none, some _ => .silent
  | _, _ => .failed (.other "unexpected progress")

/-- What the lines of a stream tell up to the first failure, and that failure. -/
def progress (topic : Topic) (body : Bytes) : List String × Except ApiError Unit :=
  let (lines, whole) := values false body
  go lines (if whole then .ok () else unexpected)
where
  /-- Walks through lines; `last` is how the stream ends after them. -/
  go : List Json → Except ApiError Unit → List String × Except ApiError Unit
    | [], last => ([], last)
    | line :: rest, last =>
      match Progress.ofJson topic line with
      | .failed error => ([], .error error)
      | .silent => go rest last
      | .told text => let (texts, result) := go rest last; (text :: texts, result)

end BuildYard.Replies
