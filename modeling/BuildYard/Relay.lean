import BuildYard.Bytes.Hex
import BuildYard.Host
import BuildYard.Path

/-!
# Questions that are passed on

What the yard cannot do by itself, such as running a program or talking to a
socket, someone else does for it. A question is passed on as a record with the
name of what is asked, and the answer comes back as a record. Bytes pass as
digits in base sixteen. An answer that cannot be understood is taken as a
failure to do what was asked.
-/

set_option autoImplicit false

namespace BuildYard.Relay

open Host

/-! ## Writing questions -/

/-- Bytes in a record. -/
def ofBytes (data : Bytes) : Json :=
  .text data.hex

/-- Something or nothing in a record. -/
def ofOption {α : Type} (write : α → Json) (value : Option α) : Json :=
  (value.map write).getD .null

/-- Texts in a record. -/
def ofTexts (texts : List String) : Json :=
  .array (texts.map .text)

/-- Names with their values in a record. -/
def ofPairs (pairs : List (String × String)) : Json :=
  .array (pairs.map fun (name, value) => ofTexts [name, value])

/-- What is fed to a process, in a record. -/
def ofInput (input : Input) : Json :=
  .record [("data", ofBytes input.data), ("open", .bool input.staysOpen)]

/-- A run of the engine's program. -/
def ofInvocation (name : String) (invocation : Invocation) (input : Json) : Json :=
  .record
    [("ask", .text name), ("program", .text invocation.program),
      ("arguments", ofTexts invocation.arguments),
      ("environment", ofPairs invocation.environment), ("input", input)]

/-- What a request carries. -/
def ofBody : Body → List (String × Json)
  | .none => []
  | .json value => [("json", value)]
  | .bytes data => [("bytes", ofBytes data)]

/-- A request to the engine. -/
def ofRequest (name host : String) (request : Request) (more : List (String × Json)) : Json :=
  .record
    ([("ask", .text name), ("host", .text host), ("method", .text request.method),
      ("path", .text request.path), ("query", ofPairs request.query)] ++
      ofBody request.body ++ more)

/-- A question as a record. -/
def question : Ask → Json
  | .log _ => .record [("ask", .text "log")]
  | .read path => .record [("ask", .text "read"), ("path", .text path)]
  | .present path => .record [("ask", .text "present"), ("path", .text path)]
  | .writeFile path text =>
    .record [("ask", .text "write"), ("path", .text path), ("text", .text text)]
  | .write _ data => .record [("ask", .text "output"), ("data", ofBytes data)]
  | .storeKeys files => .record [("ask", .text "keep keys"), ("files", ofPairs files)]
  | .discardKeys dir => .record [("ask", .text "discard keys"), ("directory", .text dir)]
  | .invoke invocation input => ofInvocation "run" invocation (ofOption ofBytes input)
  | .start invocation input => ofInvocation "start" invocation (ofOption ofInput input)
  | .send host request => ofRequest "send" host request []
  | .connect host request input =>
    ofRequest "connect" host request [("input", ofOption ofInput input)]
  | .context workspace context file =>
    .record
      [("ask", .text "context"), ("workspace", .text workspace), ("context", .text context),
        ("file", .text file)]
  | .freshNumber => .record [("ask", .text "number")]
  | .directory path => .record [("ask", .text "directory"), ("path", .text path)]
  | .become dir program arguments =>
    .record
      [("ask", .text "become"), ("directory", .text dir), ("program", .text program),
        ("arguments", ofTexts arguments)]
  | .awaitSignal => .record [("ask", .text "signal")]

/-! ## Reading answers -/

/-- The bytes of a field. -/
def bytes? (name : String) (answer : Json) : Option Bytes :=
  ((answer.member? name).bind Json.text?).bind Bytes.ofHex?

/-- The text of a field. -/
def text? (name : String) (answer : Json) : Option String :=
  (answer.member? name).bind Json.text?

/-- The number of a field. -/
def int? (name : String) (answer : Json) : Option Int :=
  (answer.member? name).bind Json.int?

/-- Whether a field says yes. -/
def holds (name : String) (answer : Json) : Bool :=
  match answer.member? name with
  | some (.bool value) => value
  | _ => false

/-- What is said of an answer that is not understood. -/
def unclear : String := "the answer is not understood"

/-- Why something failed. -/
def fault (answer : Json) : IoError :=
  if holds "absent" answer then .notFound
  else if holds "forbidden" answer then .permissionDenied
  else .other ((text? "failed" answer).getD unclear)

/-- A value that an answer has, or why it has none. -/
def orFault {α : Type} (answer : Json) (value : Option α) : Except IoError α :=
  match value with
  | some value => .ok value
  | none => .error (fault answer)

/-- How a program that was started goes on. -/
def ending (answer : Json) : Ending :=
  match int? "code" answer with
  | some code => .exited code
  | none => if holds "running" answer then .untilStopped else .signalled

/-- How a program that ran to its end came out. -/
def outcome (answer : Json) : Outcome :=
  match bytes? "out" answer, bytes? "err" answer with
  | some out, some err => .ended (int? "code" answer) out err
  | _, _ => if holds "unread" answer then .unread else .notStarted (fault answer)

/-- A program that was started. -/
def child (answer : Json) : Except IoError Child :=
  orFault answer do
    let out ← bytes? "out" answer
    let err ← bytes? "err" answer
    some { out, err, ending := ending answer }

/-- An answer of the engine that comes as a whole. -/
def reply? (answer : Json) : Option Reply := do
  let status ← int? "status" answer
  let body ← bytes? "body" answer
  some { status := status.toNat, body }

/-- A connection that the engine keeps. -/
def stream? (answer : Json) : Option Stream := do
  let data ← bytes? "stream" answer
  some
    { data, staysOpen := holds "open" answer
      broken := (text? "broken" answer).map .other }

/-- What a request came to when it failed. -/
def apiFault (answer : Json) : ApiError :=
  .other ((text? "failed" answer).getD unclear)

/-- Reads the answer to a question. -/
def answer (question : Ask) (given : Json) : question.Answer :=
  match question with
  | .log _ => ()
  | .read _ => orFault given (bytes? "data" given)
  | .present _ => holds "present" given
  | .writeFile _ _ => orFault given (if holds "done" given then some () else none)
  | .write _ _ => ()
  | .storeKeys _ => orFault given (text? "directory" given)
  | .discardKeys _ => orFault given (if holds "done" given then some () else none)
  | .invoke _ _ => outcome given
  | .start _ _ => child given
  | .send _ _ =>
    match reply? given with
    | some reply => .ok reply
    | none => .error (apiFault given)
  | .connect _ _ _ =>
    match stream? given, reply? given with
    | some stream, _ => .ok (.inr stream)
    | none, some reply => .ok (.inl reply)
    | none, none => .error (apiFault given)
  | .context workspace context file =>
    let context := Path.join workspace context
    match bytes? "archive" given with
    | some archive => .ok archive
    | none =>
      if holds "noContext" given then .error (.missingContext context)
      else if holds "noFile" given then .error (.missingDockerfile (Path.join context file))
      else .error (.packaging (fault given))
  | .freshNumber => ((int? "number" given).map Int.toNat).getD 0
  | .directory _ => holds "directory" given
  | .become _ _ _ =>
    if (int? "code" given).isSome || holds "signalled" given then .ok (ending given)
    else .error (fault given)
  | .awaitSignal => ()

end BuildYard.Relay
