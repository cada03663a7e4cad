import BuildYard.Host

/-!
# Scripted engines

To rehearse a build one writes down what the engine will answer: rules, each
for certain runs of its program or for certain requests to its API. The first
rule that fits and is not used up answers. What no rule fits succeeds: a run
with no output, a request with an empty record.
-/

set_option autoImplicit false

namespace BuildYard.Rehearsal

/-- What the engine's program does when its arguments begin in a certain way. -/
structure CommandRule where
  arguments : List String
  out : Bytes := []
  err : Bytes := []
  code : Nat := 0
  /-- it ends without reading its input -/
  ignoresInput : Bool := false
  /-- it writes its input after its own output -/
  echoes : Bool := false
  /-- a signal ends it -/
  aborts : Bool := false
  /-- it reads nothing, writes, and goes on until it is ended -/
  hangs : Bool := false
  deriving DecidableEq, Repr, Inhabited

/-- What the engine's API answers to certain requests. -/
structure ApiRule where
  method : String
  /-- the path; an asterisk at its end stands for any rest -/
  path : String
  status : Nat := 200
  body : Bytes := []
  /-- pieces that are sent over a kept connection: each the number of its stream, or none
  for bytes without a frame -/
  frames : Option (List (Option Nat × Bytes)) := none
  /-- it sends the input back first -/
  echoes : Bool := false
  /-- it keeps the connection open after the frames -/
  hangs : Bool := false
  deriving DecidableEq, Repr, Inhabited

/-- A rule of either kind. -/
inductive Rule where
  | command (rule : CommandRule)
  | api (rule : ApiRule)
  deriving DecidableEq, Repr, Inhabited

/-- A rule and how often it may still be used, if that is limited. -/
structure Entry where
  rule : Rule
  left : Option Nat := none
  deriving DecidableEq, Repr, Inhabited

/-- Arguments without the choice of a host in front. -/
def withoutHost : List String → List String
  | "-H" :: _ :: rest => rest
  | arguments => arguments

/-- Whether a rule is for a run with the given arguments. -/
def CommandRule.fits (rule : CommandRule) (arguments : List String) : Bool :=
  rule.arguments.isPrefixOf (withoutHost arguments)

/-- Whether a rule is for a request. -/
def ApiRule.fits (rule : ApiRule) (request : Host.Request) : Bool :=
  rule.method == request.method &&
    (if rule.path.endsWith "*" then request.path.startsWith (rule.path.dropEnd 1).toString
    else rule.path == request.path)

/-- The entry after one use. -/
def Entry.used (entry : Entry) : Entry :=
  { entry with left := entry.left.map (· - 1) }

/-- Takes the first rule that `choose` accepts and that is not used up. -/
def take? {α : Type} (choose : Rule → Option α) : List Entry → Option α × List Entry
  | [] => (none, [])
  | entry :: rest =>
    match choose entry.rule with
    | some found =>
      if entry.left == some 0 then
        let (later, rest) := take? choose rest
        (later, entry :: rest)
      else (some found, entry.used :: rest)
    | none =>
      let (later, rest) := take? choose rest
      (later, entry :: rest)

/-- The rule for a run, which does nothing if there is none. -/
def commandRule (arguments : List String) (entries : List Entry) : CommandRule × List Entry :=
  let (found, entries) := take?
    (fun | .command rule => if rule.fits arguments then some rule else none
         | .api _ => none) entries
  (found.getD { arguments := [] }, entries)

/-- The answer to a request that no rule is for. -/
def emptyRecord : Bytes := Bytes.ofString "\x7b\x7d"

/-- The rule for a request. -/
def apiRule (request : Host.Request) (entries : List Entry) : ApiRule × List Entry :=
  let (found, entries) := take?
    (fun | .api rule => if rule.fits request then some rule else none
         | .command _ => none) entries
  (found.getD { method := request.method, path := request.path, body := emptyRecord }, entries)

/-! ## What the engine does -/

/-- The number of bytes that a pipe takes before someone reads from it. -/
def pipeCapacity : Nat := 65536

/-- Whether the program reads its input. -/
def CommandRule.reads (rule : CommandRule) : Bool :=
  !rule.ignoresInput && !rule.hangs

/-- What the program writes when its input is `input`. -/
def CommandRule.output (rule : CommandRule) (input : Bytes) : Bytes :=
  if rule.echoes then rule.out ++ input else rule.out

/-- How a run to the end comes out. -/
def CommandRule.outcome (rule : CommandRule) (input : Bytes) : Host.Outcome :=
  if rule.reads then
    .ended (if rule.aborts then none else some rule.code) (rule.output input) rule.err
  else if pipeCapacity < input.length then .unread
  else .ended (if rule.aborts then none else some rule.code) rule.out rule.err

/-- What the program does when it is started with an input. -/
def CommandRule.child (rule : CommandRule) (input : Host.Input) : Host.Child :=
  if rule.hangs then { out := rule.out, err := rule.err, ending := .untilStopped }
  else if rule.reads && input.staysOpen then { out := [], err := [], ending := .untilStopped }
  else
    { out := if rule.reads then rule.output input.data else rule.out
      err := rule.err
      ending := if rule.aborts then .signalled else .exited rule.code }

/-- A piece as it is sent. -/
def frameBytes : Option Nat × Bytes → Bytes
  | (none, data) => data
  | (some channel, data) =>
    [UInt8.ofNat channel, 0, 0, 0] ++
      [24, 16, 8, 0].map (fun shift => UInt8.ofNat ((data.length >>> shift) % 256)) ++ data

/-- The connection that a rule with frames keeps. -/
def ApiRule.stream (rule : ApiRule) (frames : List (Option Nat × Bytes))
    (input : Option Host.Input) : Host.Stream :=
  let sent := frames.flatMap frameBytes
  if rule.echoes then
    match input with
    | some { data, staysOpen := false } =>
      { data := frameBytes (some 1, data) ++ sent, staysOpen := rule.hangs }
    | _ => { data := [], staysOpen := true }
  else { data := sent, staysOpen := rule.hangs }

/-- The answer of a rule to a request for a connection. -/
def ApiRule.connection (rule : ApiRule) (input : Option Host.Input) :
    Host.Reply ⊕ Host.Stream :=
  match rule.frames with
  | some frames => .inr (rule.stream frames input)
  | none => .inl { status := rule.status, body := rule.body }

/-- The answer of a rule that comes as a whole. -/
def ApiRule.reply (rule : ApiRule) : Host.Reply :=
  match rule.frames with
  | some _ => { status := 101, body := [] }
  | none => { status := rule.status, body := rule.body }

end BuildYard.Rehearsal
