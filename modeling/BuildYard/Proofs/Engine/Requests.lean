import BuildYard.Engine.ByApi
import BuildYard.Engine.ByCommand
import BuildYard.Proofs.Program.Observation

/-!
# Requests to the engine

Of all that the host is asked, the requests are what reaches the engine: the
runs of its program and what is sent to its API. A run and a request are one
question each, and what comes of them is read off its answer alone
(`ensures_run`, `ensures_send`); events are no requests. The same holds when
other questions are counted besides the requests (`Host.Counting`).
-/

set_option autoImplicit false

namespace BuildYard

/-- Whether a question to the host is a request to the engine. -/
def Host.Ask.isRequest : Host.Ask → Bool
  | .invoke _ _ | .start _ _ | .send _ _ | .connect _ _ _ => true
  | _ => false

/-- Questions of which every request to the engine is one, and no event. -/
class Host.Counting (counts : Host.Ask → Bool) : Prop where
  log : ∀ entry, counts (.log entry) = false
  request : ∀ ask, ask.isRequest = true → counts ask = true

instance : Host.Counting Host.Ask.isRequest :=
  ⟨fun _ => rfl, fun _ => id⟩

/-- A question to the host and its answer. -/
abbrev HostExchange := Exchange Host.Ask Host.Ask.Answer

/-- The requests among the questions to the host, in order, each with its answer. -/
abbrev requests (trace : List HostExchange) : List HostExchange :=
  Program.counted Host.Ask.isRequest trace

theorem requests_append (first second : List HostExchange) :
    requests (first ++ second) = requests first ++ requests second :=
  Program.counted_append ..

variable {α β : Type} {counts : Host.Ask → Bool} [Host.Counting counts]

namespace Host

/-- Whatever the answers, `post` holds of the value that a task ends with and of the requests. -/
abbrev Ensures (task : Task α) (post : α → List HostExchange → Prop) : Prop :=
  Program.Ensures Ask.isRequest task post

theorem ensures_note {level : Log.Level} {part : Log.Part} {text : String}
    {post : Unit → List HostExchange → Prop} :
    Program.Ensures counts (note level part text) post ↔ post () [] :=
  (Program.ensures_quiet (Counting.log _)).trans ⟨fun h => h (), fun h _ => h⟩

theorem ensures_read {path : String} {post : Except IoError Bytes → List HostExchange → Prop} :
    Ensures (ask (.read path)) post ↔ ∀ answer, post answer [] :=
  Program.ensures_quiet rfl

/-- A span makes no requests. -/
theorem ensures_within {span : Log.Span} {task : Task α} {post : α → List HostExchange → Prop} :
    Ensures (within span task) post ↔ Ensures task post := by
  have log {entry : Log.Entry} {post : Unit → List HostExchange → Prop} :
      Ensures (ask (.log entry)) post ↔ post () [] :=
    (Program.ensures_quiet rfl).trans ⟨fun h => h (), fun h _ => h⟩
  refine (Program.ensures_bind.trans log).trans (Program.ensures_bind.trans ?_)
  refine Program.ensures_congr fun a made => ?_
  refine (Program.ensures_bind.trans log).trans (Program.ensures_pure.trans ?_)
  simp only [List.nil_append, List.append_nil]

end Host

/-- The same for a task that may fail. -/
abbrev Attempt.Ensures (attempt : Attempt α)
    (post : Except EngineError α → List HostExchange → Prop) : Prop :=
  Host.Ensures attempt.run post

/-! ## Runs of the engine's program -/

namespace ByCommand

variable {driver : ByCommand}

/-- What the driver makes of how a run came out. -/
def outputOf (driver : ByCommand) : Host.Outcome → Except EngineError Output
  | .notStarted _ => .error (.notInstalled driver.program)
  | .unread => .error (.io .brokenPipe)
  | .ended code out err => .ok { successful := code == some 0, out, err }

/-- What a run comes to that has to succeed. -/
def runResult (driver : ByCommand) (operation : String) (outcome : Host.Outcome) :
    Except EngineError String :=
  match driver.outputOf outcome with
  | .error cause => .error cause
  | .ok output =>
    if output.successful then .ok output.text else .error (.cli operation output.complaint)

theorem ensures_debug_andThen {text : String} {f : Unit → Attempt β}
    {post : Except EngineError β → List HostExchange → Prop} :
    Program.Ensures counts (debug text >>= f).run post ↔ Program.Ensures counts (f ()).run post :=
  Program.ensures_lift_andThen.trans Host.ensures_note

theorem ensures_invoke {arguments : List String} {input : Option Bytes}
    {post : Except EngineError Output → List HostExchange → Prop} :
    Program.Ensures counts (driver.invoke arguments input).run post ↔
      ∀ outcome, post (driver.outputOf outcome)
        [⟨.invoke (driver.invocation arguments) input, outcome⟩] := by
  refine ensures_debug_andThen.trans (Program.ensures_lift_andThen.trans ?_)
  refine (Program.ensures_question (Host.Counting.request _ rfl)).trans ?_
  refine forall_congr' fun outcome => ?_
  cases outcome with
  | notStarted cause => exact ensures_debug_andThen.trans Program.ensures_throw
  | unread => exact Program.ensures_throw
  | ended code out err => exact Program.ensures_ok

/-- **A run that has to succeed is one request.** -/
theorem ensures_run {operation : String} {arguments : List String} {input : Option Bytes}
    {post : Except EngineError String → List HostExchange → Prop} :
    Program.Ensures counts (driver.run operation arguments input).run post ↔
      ∀ outcome, post (driver.runResult operation outcome)
        [⟨.invoke (driver.invocation arguments) input, outcome⟩] := by
  refine Program.ensures_andThen.trans (ensures_invoke.trans (forall_congr' fun outcome => ?_))
  rw [runResult]
  cases driver.outputOf outcome with
  | error cause => exact Iff.rfl
  | ok output =>
    by_cases successful : output.successful = true
    · simp only [if_pos successful]
      exact Program.ensures_ok
    · simp only [if_neg successful]
      exact Program.ensures_throw

end ByCommand

/-! ## Requests to the API -/

namespace ByApi

variable {driver : ByApi}

/-- What the driver makes of a reply that `read` reads. -/
def resultOf (read : Host.Reply → Except ApiError α) :
    Except ApiError Host.Reply → Except EngineError α
  | .error cause => .error (.api cause)
  | .ok reply => (read reply).mapError .api

theorem ensures_debug_andThen {text : String} {f : Unit → Attempt β}
    {post : Except EngineError β → List HostExchange → Prop} :
    Program.Ensures counts (debug text >>= f).run post ↔ Program.Ensures counts (f ()).run post :=
  Program.ensures_lift_andThen.trans Host.ensures_note

omit [Host.Counting counts] in
theorem ensures_ofRequest {result : Except ApiError α}
    {post : Except EngineError α → List HostExchange → Prop} :
    Program.Ensures counts (ofRequest result).run post ↔ post (result.mapError .api) [] := by
  cases result with
  | error cause => exact Program.ensures_throw
  | ok value => exact Program.ensures_ok

/-- **Sending a request and reading the reply is one request.** -/
theorem ensures_send {request : Host.Request} {read : Host.Reply → Except ApiError α}
    {post : Except EngineError α → List HostExchange → Prop} :
    Program.Ensures counts (driver.send request read).run post ↔
      ∀ answer, post (resultOf read answer) [⟨.send driver.address request, answer⟩] := by
  refine Program.ensures_lift_andThen.trans ?_
  refine (Program.ensures_question (Host.Counting.request _ rfl)).trans ?_
  refine forall_congr' fun answer => ?_
  refine Program.ensures_andThen.trans (ensures_ofRequest.trans ?_)
  cases answer with
  | error cause => exact Iff.rfl
  | ok reply => exact ensures_ofRequest

end ByApi

end BuildYard
