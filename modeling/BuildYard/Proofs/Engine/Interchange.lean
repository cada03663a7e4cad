import BuildYard.Proofs.Engine.Unfolding
import BuildYard.Relay

/-!
# The command line and the API are interchangeable

Whoever launches a container or runs a process in one need not know how the
engine is asked. With the same settings, launches by the command line and by the
API do the same errands in the same order as long as the same ones succeed, and
with the same contents as long as the files that are read hold the same
(`Launch.Interchanged`). Processes are asked for with the same arguments in the
same directory (`Executed`).
-/

set_option autoImplicit false

namespace BuildYard

open Launch (Launching Step Unfolds)
open Program (Both InStep)

/-! ## Failures -/

namespace Launch

variable {settings : AgentSettings} {launching : Launching} {result : Except EngineError Handle}
  {shown : List Shown}

/-- If only the last errand of a set-up may have failed, the one that did is followed by what
comes after the set-up. -/
theorem rest_eq_of_smooth {setUp before rest : List Shown} {last : Shown} {errand : Errand}
    (smooth : ∀ shown ∈ setUp.dropLast, shown.answer.isSome = true)
    (failing : setUp ++ [last] = before ++ ⟨errand, none⟩ :: rest)
    (unlike : last.question ≠ errand) : rest = [last] := by
  rcases List.eq_nil_or_concat rest with rfl | ⟨more, final, rfl⟩
  · have same := (List.append_inj' failing rfl).2
    exact absurd (congrArg Exchange.question (List.cons.inj same).1) unlike
  · rw [List.concat_eq_append, ← List.cons_append, ← List.append_assoc] at failing
    obtain ⟨setUp_eq, last_eq⟩ := List.append_inj' failing rfl
    cases more with
    | nil => exact last_eq.symm
    | cons next more =>
      have member : (⟨errand, none⟩ : Shown) ∈ setUp.dropLast := by
        rw [setUp_eq, List.dropLast_append_of_ne_nil (List.cons_ne_nil _ _)]
        exact List.mem_append_right _ List.mem_cons_self
      exact absurd (smooth _ member) Bool.false_ne_true

/-- An errand that fails, other than a removal, makes a launch fail; if there is a container, its
removal follows, and nothing else is done. -/
def Recovers (settings : AgentSettings) (launching : Launching)
    (result : Except EngineError Handle) (shown : List Shown) : Prop :=
  ∀ before errand rest, shown = before ++ ⟨errand, none⟩ :: rest →
    (∀ id, errand ≠ .remove id) →
      (∃ cause, result = .error cause) ∧
        ((before = [] ∧ rest = []) ∨
          ∃ id answer, before.head? =
              some ⟨.create (.ofCreation (launching.creation settings)), some id⟩ ∧
            rest = [⟨.remove id, answer⟩])

theorem Unfolds.recovers (unfolds : Unfolds settings launching result shown) :
    Recovers settings launching result shown := by
  intro before errand rest failing kept
  cases unfolds with
  | notCreated cause =>
    obtain ⟨rfl, last⟩ := List.append_eq_singleton_iff.mp failing.symm |>.resolve_right (by simp)
    exact ⟨⟨cause, rfl⟩, .inl ⟨rfl, (List.cons.inj last).2⟩⟩
  | @removed id cause setUp answer within smooth =>
    refine ⟨⟨cause, rfl⟩, .inr ⟨id, answer, ?_⟩⟩
    cases before with
    | nil => nomatch failing
    | cons first before =>
      obtain ⟨rfl, onward⟩ := List.cons.inj failing
      exact ⟨rfl, rest_eq_of_smooth smooth onward (kept id).symm⟩
  | @ready id setUp within smooth =>
    cases before with
    | nil => nomatch failing
    | cons first before =>
      obtain ⟨-, rfl⟩ := List.cons.inj failing
      have member : (⟨errand, none⟩ : Shown) ∈ before ++ ⟨errand, none⟩ :: rest :=
        List.mem_append_right _ List.mem_cons_self
      exact absurd (smooth _ member) Bool.false_ne_true

/-- Two runs of a launch as their errands show them. -/
structure Interchanged (settings : AgentSettings) (launching : Launching)
    (result : Except EngineError Handle) (shown : List Shown)
    (result' : Except EngineError Handle) (shown' : List Shown) : Prop where
  /-- The errands are the same, in the same order, as long as the same ones succeed; and if it
  counts what files hold, the archives too, as long as what was read is the same. -/
  inStep : ∀ exact, InStep (Both fun handle handle' => handle.image = handle'.image)
    (shown.map (outlineOf exact)) result (shown'.map (outlineOf exact)) result'
  unfolds : Unfolds settings launching result shown
  unfolds' : Unfolds settings launching result' shown'
  recovers : Recovers settings launching result shown
  recovers' : Recovers settings launching result' shown'

theorem interchanged {result' : Except EngineError Handle} {steps steps' : List StepTaken}
    (yields : (launching.plan settings).run.Yields steps result)
    (yields' : (launching.plan settings).run.Yields steps' result') :
    Interchanged settings launching result (sight.view steps) result' (sight.view steps') where
  inStep exact := by
    have inStep := (tryAlike_plan exact settings launching).inStep yields yields'
    rw [view_outlines, view_outlines] at inStep
    exact inStep
  unfolds := unfolds settings launching yields
  unfolds' := unfolds settings launching yields'
  recovers := (unfolds settings launching yields).recovers
  recovers' := (unfolds settings launching yields').recovers

/-- What a launch asks of the host it shows, if each step tells its errand, and a creation does if
it is that of the launch. -/
theorem ensures_plan_shown {step : (s : Step) → Host.Task s.Answer}
    (tells : ∀ s, (∀ creation, s = .create creation → creation = launching.creation settings) →
      Tells step s) :
    Program.Ensures Host.Ask.isErrand ((launching.plan settings).perform step).run
      fun result made => ∃ steps, (launching.plan settings).run.Yields steps result ∧
        List.Forall₂ Shows made (sight.view steps) := by
  have sets {id : String} {s : Step} (setsUp : SetsUp id s) : Tells step s :=
    tells s fun creation same => by rw [same] at setsUp; nomatch setsUp
  refine ensures_shown ((course settings launching).mono fun result steps course => ?_)
    fun level text => tells _ nofun
  have creates := tells (.create (launching.creation settings)) fun _ same =>
    (Step.create.inj same).symm
  cases course with
  | notCreated cause => exact List.forall_mem_singleton.mpr creates
  | discarded setUp answer =>
    refine List.forall_mem_cons.mpr ⟨creates, List.forall_mem_append.mpr
      ⟨fun taken member => sets (setUp.within taken member), ?_⟩⟩
    exact List.forall_mem_singleton.mpr (tells _ nofun)
  | ready setUp =>
    exact List.forall_mem_cons.mpr
      ⟨creates, fun taken member => sets (setUp.within taken member)⟩

end Launch

/-! ## Launches by the drivers -/

theorem ByCommand.launch_shown (driver : ByCommand) {launching : Launching}
    (plain : launching.Plain) :
    Program.Ensures Host.Ask.isErrand (driver.launch launching).run fun result made =>
      ∃ steps, (launching.plan driver.agent).run.Yields steps result ∧
        List.Forall₂ Shows made (Launch.sight.view steps) := by
  have tells (s : Step) (only : ∀ creation, s = .create creation →
      creation = launching.creation driver.agent) : Launch.Tells driver.step s :=
    step_tells s fun creation same => only creation same ▸ creationArguments?_says plain
  have shown := Launch.ensures_plan_shown tells
  cases launching <;> exact shown

theorem ByApi.launch_shown (driver : ByApi) {launching : Launching} (plain : launching.Plain) :
    Program.Ensures Host.Ask.isErrand (driver.launch launching).run fun result made =>
      ∃ steps, (launching.plan driver.agent).run.Yields steps result ∧
        List.Forall₂ Shows made (Launch.sight.view steps) := by
  have tells (s : Step) (only : ∀ creation, s = .create creation →
      creation = launching.creation driver.agent) : Launch.Tells driver.step s :=
    step_tells s fun creation same => only creation same ▸ creationBody_says plain
  exact driver.launch_eq_perform launching ▸ Launch.ensures_plan_shown tells

/-! ## Processes -/

/-- A process that is to run in a container. -/
structure Commission where
  container : String
  argv : List String
  /-- its directory, if it is not the container's -/
  workDir : Option String
  deriving DecidableEq, Repr

namespace Commission

/-- What a starter asks for: with a helper, it is that which enters the directory. -/
def ofStarter (settings : AgentSettings) (container : String) (starter : Starter) : Commission :=
  { container
    argv := starter.argv settings.helper.isSome
    workDir := if settings.helper.isSome then none else starter.pwd }

/-- What the body of a request for a process says. -/
def ofJson (container : String) (body : Json) : Commission :=
  { container
    argv := body.textsAt "Cmd"
    workDir := body.textAt? "WorkingDir" }

end Commission

/-- A question to the host that asks for a process whose output comes back. -/
inductive Host.Ask.Executes : Host.Ask → Commission → Prop where
  | words {invocation : Invocation} {container : String} {argv : List String}
      {workDir : Option String}
      (said : invocation.Says
        ("exec" :: ((workDir.map (["--workdir", ·])).getD [] ++ container :: argv))) :
      Executes (.start invocation none) { container, argv, workDir }
  | body (host container : String) {body : Json} (out : body.flagAt "AttachStdout" = true)
      (err : body.flagAt "AttachStderr" = true) :
      Executes (.send host
        { method := "POST", path := ApiPath.ofReference ("/containers/" ++ container ++ "/exec")
          body := .json body })
        (.ofJson container body)

/-- The id that the reply to a request for a process names. -/
def execNamed? : HostExchange → Option String :=
  named? fun reply => (Replies.decoded Replies.execId? reply).toOption

/-- Whether a process came of a request for one. -/
def began : HostExchange → Bool
  | ⟨.start _ _, answer⟩ => answer.isOk
  | exchange => (execNamed? exchange).isSome

/-- The request for the streams of a process that the API gave an id. -/
def Host.Request.streamsOf (id : String) : Host.Request :=
  ByApi.request "POST" ("/exec/" ++ id ++ "/start") []
    (.json (.record [("Detach", .bool false), ("Tty", .bool false)]))

/-- How running a process comes out. -/
inductive Executed (commission : Commission) :
    Except EngineError Running → List HostExchange → Prop where
  /-- It was refused, and nothing more was asked. -/
  | refused {asked : HostExchange} (cause : EngineError)
      (executes : asked.question.Executes commission) (nothing : began asked = false) :
      Executed commission (.error cause) [asked]
  /-- The program that was started runs it. -/
  | started {invocation : Host.Invocation} {child : Host.Child} (running : Running)
      (executes : (Host.Ask.start invocation none).Executes commission) :
      Executed commission (.ok running) [⟨.start invocation none, .ok child⟩]
  /-- It has an id by which its streams are asked for, and runs if these are there. -/
  | joined {asked : HostExchange} {id host : String}
      {answer : Except ApiError (Host.Reply ⊕ Host.Stream)} {result : Except EngineError Running}
      (executes : asked.question.Executes commission) (named : execNamed? asked = some id)
      (streams : (∃ running, result = .ok running) ↔ ∃ stream, answer = .ok (.inr stream)) :
      Executed commission result [asked, ⟨.connect host (.streamsOf id) none, answer⟩]

theorem ByCommand.exec_executed (driver : ByCommand) (container : String) (starter : Starter) :
    Attempt.Ensures (driver.attempt (.exec container starter))
      (Executed (.ofStarter driver.agent container starter)) := by
  have executes : (Host.Ask.start (driver.invocation
      (driver.execArguments container starter ++ starter.argv driver.agent.helper.isSome))
      none).Executes (.ofStarter driver.agent container starter) := by
    refine .words ?_
    have words : driver.execArguments container starter ++
        starter.argv driver.agent.helper.isSome =
          "exec" :: (((if driver.agent.helper.isSome then none else starter.pwd).map
            (["--workdir", ·])).getD [] ++
              container :: starter.argv driver.agent.helper.isSome) := by
      rw [execArguments]
      cases driver.agent.helper.isSome <;> simp
    exact words ▸ driver.says_invocation _
  refine ensures_debug_andThen.mpr (Program.ensures_andThen.mpr ?_)
  refine Program.ensures_lift_andThen.mpr ((Program.ensures_question rfl).mpr fun answer => ?_)
  cases answer with
  | error cause => exact Program.ensures_throw.mpr (.refused _ executes rfl)
  | ok child => exact Program.ensures_ok.mpr (Program.ensures_ok.mpr (.started _ executes))

/-- What the driver makes of the answer to a request for streams. -/
def ByApi.streamOf : Except ApiError (Host.Reply ⊕ Host.Stream) → Except EngineError Host.Stream
  | .ok (.inr stream) => .ok stream
  | .ok (.inl reply) =>
    match Replies.accepted reply with
    | .error cause => .error (.api cause)
    | .ok _ => .error (.api (.other "the connection was not kept"))
  | .error cause => .error (.api cause)

theorem ByApi.ok_of_streamOf (answer : Except ApiError (Host.Reply ⊕ Host.Stream)) :
    (∃ stream, streamOf answer = .ok stream) ↔ ∃ stream, answer = .ok (.inr stream) := by
  cases answer with
  | error cause => exact ⟨nofun, nofun⟩
  | ok come =>
    cases come with
    | inr stream => exact ⟨fun _ => ⟨stream, rfl⟩, fun _ => ⟨stream, rfl⟩⟩
    | inl reply =>
      rw [streamOf]
      cases Replies.accepted reply <;> exact ⟨nofun, nofun⟩

/-- **Asking for streams is one request.** -/
theorem ByApi.ensures_connect {driver : ByApi} {request : Host.Request} {input : Option Host.Input}
    {post : Except EngineError Host.Stream → List HostExchange → Prop} :
    Attempt.Ensures (driver.connect request input) post ↔
      ∀ answer, post (streamOf answer) [⟨.connect driver.address request input, answer⟩] := by
  refine Program.ensures_lift_andThen.trans ((Program.ensures_question rfl).trans ?_)
  refine forall_congr' fun answer => Program.ensures_andThen.trans (ensures_ofRequest.trans ?_)
  cases answer with
  | error cause => exact Iff.rfl
  | ok come =>
    cases come with
    | inr stream => exact Program.ensures_ok
    | inl reply =>
      rw [streamOf]
      dsimp only [Except.mapError]
      cases Replies.accepted reply with
      | error cause => exact Program.ensures_throw
      | ok body => exact Program.ensures_throw

theorem ByApi.execNamed?_send (host : String) (request : Host.Request)
    (answer : Except ApiError Host.Reply) :
    execNamed? ⟨.send host request, answer⟩ =
      (resultOf (Replies.decoded Replies.execId?) answer).toOption := by
  cases answer with
  | error cause => rfl
  | ok reply => exact (toOption_mapError _ _).symm

theorem ByApi.ofJson_execBody (driver : ByApi) (container : String) (starter : Starter) :
    Commission.ofJson container (driver.execBody starter) =
      .ofStarter driver.agent container starter := by
  have argv : (driver.execBody starter).textsAt "Cmd" = starter.argv driver.agent.helper.isSome :=
    Json.textsAt_of_texts _ rfl
  have workDir : (driver.execBody starter).textAt? "WorkingDir" =
      if driver.agent.helper.isSome then none else starter.pwd := by
    rw [Json.textAt?, execBody]
    cases driver.agent.helper.isSome with
    | true => rfl
    | false => cases starter.pwd <;> rfl
  rw [Commission.ofJson, argv, workDir]
  rfl

theorem ByApi.exec_executed (driver : ByApi) (container : String) (starter : Starter) :
    Attempt.Ensures (driver.attempt (.exec container starter))
      (Executed (.ofStarter driver.agent container starter)) := by
  have executes : (Host.Ask.send driver.address
      (request "POST" (containerPath container "/exec") []
        (.json (driver.execBody starter)))).Executes (.ofStarter driver.agent container starter) :=
    driver.ofJson_execBody container starter ▸ .body driver.address container rfl rfl
  refine ensures_debug_andThen.mpr (Program.ensures_andThen.mpr (ensures_send.mpr fun answer => ?_))
  have named := execNamed?_send driver.address
    (request "POST" (containerPath container "/exec") [] (.json (driver.execBody starter))) answer
  cases accepted : resultOf (Replies.decoded Replies.execId?) answer with
  | error cause =>
    rw [accepted] at named
    refine .refused _ executes ?_
    rw [began, named]
    · rfl
    · exact nofun
  | ok id =>
    rw [accepted] at named
    refine Program.ensures_andThen.mpr (ensures_connect.mpr fun answer' => ?_)
    have streams := ok_of_streamOf answer'
    cases opened : streamOf answer' with
    | error cause =>
      rw [opened] at streams
      exact .joined executes named (iff_of_false nofun fun there => nomatch streams.mpr there)
    | ok stream =>
      rw [opened] at streams
      refine Program.ensures_ok.mpr (.joined executes named ?_)
      exact iff_of_true ⟨_, rfl⟩ (streams.mp ⟨stream, rfl⟩)

/-! ## The drivers together -/

/-- **The command line and the API are interchangeable.** With the same settings and plain hints,
whatever the answers: what a launch by either one asks of the engine and reads on the host are
errands of the same kinds, with the same details and in the same order, as long as the same ones
succeed, and the archives are the same byte for byte as long as the files that were read are.
Either launch begins with the container that is wanted, and if an errand fails it removes what it
created and comes to an error. A process is asked for by both with the same arguments, in the same
directory of the same container. -/
theorem drivers_interchangeable (byCommand : ByCommand) (byApi : ByApi)
    (same : byCommand.agent = byApi.agent) :
    (∀ launching : Launching, launching.Plain → ∀ trace result trace' result',
      (byCommand.launch launching).run.Yields trace result →
      (byApi.launch launching).run.Yields trace' result' →
        ∃ shown shown', List.Forall₂ Shows (errands trace) shown ∧
          List.Forall₂ Shows (errands trace') shown' ∧
          Launch.Interchanged byCommand.agent launching result shown result' shown') ∧
    ∀ container starter,
      Attempt.Ensures (byCommand.attempt (.exec container starter))
        (Executed (.ofStarter byCommand.agent container starter)) ∧
      Attempt.Ensures (byApi.attempt (.exec container starter))
        (Executed (.ofStarter byCommand.agent container starter)) := by
  constructor
  · intro launching plain trace result trace' result' yields yields'
    obtain ⟨steps, planned, shows⟩ := byCommand.launch_shown plain trace result yields
    obtain ⟨steps', planned', shows'⟩ := byApi.launch_shown plain trace' result' yields'
    rw [← same] at planned'
    exact ⟨_, _, shows, shows', Launch.interchanged planned planned'⟩
  · intro container starter
    exact ⟨byCommand.exec_executed container starter, same ▸ byApi.exec_executed container starter⟩

/-- An engine that creates the container `c1`, whichever way it is asked, and starts nothing. -/
def startsNothing (ask : Host.Ask) (state : Unit) : ask.Answer × Unit :=
  match ask with
  | .invoke invocation _ =>
    (if invocation.arguments.head? = some "create" then .ended (some 0) (Bytes.ofString "c1\n") []
      else .ended (some 1) [] [], state)
  | .send _ request =>
    (if request.path = "/containers/create" then
        .ok { status := 201, body := Bytes.ofString "\x7b\"Id\":\"c1\",\"Warnings\":null\x7d" }
      else .ok { status := 500, body := [] }, state)
  | ask => (Relay.answer ask .null, state)

/-- A sidecar that is created and does not start is removed by both. -/
theorem drivers_interchangeable_sidecar :
    let launching : Launching := .sidecar "mysql" { image := "agent", id := "a1" }
      { memory := some "512m", volumes := ["/data:/data"] }
    let byCommand := (ByCommand.launch default launching).run.record startsNothing ()
    let byApi := (ByApi.launch default launching).run.record startsNothing ()
    ((errands byCommand.1).map (·.question.verb?) = [some .create, some .start, some .remove] ∧
      (errands byApi.1).map (·.question.verb?) = [some .create, some .start, some .remove]) ∧
    ∃ shown shown', List.Forall₂ Shows (errands byCommand.1) shown ∧
      List.Forall₂ Shows (errands byApi.1) shown' ∧
      Launch.Interchanged (default : ByCommand).agent launching byCommand.2.1 shown
        byApi.2.1 shown' := by
  refine ⟨by decide +kernel, ?_⟩
  refine (drivers_interchangeable default default rfl).1 _ ?_ _ _ _ _
    (Program.yields_record _ _ _) (Program.yields_record _ _ _)
  exact Hints.plain_of_rawOptions_eq_none rfl fun limit given =>
    Option.some.inj given ▸ by decide +kernel

end BuildYard
