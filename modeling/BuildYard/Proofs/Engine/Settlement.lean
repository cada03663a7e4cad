import BuildYard.Proofs.Engine.Ways

/-!
# Launches by the command line and by the API

By the command line a step of a launch is one run of the engine's program, and
by the API it is one request. What either driver asks for, and nothing else, is
its `Wording`, so that both are ways to take the steps of a launch. A launch by
either one is therefore settled (`launch_settled`): no container that is not
ready is left behind.
-/

set_option autoImplicit false

namespace BuildYard

open Launch (Creation Launching Settled Step Way Wording)

variable {α β : Type} {counts : Host.Ask → Bool}

theorem Attempt.ensures_map {attempt : Attempt α} {f : α → β}
    {post : Except EngineError β → List HostExchange → Prop} :
    Program.Ensures counts (f <$> attempt).run post ↔
      Program.Ensures counts attempt.run fun result => post (result.map f) := by
  rw [ExceptT.run_map]
  exact Program.ensures_map

variable [Host.Counting counts]

/-! ## By the command line -/

namespace ByCommand

/-- A run of the program for a launch. -/
def wording (driver : ByCommand) : Wording where
  creation? creation :=
    (creationArguments? creation).map fun arguments => .invoke (driver.invocation arguments) none
  copyOut id path := .invoke (driver.invocation ["cp", id ++ ":" ++ path, "-"]) none
  copyIn id dir archive :=
    .invoke (driver.invocation ["cp", "-", id ++ ":" ++ dir]) (some archive)
  start id := .invoke (driver.invocation ["start", id]) none
  removal id := .invoke (driver.invocation ["rm", "-f", id]) none

variable {driver : ByCommand}

/-- A host in front of it does not hide what the program is told to do. -/
theorem word?_invocation {word : String} (arguments : List String) (unlike : word ≠ "-H") :
    (driver.invocation (word :: arguments)).word? = some word := by
  cases host : driver.endpoint.host with
  | some address => simp [invocation, Host.Invocation.word?, host]
  | none =>
    have same : (driver.invocation (word :: arguments)).arguments = word :: arguments := by
      simp [invocation, host]
    rw [Host.Invocation.word?, same]
    split
    · rename_i equal
      exact absurd (List.cons.inj equal).1 unlike
    · rfl

theorem verb?_invoke {word : String} {arguments : List String} {input : Option Bytes}
    (unlike : word ≠ "-H") :
    (Host.Ask.invoke (driver.invocation (word :: arguments)) input).verb? =
      Launch.Verb.ofWord? word := by
  rw [Host.Ask.verb?, word?_invocation arguments unlike, Option.bind_some]

theorem eq_cons_of_creationArguments {creation : Creation} {arguments : List String}
    (asked : creationArguments? creation = some arguments) :
    ∃ more, arguments = "create" :: more := by
  obtain ⟨shared, -, rfl⟩ := Option.map_eq_some_iff.mp asked
  exact ⟨_, rfl⟩

theorem verb?_wording (s : Step) (ask : Host.Ask) (asked : driver.wording.asks s = some ask) :
    ask.verb? = s.verb? := by
  cases s with
  | create creation =>
    obtain ⟨arguments, created, rfl⟩ := Option.map_eq_some_iff.mp asked
    obtain ⟨more, rfl⟩ := eq_cons_of_creationArguments created
    exact verb?_invoke (by decide)
  | copyOut id path => exact Option.some.inj asked ▸ verb?_invoke (by decide)
  | copyIn id dir archive => exact Option.some.inj asked ▸ verb?_invoke (by decide)
  | start id => exact Option.some.inj asked ▸ verb?_invoke (by decide)
  | discard id => exact Option.some.inj asked ▸ verb?_invoke (by decide)
  | readFile path => contradiction
  | report level text => contradiction

theorem named?_of_runResult {read : Host.Reply → Option String} {operation name : String}
    {invocation : Host.Invocation} {input : Option Bytes} {outcome : Host.Outcome}
    (succeeded : driver.runResult operation outcome = .ok name) :
    named? read ⟨.invoke invocation input, outcome⟩ = some name := by
  cases outcome with
  | notStarted cause => cases succeeded
  | unread => cases succeeded
  | ended code out err =>
    by_cases zero : code = some 0
    · subst zero
      exact congrArg some (Except.ok.inj succeeded)
    · rw [runResult, outputOf] at succeeded
      simp [zero] at succeeded

/-- A creation is one run, if its arguments can be read, and its reply names the id. -/
theorem create_named (creation : Creation) :
    Attempt.Ensures (driver.create creation) fun answer made =>
      made.map (·.question) = (driver.wording.creation? creation).toList ∧
        ∀ id, answer = .ok id → ∃ reply, made = [reply] ∧ idNamed? reply = some id := by
  have put : driver.wording.creation? creation = (creationArguments? creation).map fun arguments =>
    .invoke (driver.invocation arguments) none := rfl
  rw [create, put]
  cases creationArguments? creation with
  | none => exact Program.ensures_throw.mpr ⟨rfl, nofun⟩
  | some arguments =>
    refine ensures_run.mpr fun outcome => ⟨rfl, fun id succeeded => ?_⟩
    exact ⟨_, rfl, named?_of_runResult succeeded⟩

/-- A step asks for what it is put as. -/
theorem asked_step (s : Step) : Host.Ensures (driver.step s) fun _ made =>
    made.map (·.question) = (driver.wording.asks s).toList := by
  cases s with
  | create creation => exact (create_named creation).mono fun _ _ created => created.1
  | copyOut id path =>
    refine Program.ensures_andThen.mpr (ensures_invoke.mpr fun outcome => ?_)
    cases driver.outputOf outcome with
    | error cause => rfl
    | ok output =>
      by_cases failed : (!output.successful) = true
      · simp only [if_pos failed]
        exact Program.ensures_throw.mpr rfl
      · simp only [if_neg failed]
        cases Archive.firstFile output.out with
        | ok contents => exact Program.ensures_ok.mpr rfl
        | error fault => exact Program.ensures_throw.mpr rfl
  | copyIn id dir archive => exact Attempt.ensures_map.mpr (ensures_run.mpr fun _ => rfl)
  | start id => exact Attempt.ensures_map.mpr (ensures_run.mpr fun _ => rfl)
  | discard id => exact Program.ensures_map.mpr (ensures_run.mpr fun _ => rfl)
  | readFile path => exact Host.ensures_read.mpr fun _ => rfl
  | report level text => exact Host.ensures_note.mpr rfl

/-- Runs of the program are a way to take the steps of a launch. -/
def way (driver : ByCommand) : Way :=
  { driver.wording with
    step := driver.step
    asked := asked_step
    created := fun creation => (create_named creation).mono fun _ _ created => created.2
    verb := verb?_wording }

/-- A launch by the command line. -/
def launch (driver : ByCommand) : Launching → Attempt Handle
  | .agent image volume => driver.attempt (.launchAgent image volume)
  | .work image beside hints => driver.attempt (.launchWork image beside hints)
  | .sidecar image beside hints => driver.attempt (.launchSidecar image beside hints)

theorem settled (driver : ByCommand) (launching : Launching) :
    Attempt.Ensures (driver.launch launching) (Settled driver.way driver.agent launching) := by
  have settled := driver.way.settled driver.agent launching
  cases launching <;> exact settled

end ByCommand

/-! ## By the API -/

namespace ByApi

/-- A request for a launch. -/
def wording (driver : ByApi) : Wording where
  creation? creation := (creationBody creation).toOption.map fun body =>
    .send driver.address (request "POST" "/containers/create" [] (.json body))
  copyOut id path :=
    .send driver.address (request "GET" (containerPath id "/archive") [("path", path)] .none)
  copyIn id dir archive :=
    .send driver.address
      (request "PUT" (containerPath id "/archive") [("path", dir)] (.bytes archive))
  start id := .send driver.address (request "POST" (containerPath id "/start") [] .none)
  removal id :=
    .send driver.address (request "DELETE" (containerPath id "") [("force", "true")] .none)

variable {driver : ByApi}

theorem verb?_wording (s : Step) (ask : Host.Ask) (asked : driver.wording.asks s = some ask) :
    ask.verb? = s.verb? := by
  cases s with
  | create creation =>
    obtain ⟨body, -, rfl⟩ := Option.map_eq_some_iff.mp asked
    rfl
  | copyOut id path => exact Option.some.inj asked ▸ rfl
  | copyIn id dir archive => exact Option.some.inj asked ▸ rfl
  | start id => exact Option.some.inj asked ▸ rfl
  | discard id => exact Option.some.inj asked ▸ rfl
  | readFile path => contradiction
  | report level text => contradiction

/-- What is made of a reply is what is read in it. -/
theorem toOption_of_resultOf {read : Host.Reply → Except ApiError α} {value : α}
    {answer : Except ApiError Host.Reply} (succeeded : resultOf read answer = .ok value) :
    ∃ reply, answer = .ok reply ∧ (read reply).toOption = some value := by
  cases answer with
  | error cause => cases succeeded
  | ok reply =>
    refine ⟨reply, rfl, ?_⟩
    rw [resultOf] at succeeded
    cases found : read reply with
    | error cause => rw [found] at succeeded; cases succeeded
    | ok value => rw [found] at succeeded; cases succeeded; rfl

/-- Texts are passed on without a request. -/
theorem ensures_notes {level : Log.Level} {shown : String → String} {texts : List String}
    {f : Unit → Attempt β} {post : Except EngineError β → List HostExchange → Prop} :
    Program.Ensures counts
        ((texts.forM fun text =>
          (ExceptT.lift (Host.note level .apiDriver (shown text)) : Attempt Unit)) >>= f).run
        post ↔
      Program.Ensures counts (f ()).run post := by
  rw [List.forM_eq_forM]
  induction texts with
  | nil => rw [List.forM_nil, pure_bind]
  | cons text texts ih =>
    rw [List.forM_cons, bind_assoc]
    exact (Program.ensures_lift_andThen.trans Host.ensures_note).trans ih

/-- A creation is one request, if it can be written, and its reply names the id. -/
theorem create_named (creation : Creation) :
    Attempt.Ensures (driver.create creation) fun answer made =>
      made.map (·.question) = (driver.wording.creation? creation).toList ∧
        ∀ id, answer = .ok id → ∃ reply, made = [reply] ∧ idNamed? reply = some id := by
  have put : driver.wording.creation? creation = (creationBody creation).toOption.map fun body =>
    .send driver.address (request "POST" "/containers/create" [] (.json body)) := rfl
  rw [create, put]
  refine Program.ensures_andThen.mpr (Program.ensures_pure.mpr ?_)
  cases creationBody creation with
  | error cause => exact ⟨rfl, nofun⟩
  | ok body =>
    refine Program.ensures_andThen.mpr (ensures_send.mpr fun answer => ?_)
    cases created : resultOf (Replies.decoded Replies.creation?) answer with
    | error cause => exact ⟨rfl, nofun⟩
    | ok reply =>
      obtain ⟨id, warnings⟩ := reply
      refine ensures_notes.mpr (Program.ensures_ok.mpr ⟨rfl, ?_⟩)
      rintro _ ⟨⟩
      obtain ⟨reply, rfl, found⟩ := toOption_of_resultOf created
      exact ⟨_, rfl, congrArg (Option.map Prod.fst) found⟩

/-- A step asks for what it is put as. -/
theorem asked_step (s : Step) : Host.Ensures (driver.step s) fun _ made =>
    made.map (·.question) = (driver.wording.asks s).toList := by
  cases s with
  | create creation => exact (create_named creation).mono fun _ _ created => created.1
  | copyOut id path =>
    refine Program.ensures_andThen.mpr (ensures_send.mpr fun answer => ?_)
    cases resultOf Replies.accepted answer with
    | error cause => rfl
    | ok archive =>
      dsimp only
      cases Archive.firstFile archive with
      | ok contents => exact Program.ensures_ok.mpr rfl
      | error fault => exact Program.ensures_throw.mpr rfl
  | copyIn id dir archive => exact ensures_send.mpr fun _ => rfl
  | start id => exact ensures_send.mpr fun _ => rfl
  | discard id => exact Program.ensures_map.mpr (ensures_send.mpr fun _ => rfl)
  | readFile path => exact Host.ensures_read.mpr fun _ => rfl
  | report level text => exact Host.ensures_note.mpr rfl

/-- Requests are a way to take the steps of a launch. -/
def way (driver : ByApi) : Way :=
  { driver.wording with
    step := driver.step
    asked := asked_step
    created := fun creation => (create_named creation).mono fun _ _ created => created.2
    verb := verb?_wording }

/-- A launch by the API. -/
def launch (driver : ByApi) : Launching → Attempt Handle
  | .agent image volume => driver.attempt (.launchAgent image volume)
  | .work image beside hints => driver.attempt (.launchWork image beside hints)
  | .sidecar image beside hints => driver.attempt (.launchSidecar image beside hints)

/-- A launch by the API performs the shared plan, also where its set-up is the API's own. -/
theorem launch_eq_perform (driver : ByApi) (launching : Launching) :
    driver.launch launching = (launching.plan driver.agent).perform driver.step := by
  cases launching with
  | agent image volume => rfl
  | work image beside hints => rw [launch, attempt, launchWork_eq]; rfl
  | sidecar image beside hints => rfl

theorem settled (driver : ByApi) (launching : Launching) :
    Attempt.Ensures (driver.launch launching) (Settled driver.way driver.agent launching) :=
  driver.launch_eq_perform launching ▸ driver.way.settled driver.agent launching

end ByApi

/-- **No launch leaves a container behind that is not ready.** By the command line and by the API,
whatever the settings, the hints and the answers: if nothing was created, nothing more is asked
for; if the set-up of a created container breaks, the last request removes it, and what broke it
is reported; and otherwise nothing was removed, and the container was started once, or never if it
is the agent's. -/
theorem launch_settled (launching : Launching) :
    (∀ driver : ByCommand, Attempt.Ensures (driver.launch launching)
      (Settled driver.way driver.agent launching)) ∧
    (∀ driver : ByApi, Attempt.Ensures (driver.launch launching)
      (Settled driver.way driver.agent launching)) :=
  ⟨fun driver => driver.settled launching, fun driver => driver.settled launching⟩

end BuildYard
