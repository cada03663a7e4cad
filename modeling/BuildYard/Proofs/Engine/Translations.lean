import BuildYard.Proofs.Engine.Errands
import BuildYard.Proofs.Engine.Settlement
import BuildYard.Proofs.Program.Likeness
import Mathlib.Data.List.Forall2

/-!
# Launches as errands

Each step of a launch is one errand, which the command line and the API put
into their own form. `ByCommand.step_tells` and `ByApi.step_tells` say that both
put it right: what a step asks of the host is that errand and nothing else, and
the step is answered with what came of it. Of a creation this holds if the hints
are plain, that is if there are no raw options and the limit of memory, if any,
is one that the API understands.

What the steps of a plan tell, its requests tell, taken together
(`ensures_shown`).
-/

set_option autoImplicit false

namespace BuildYard

open Launch (Creation Launching Plan Step StepTaken)

/-- Whether something is done by a question to the host: a request to the engine, or a file of
the host that is read. -/
def Host.Ask.isErrand : Host.Ask → Bool
  | .read _ => true
  | ask => ask.isRequest

instance : Host.Counting Host.Ask.isErrand where
  log _ := rfl
  request ask yes := by cases ask <;> first | rfl | contradiction

/-- The errands among the questions to the host, in order. -/
abbrev errands (trace : List HostExchange) : List HostExchange :=
  Program.counted Host.Ask.isErrand trace

variable {α : Type}

namespace Launch

/-- The errand that a step is and what came of it; a report is none. -/
def StepTaken.shown? : StepTaken → Option Shown
  | ⟨.create creation, answer⟩ => some ⟨.create (.ofCreation creation), answer.toOption⟩
  | ⟨.copyOut id path, answer⟩ => some ⟨.copyOut id path, answer.toOption⟩
  | ⟨.copyIn id dir archive, answer⟩ => some ⟨.copyIn id dir archive, answer.toOption⟩
  | ⟨.start id, answer⟩ => some ⟨.start id, answer.toOption⟩
  | ⟨.discard id, answer⟩ => some ⟨.remove id, answer.toOption⟩
  | ⟨.readFile path, answer⟩ => some ⟨.read path, answer.toOption⟩
  | ⟨.report _ _, _⟩ => none

/-- Of the steps of a launch the errands are seen. -/
def sight : Program.Sight Step Step.Answer Errand fun errand => Option errand.Value :=
  StepTaken.shown?

/-- What a step asks of the host is the errand that it is, and no other. -/
def Tells (step : (s : Step) → Host.Task s.Answer) (s : Step) : Prop :=
  Program.Ensures Host.Ask.isErrand (step s) fun answer made =>
    List.Forall₂ Shows made (sight ⟨s, answer⟩).toList

theorem forall₂_shows_of_relayed {step : (s : Step) → Host.Task s.Answer} {state last : Unit}
    {relays : List (RelayedExchange Step Step.Answer Host.Ask Host.Ask.Answer)}
    (relayed : Program.Relayed (fun s (state : Unit) => do pure (← step s, state)) state
      relays last)
    (tells : ∀ relay ∈ relays, Tells step relay.exchange.question) :
    List.Forall₂ Shows (errands (relays.flatMap (·.asked)))
      (sight.view (relays.map (·.exchange))) := by
  induction relayed with
  | nil => exact .nil
  | @cons _ _ _ s reply asked relays answered _ ih =>
    obtain ⟨first, answer, rest, rfl, yields, ended⟩ := Program.yields_bind_iff.mp answered
    obtain ⟨rfl, ⟨rfl, rfl⟩⟩ := Program.yields_pure_iff.mp ended
    obtain ⟨here, later⟩ := List.forall_mem_cons.mp tells
    rw [List.append_nil, List.flatMap_cons, errands, Program.counted_append, List.map_cons,
      sight.view_cons]
    exact List.rel_append (here first reply yields) (ih later)

/-- **What the steps of a plan tell, its requests tell.** -/
theorem ensures_shown {step : (s : Step) → Host.Task s.Answer} {plan : Plan α}
    (tells : plan.Ensures fun _ steps => ∀ taken ∈ steps, Tells step taken.question)
    (reports : ∀ level text, Tells step (.report level text)) :
    Program.Ensures Host.Ask.isErrand (plan.perform step).run fun result made =>
      ∃ steps, plan.run.Yields steps result ∧
        List.Forall₂ Shows made (sight.view steps) := by
  intro trace result performed
  obtain ⟨⟨value, state⟩, yields, rfl⟩ := Program.yields_map_iff.mp performed
  obtain ⟨relays, relayed, planned, rfl⟩ := Program.yields_through_iff.mp yields
  refine ⟨_, planned, forall₂_shows_of_relayed relayed fun relay member => ?_⟩
  have mine : relay.exchange ∈ relays.map (·.exchange) := List.mem_map_of_mem member
  cases acts : relay.exchange.question.acts with
  | true => exact tells _ _ planned _ (List.mem_filter.mpr ⟨mine, acts⟩)
  | false =>
    generalize relay.exchange.question = s at acts
    cases s with
    | report level text => exact reports level text
    | _ => contradiction

end Launch

/-! ## Creations that either driver can ask for -/

/-- Hints that give neither driver an option in the engine's own notation, and if a limit of
memory, one that both understand. -/
structure Hints.Plain (hints : Hints) : Prop where
  wordless : hints.rawArgs? = some []
  rawless : ByApi.hasRawOptions hints = false
  limited : ∀ limit, hints.memory = some limit → (MemoryLimit.parse? limit).isSome = true

/-- Hints without raw options are plain if their limit is understood. -/
theorem Hints.plain_of_rawOptions_eq_none {hints : Hints} (rawless : hints.rawOptions = none)
    (limited : ∀ limit, hints.memory = some limit → (MemoryLimit.parse? limit).isSome = true) :
    hints.Plain where
  wordless := by rw [rawArgs?, rawless]
  rawless := by rw [ByApi.hasRawOptions, rawless]; rfl
  limited := limited

/-- A launch with plain hints, if with any. -/
def Launch.Launching.Plain : Launching → Prop
  | .agent _ _ => True
  | .work _ _ hints | .sidecar _ _ hints => hints.Plain

section Creations

variable {hints : Hints} {settings : AgentSettings} {launching : Launching}

namespace Blueprint

theorem withFlags_cons (flag : Flag) (flags : List Flag) (blueprint : Blueprint) :
    withFlags (flag :: flags) blueprint = withFlags flags (flag.adds blueprint) :=
  rfl

theorem withFlags_append (flags more : List Flag) (blueprint : Blueprint) :
    withFlags (flags ++ more) blueprint = withFlags more (withFlags flags blueprint) :=
  List.foldl_append ..

theorem withFlags_mounts (binds : List String) (blueprint : Blueprint) :
    withFlags (binds.map .mount) blueprint =
      { blueprint with binds := blueprint.binds ++ binds } := by
  induction binds generalizing blueprint with
  | nil => rw [List.append_nil]; rfl
  | cons bind binds ih =>
    rw [List.map_cons, withFlags_cons, ih, Flag.adds, List.append_assoc]
    rfl

theorem words_mounts (binds : List String) :
    (binds.map Flag.mount).flatMap Flag.words = binds.flatMap (["-v", ·]) := by
  rw [List.flatMap_map]
  rfl

/-- The flags for what a container shares with an agent. -/
def sharedFlags (beside : Handle) (hints : Hints) : List Flag :=
  [.volumesFrom beside.id, .net ("container:" ++ beside.id), .ipc ("container:" ++ beside.id)] ++
    ((hints.memory.map Flag.memory).toList ++ hints.volumes.map .mount)

theorem sharedArguments?_of_plain (plain : hints.Plain) (beside : Handle) :
    ByCommand.sharedArguments? (some (beside, hints)) =
      some ((sharedFlags beside hints).flatMap Flag.words) := by
  have net : "--net=" ++ ("container:" ++ beside.id) = "--net=container:" ++ beside.id := by
    rw [← String.append_assoc]; rfl
  have ipc : "--ipc=" ++ ("container:" ++ beside.id) = "--ipc=container:" ++ beside.id := by
    rw [← String.append_assoc]; rfl
  have memory : ((hints.memory.map Flag.memory).toList).flatMap Flag.words =
      (hints.memory.map (["-m", ·])).getD [] := by
    cases hints.memory <;> rfl
  rw [ByCommand.sharedArguments?, plain.wordless, Option.map_some, sharedFlags, List.flatMap_append,
    List.flatMap_append, words_mounts, memory]
  simp only [List.flatMap_cons, List.flatMap_nil, Flag.words, net, ipc, List.append_nil,
    List.cons_append, List.nil_append]

theorem withFlags_shared {blueprint : Blueprint} (limitless : blueprint.memory = none)
    (beside : Handle) (hints : Hints) :
    withFlags (sharedFlags beside hints) blueprint =
      { blueprint with
        volumesFrom := blueprint.volumesFrom ++ [beside.id]
        network := some ("container:" ++ beside.id)
        ipc := some ("container:" ++ beside.id)
        memory := hints.memory.bind MemoryLimit.parse?
        binds := blueprint.binds ++ hints.volumes } := by
  rw [sharedFlags, withFlags_append, withFlags_append, withFlags_mounts]
  cases hints.memory with
  | none => rw [Option.bind_none, ← limitless]; rfl
  | some limit => rfl

end Blueprint

open Blueprint in
/-- **The words that create a container say what the launch wants it to be.** -/
theorem ByCommand.creationArguments?_says (plain : launching.Plain) :
    ∃ words, creationArguments? (launching.creation settings) = some words ∧
      (Blueprint.ofCreation (launching.creation settings)).Says words := by
  cases launching with
  | agent image volume =>
    refine ⟨_, rfl, [.interactive, .logDriver "none", .env ("TMPDIR=" ++ settings.tmpDir),
      .user settings.user, .volume (volume ++ ":" ++ settings.workspaceRoot)], ?_, rfl⟩
    simp [Launching.creation, Launch.agentCreation, Flag.words, ofCreation]
  | work image beside hints =>
    refine ⟨_, Option.map_eq_some_iff.mpr ⟨_, sharedArguments?_of_plain plain beside, rfl⟩,
      sharedFlags beside hints ++ [.env ("TMPDIR=" ++ settings.tmpDir),
        .workdir settings.workspaceRoot, .user settings.user], ?_, ?_⟩
    · simp [Launching.creation, Launch.workCreation, Flag.words, ofCreation]
    · rw [withFlags_append, withFlags_shared rfl]
      rfl
  | sidecar image beside hints =>
    refine ⟨_, Option.map_eq_some_iff.mpr ⟨_, sharedArguments?_of_plain plain beside, rfl⟩,
      sharedFlags beside hints, ?_, ?_⟩
    · simp [Launching.creation, Launch.sidecarCreation, ofCreation]
    · rw [withFlags_shared rfl]
      rfl

/-- The members of the request for what a container shares with an agent. -/
def ByApi.sharedMembers (beside : Handle) (hints : Hints) : List (String × Json) :=
  ((hints.memory.bind MemoryLimit.parse?).map fun bytes => ("Memory", Json.ofInt bytes)).toList ++
    (if hints.volumes.isEmpty then [] else [("Binds", texts hints.volumes)]) ++
    [("NetworkMode", .text ("container:" ++ beside.id)), ("VolumesFrom", texts [beside.id]),
      ("IpcMode", .text ("container:" ++ beside.id))]

theorem ByApi.memoryOf_of_plain (plain : hints.Plain) :
    memoryOf hints = .ok (hints.memory.bind MemoryLimit.parse?) := by
  rw [memoryOf]
  cases given : hints.memory with
  | none => rfl
  | some limit =>
    obtain ⟨bytes, parsed⟩ := Option.isSome_iff_exists.mp (plain.limited limit given)
    rw [Option.bind_some, parsed]
    simp only [parsed]

theorem ByApi.sharedConfig_of_plain (plain : hints.Plain) (beside : Handle) :
    sharedConfig beside hints = .ok (sharedMembers beside hints) := by
  rw [sharedConfig, if_neg (by simp [plain.rawless]), memoryOf_of_plain plain]
  rfl

theorem ByApi.textsAt_binds_sharedMembers (beside : Handle) (hints : Hints) :
    (Json.record (sharedMembers beside hints)).textsAt "Binds" = hints.volumes := by
  rw [sharedMembers]
  cases hints.volumes with
  | nil =>
    cases hints.memory.bind MemoryLimit.parse? <;>
      simp [Json.textsAt, Json.member?_record_cons, Json.member?_record_nil]
  | cons volume volumes =>
    refine Json.textsAt_of_texts _ ?_
    cases hints.memory.bind MemoryLimit.parse? <;> simp [Json.member?_record_cons, texts]

/-- Of the memory the request says what is read, and nothing if nothing is. -/
theorem ByApi.member?_memory_sharedMembers (beside : Handle) (hints : Hints) :
    (Json.record (sharedMembers beside hints)).member? "Memory" =
      (hints.memory.bind MemoryLimit.parse?).map Json.ofInt := by
  rw [sharedMembers]
  cases hints.memory.bind MemoryLimit.parse? with
  | none =>
    cases hints.volumes <;> simp [Json.member?_record_cons, Json.member?_record_nil]
  | some bytes => simp [Json.member?_record_cons]

/-- The members that come after what hints may leave out. -/
theorem ByApi.member?_sharedMembers {name : String} (beside : Handle) (hints : Hints)
    (memory : name ≠ "Memory") (binds : name ≠ "Binds") :
    (Json.record (sharedMembers beside hints)).member? name =
      (Json.record
        [("NetworkMode", .text ("container:" ++ beside.id)), ("VolumesFrom", texts [beside.id]),
          ("IpcMode", .text ("container:" ++ beside.id))]).member? name := by
  refine Json.member?_record_append fun member inside => ?_
  rcases List.mem_append.mp inside with limit | mounted
  · obtain ⟨bytes, -, rfl⟩ := Option.map_eq_some_iff.mp (Option.mem_toList.mp limit)
    exact memory.symm
  · split at mounted
    · contradiction
    · exact List.mem_singleton.mp mounted ▸ binds.symm

/-- What a body says of a container that shares what an agent has. -/
theorem Blueprint.ofJson_of_host {body : Json} {beside : Handle}
    (host : body.member? "HostConfig" = some (.record (ByApi.sharedMembers beside hints))) :
    ofJson body =
      { image := (body.textAt? "Image").getD ""
        command := body.textsAt "Cmd"
        env := body.textsAt "Env"
        user := body.textAt? "User"
        workDir := body.textAt? "WorkingDir"
        binds := hints.volumes
        volumesFrom := [beside.id]
        network := some ("container:" ++ beside.id)
        ipc := some ("container:" ++ beside.id)
        memory := hints.memory.bind MemoryLimit.parse?
        openInput := body.flagAt "OpenStdin" } := by
  have member {name : String} (memory : name ≠ "Memory") (binds : name ≠ "Binds") :=
    ByApi.member?_sharedMembers beside hints memory binds
  have volumesFrom : (Json.record (ByApi.sharedMembers beside hints)).textsAt "VolumesFrom" =
      [beside.id] :=
    Json.textsAt_of_texts _ ((member (by decide) (by decide)).trans rfl)
  have network : (Json.record (ByApi.sharedMembers beside hints)).textAt? "NetworkMode" =
      some ("container:" ++ beside.id) := by
    rw [Json.textAt?, member (by decide) (by decide)]
    rfl
  have ipc : (Json.record (ByApi.sharedMembers beside hints)).textAt? "IpcMode" =
      some ("container:" ++ beside.id) := by
    rw [Json.textAt?, member (by decide) (by decide)]
    rfl
  have log : (Json.record (ByApi.sharedMembers beside hints)).member? "LogConfig" = none :=
    (member (by decide) (by decide)).trans rfl
  have limit : ((Json.record (ByApi.sharedMembers beside hints)).member? "Memory").bind Json.int? =
      hints.memory.bind MemoryLimit.parse? := by
    rw [ByApi.member?_memory_sharedMembers]
    cases hints.memory.bind MemoryLimit.parse? with
    | none => rfl
    | some bytes => exact Json.int?_ofInt bytes
  simp only [ofJson, host, Option.getD_some, ByApi.textsAt_binds_sharedMembers, volumesFrom,
    network, ipc, limit, log, Option.bind_none]

/-- **The body of the request says what the launch wants the container to be.** -/
theorem ByApi.creationBody_says (plain : launching.Plain) :
    ∃ body, creationBody (launching.creation settings) = .ok body ∧
      Blueprint.ofJson body = .ofCreation (launching.creation settings) := by
  cases launching with
  | agent image volume =>
    refine ⟨_, rfl, ?_⟩
    rw [Blueprint.ofJson, Json.textsAt_of_texts settings.command rfl]
    rfl
  | work image beside hints =>
    have body : creationBody (Launch.workCreation settings image beside hints) =
        .ok (.record
          [("User", .text settings.user), ("Env", texts ["TMPDIR=" ++ settings.tmpDir]),
            ("Cmd", texts (Account.idleCommand settings)), ("Image", .text image),
            ("WorkingDir", .text settings.workspaceRoot),
            ("HostConfig", .record (sharedMembers beside hints))]) := by
      rw [creationBody, hostConfig, Launch.workCreation]
      simp only [sharedConfig_of_plain plain]
      rfl
    refine ⟨_, body, ?_⟩
    rw [Blueprint.ofJson_of_host rfl, Json.textsAt_of_texts (Account.idleCommand settings) rfl]
    rfl
  | sidecar image beside hints =>
    have body : creationBody (Launch.sidecarCreation image beside hints) =
        .ok (.record
          [("Image", .text image), ("HostConfig", .record (sharedMembers beside hints))]) := by
      rw [creationBody, hostConfig, Launch.sidecarCreation]
      simp only [sharedConfig_of_plain plain]
      rfl
    refine ⟨_, body, ?_⟩
    rw [Blueprint.ofJson_of_host rfl]
    rfl

end Creations

/-! ## The steps of the drivers -/

theorem toOption_map {ε β : Type} (f : α → β) (result : Except ε α) :
    (result.map f).toOption = result.toOption.map f := by
  cases result <;> rfl

theorem toOption_mapError {ε ε' : Type} (f : ε → ε') (result : Except ε α) :
    (result.mapError f).toOption = result.toOption := by
  cases result <;> rfl

/-- Of a run the id is named that it brought, without the blanks around it. -/
theorem named?_invoke {read : Host.Reply → Option String} {invocation : Host.Invocation}
    {input : Option Bytes} (outcome : Host.Outcome) :
    named? read ⟨.invoke invocation input, outcome⟩ =
      (brought? ⟨.invoke invocation input, outcome⟩).map fun out =>
        Text.trim (Bytes.textLossy out) := by
  cases outcome with
  | notStarted cause => rfl
  | unread => rfl
  | ended code out err =>
    by_cases zero : code = some 0
    · rw [zero]
      rfl
    · simp [named?, brought?, zero]

namespace ByCommand

variable {driver : ByCommand}

theorem says_invocation (driver : ByCommand) (words : List String) :
    (driver.invocation words).Says words := by
  cases host : driver.endpoint.host with
  | none => exact .inl (by simp [invocation, host])
  | some address => exact .inr ⟨address, by simp [invocation, host]⟩

/-- What a run comes to that has to succeed is what it brought. -/
theorem toOption_runResult {operation : String} {invocation : Host.Invocation}
    {input : Option Bytes} (outcome : Host.Outcome) :
    (driver.runResult operation outcome).toOption =
      (brought? ⟨.invoke invocation input, outcome⟩).map fun out =>
        Text.trim (Bytes.textLossy out) := by
  cases outcome with
  | notStarted cause => rfl
  | unread => rfl
  | ended code out err =>
    rw [runResult, outputOf, brought?]
    cases code == some 0 <;> rfl

/-- Creating tells the errand if its words do. -/
theorem create_tells {creation : Creation} {words : List String}
    (asked : creationArguments? creation = some words)
    (said : (Blueprint.ofCreation creation).Says words) :
    Launch.Tells driver.step (.create creation) := by
  have tells : Program.Ensures Host.Ask.isErrand (driver.run "create" words none).run
      fun answer made => List.Forall₂ Shows made
        [⟨.create (.ofCreation creation), answer.toOption⟩] :=
    ensures_run.mpr fun outcome => .cons
      ⟨.wordsCreate (driver.says_invocation words) said,
        (toOption_runResult outcome).trans (named?_invoke outcome).symm⟩ .nil
  rw [Launch.Tells, step, create, asked]
  exact tells

theorem copyOut_tells (id path : String) : Launch.Tells driver.step (.copyOut id path) := by
  refine Program.ensures_andThen.mpr (ensures_invoke.mpr fun outcome => ?_)
  have means : (Host.Ask.invoke (driver.invocation ["cp", id ++ ":" ++ path, "-"]) none).Means
      (.copyOut id path) :=
    .wordsCopyOut (driver.says_invocation _)
  cases outcome with
  | notStarted cause => exact .cons ⟨means, rfl⟩ .nil
  | unread => exact .cons ⟨means, rfl⟩ .nil
  | ended code out err =>
    have told : told? (.copyOut id path)
        ⟨.invoke (driver.invocation ["cp", id ++ ":" ++ path, "-"]) none, .ended code out err⟩ =
          (if code == some 0 then some out else none).bind fun archive =>
            (Archive.firstFile archive).toOption :=
      rfl
    rw [outputOf]
    dsimp only
    cases successful : code == some 0 with
    | false =>
      rw [successful, if_neg Bool.false_ne_true, Option.bind_none] at told
      exact Program.ensures_throw.mpr (.cons ⟨means, told.symm⟩ .nil)
    | true =>
      rw [successful, if_pos rfl, Option.bind_some] at told
      cases found : Archive.firstFile out with
      | ok contents =>
        rw [found] at told
        exact Program.ensures_ok.mpr (.cons ⟨means, told.symm⟩ .nil)
      | error fault =>
        rw [found] at told
        exact Program.ensures_throw.mpr (.cons ⟨means, told.symm⟩ .nil)

/-- What a run that has to succeed comes to if only its success matters. -/
theorem toOption_runDone {operation : String} {invocation : Host.Invocation}
    {input : Option Bytes} (outcome : Host.Outcome) :
    ((driver.runResult operation outcome).map fun _ => ()).toOption =
      (brought? ⟨.invoke invocation input, outcome⟩).map fun _ => () := by
  rw [toOption_map, toOption_runResult, Option.map_map, Function.comp_def]

/-- **By the command line each step is the errand that it tells.** -/
theorem step_tells (s : Step) (creates : ∀ creation, s = .create creation →
      ∃ words, creationArguments? creation = some words ∧
        (Blueprint.ofCreation creation).Says words) :
    Launch.Tells driver.step s := by
  cases s with
  | create creation =>
    obtain ⟨words, asked, said⟩ := creates creation rfl
    exact create_tells asked said
  | copyOut id path => exact copyOut_tells id path
  | copyIn id dir archive =>
    exact Attempt.ensures_map.mpr (ensures_run.mpr fun outcome => .cons
      ⟨.wordsCopyIn (driver.says_invocation _), toOption_runDone outcome⟩ .nil)
  | start id =>
    exact Attempt.ensures_map.mpr (ensures_run.mpr fun outcome => .cons
      ⟨.wordsStart (driver.says_invocation _), toOption_runDone outcome⟩ .nil)
  | discard id =>
    exact Program.ensures_map.mpr (ensures_run.mpr fun outcome => .cons
      ⟨.wordsRemove (driver.says_invocation _),
        (toOption_mapError _ _).trans (toOption_runDone outcome)⟩ .nil)
  | readFile path =>
    exact (Program.ensures_question rfl).mpr fun answer => .cons ⟨.read path, rfl⟩ .nil
  | report level text => exact Host.ensures_note.mpr .nil

end ByCommand

/-! ### By the API -/

namespace ByApi

variable {driver : ByApi}

theorem toOption_resultOf {read : Host.Reply → Except ApiError α}
    (answer : Except ApiError Host.Reply) :
    (resultOf read answer).toOption = answer.toOption.bind fun reply => (read reply).toOption := by
  cases answer with
  | error cause => rfl
  | ok reply => exact toOption_mapError _ _

/-- What a request comes to of which only the success matters. -/
theorem toOption_unread {host : String} {request : Host.Request}
    (answer : Except ApiError Host.Reply) :
    (resultOf unread answer).toOption =
      (brought? ⟨.send host request, answer⟩).map fun _ => () := by
  cases answer with
  | error cause => rfl
  | ok reply => exact (toOption_mapError _ _).trans (toOption_map _ _)

/-- Creating tells the errand if its body does. -/
theorem create_tells {creation : Creation} {body : Json} (asked : creationBody creation = .ok body)
    (said : Blueprint.ofJson body = .ofCreation creation) :
    Launch.Tells driver.step (.create creation) := by
  rw [Launch.Tells, step, create, asked]
  refine Program.ensures_andThen.mpr (Program.ensures_pure.mpr ?_)
  refine Program.ensures_andThen.mpr (ensures_send.mpr fun answer => ?_)
  have means : (Host.Ask.send driver.address
      (request "POST" "/containers/create" [] (.json body))).Means
        (.create (.ofCreation creation)) :=
    said ▸ .bodyCreates driver.address body
  have told : idNamed? ⟨.send driver.address (request "POST" "/containers/create" [] (.json body)),
      answer⟩ = (resultOf (Replies.decoded Replies.creation?) answer).toOption.map (·.1) := by
    cases answer with
    | error cause => rfl
    | ok reply => exact congrArg (Option.map Prod.fst) (toOption_mapError _ _).symm
  cases created : resultOf (Replies.decoded Replies.creation?) answer with
  | error cause =>
    rw [created] at told
    exact .cons ⟨means, told.symm⟩ .nil
  | ok reply =>
    obtain ⟨id, warnings⟩ := reply
    rw [created] at told
    exact ensures_notes.mpr (Program.ensures_ok.mpr (.cons ⟨means, told.symm⟩ .nil))

theorem copyOut_tells (id path : String) : Launch.Tells driver.step (.copyOut id path) := by
  refine Program.ensures_andThen.mpr (ensures_send.mpr fun answer => ?_)
  have means := Host.Ask.Means.pathCopiesOut driver.address id path
  have told : told? (.copyOut id path)
      ⟨.send driver.address (request "GET" (containerPath id "/archive") [("path", path)] .none),
        answer⟩ =
      (resultOf Replies.accepted answer).toOption.bind fun archive =>
        (Archive.firstFile archive).toOption := by
    rw [toOption_resultOf]
    cases answer <;> rfl
  cases fetched : resultOf Replies.accepted answer with
  | error cause =>
    rw [fetched] at told
    exact .cons ⟨means, told.symm⟩ .nil
  | ok archive =>
    rw [fetched, Except.toOption, Option.bind_some] at told
    dsimp only
    cases found : Archive.firstFile archive with
    | ok contents =>
      rw [found] at told
      exact Program.ensures_ok.mpr (.cons ⟨means, told.symm⟩ .nil)
    | error fault =>
      rw [found] at told
      exact Program.ensures_throw.mpr (.cons ⟨means, told.symm⟩ .nil)

theorem pathRemoves_containerPath (host id : String) :
    (Host.Ask.send host (request "DELETE" (containerPath id "") [("force", "true")] .none)).Means
      (.remove id) := by
  rw [containerPath, String.append_empty]
  exact .pathRemoves host id

/-- **By the API each step is the errand that it tells.** -/
theorem step_tells (s : Step) (creates : ∀ creation, s = .create creation →
      ∃ body, creationBody creation = .ok body ∧
        Blueprint.ofJson body = .ofCreation creation) :
    Launch.Tells driver.step s := by
  cases s with
  | create creation =>
    obtain ⟨body, asked, said⟩ := creates creation rfl
    exact create_tells asked said
  | copyOut id path => exact copyOut_tells id path
  | copyIn id dir archive =>
    exact ensures_send.mpr fun answer => .cons
      ⟨.pathCopiesIn driver.address id dir archive, toOption_unread answer⟩ .nil
  | start id =>
    exact ensures_send.mpr fun answer => .cons
      ⟨.pathStarts driver.address id, toOption_unread answer⟩ .nil
  | discard id =>
    exact Program.ensures_map.mpr (ensures_send.mpr fun answer => .cons
      ⟨pathRemoves_containerPath driver.address id,
        (toOption_mapError _ _).trans (toOption_unread answer)⟩ .nil)
  | readFile path =>
    exact (Program.ensures_question rfl).mpr fun answer => .cons ⟨.read path, rfl⟩ .nil
  | report level text => exact Host.ensures_note.mpr .nil

end ByApi

end BuildYard
