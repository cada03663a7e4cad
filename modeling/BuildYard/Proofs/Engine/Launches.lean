import BuildYard.Engine.ByApi
import BuildYard.Engine.Launch
import BuildYard.Proofs.Program.Observation

/-!
# How a launch goes, step by step

A launch creates a container, sets it up, and is done; what fails on the way
decides how it ends. If the set-up breaks, one more step discards the
container, and what broke it is what the launch comes to. `Course` lists the
three ways, and every launch takes one of them (`course`): nothing was created,
or it was discarded, or the container is ready and was started as often as it
is to be.

By the API the set-up of a work container is written out on its own: directories
and names are given apart, and the helper's name is its path without the leading
slash. It is the same plan (`ByApi.launchWork_eq`).
-/

set_option autoImplicit false

namespace BuildYard.Launch

variable {α β : Type}

/-- A step and its answer. -/
abbrev StepTaken := Exchange Step Step.Answer

/-- Reports are no steps that count. -/
def Step.acts : Step → Bool
  | .report _ _ => false
  | _ => true

/-- Whatever the answers, `post` holds of what a plan comes to and of the steps that it took. -/
abbrev Plan.Ensures (plan : Plan α)
    (post : Except EngineError α → List StepTaken → Prop) : Prop :=
  Program.Ensures Step.acts plan.run post

/-! ## Failures -/

/-- The error that a step came to, if it failed; discarding never counts as failed. -/
def StepTaken.failure? : StepTaken → Option EngineError
  | ⟨.create _, .error cause⟩ => some cause
  | ⟨.copyOut _ _, .error cause⟩ => some cause
  | ⟨.copyIn _ _ _, .error cause⟩ => some cause
  | ⟨.start _, .error cause⟩ => some cause
  | ⟨.readFile _, .error cause⟩ => some (.io cause)
  | _ => none

/-- No step failed. -/
def Smooth (steps : List StepTaken) : Prop :=
  ∀ step ∈ steps, step.failure? = none

/-- The last step failed; or none did, and the payload that is to be packed has a name that no
archive can hold. -/
inductive Broken (payload : Option String) : List StepTaken → EngineError → Prop where
  | failed {before : List StepTaken} {step : StepTaken} {cause : EngineError}
      (smooth : Smooth before) (failure : step.failure? = some cause) :
      Broken payload (before ++ [step]) cause
  | unpacked {steps : List StepTaken} {name : String} {fault : Archive.NameFault}
      (smooth : Smooth steps) (named : payload = some name)
      (misnamed : Archive.placeName name = .error fault) :
      Broken payload steps (.archive fault.message)

theorem Smooth.append {steps more : List StepTaken} (first : Smooth steps)
    (second : Smooth more) : Smooth (steps ++ more) :=
  List.forall_mem_append.mpr ⟨first, second⟩

theorem Broken.after {payload : Option String} {steps more : List StepTaken} {cause : EngineError}
    (broken : Broken payload more cause) (smooth : Smooth steps) :
    Broken payload (steps ++ more) cause := by
  cases broken with
  | failed went failure =>
    rw [← List.append_assoc]
    exact .failed (smooth.append went) failure
  | unpacked went named misnamed => exact .unpacked (smooth.append went) named misnamed

/-! ## Setting up -/

/-- The steps that set up the container `id`: none of them creates or discards anything. -/
inductive SetsUp (id : String) : Step → Prop where
  | copyOut (path : String) : SetsUp id (.copyOut id path)
  | copyIn (dir : String) (archive : Bytes) : SetsUp id (.copyIn id dir archive)
  | readFile (path : String) : SetsUp id (.readFile path)
  | start : SetsUp id (.start id)

def Step.isStart : Step → Bool
  | .start _ => true
  | _ => false

/-- How setting up the container `id` goes that is to start it `starts` times. -/
structure SetUp (payload : Option String) (id : String) (starts : Nat)
    (result : Except EngineError α) (steps : List StepTaken) : Prop where
  within : ∀ step ∈ steps, SetsUp id step.question
  broken : ∀ cause, result = .error cause → Broken payload steps cause
  smooth : ∀ a, result = .ok a → Smooth steps
  started : ∀ a, result = .ok a →
    (steps.map (·.question)).filter Step.isStart = List.replicate starts (.start id)

section SetUp

variable {settings : AgentSettings} {payload : Option String} {id : String} {starts more : Nat}
  {plan : Plan α} {f : α → Plan β}

theorem SetUp.failed {steps : List StepTaken} {cause : EngineError}
    (setUp : SetUp payload id starts (.error cause : Except EngineError α) steps) :
    SetUp payload id more (.error cause : Except EngineError β) steps where
  within := setUp.within
  broken _ equal := setUp.broken _ (congrArg Except.error (Except.error.inj equal))
  smooth _ equal := nomatch equal
  started _ equal := nomatch equal

theorem SetUp.append {a : α} {result : Except EngineError β} {steps rest : List StepTaken}
    (first : SetUp payload id starts (.ok a : Except EngineError α) steps)
    (second : SetUp payload id more result rest) :
    SetUp payload id (starts + more) result (steps ++ rest) where
  within := List.forall_mem_append.mpr ⟨first.within, second.within⟩
  broken cause failed := (second.broken cause failed).after (first.smooth a rfl)
  smooth b succeeded := (first.smooth a rfl).append (second.smooth b succeeded)
  started b succeeded := by
    rw [List.map_append, List.filter_append, first.started a rfl, second.started b succeeded,
      List.replicate_append_replicate]

/-- **One part of a set-up after another.** -/
theorem setUp_andThen (first : plan.Ensures (SetUp payload id starts))
    (next : ∀ a, (f a).Ensures (SetUp payload id more)) :
    Plan.Ensures (plan >>= f) (SetUp payload id (starts + more)) := by
  refine Program.ensures_andThen.mpr (first.mono fun result steps setUp => ?_)
  cases result with
  | error cause => exact setUp.failed
  | ok a => exact (next a).mono fun _ _ rest => setUp.append rest

theorem setUp_pure (a : α) : Plan.Ensures (pure a) (SetUp payload id 0) :=
  Program.ensures_ok.mpr
    ⟨List.forall_mem_nil _, nofun, fun _ _ => List.forall_mem_nil _, fun _ _ => rfl⟩

/-- The error that something came to, if it failed. -/
def errorOf : Except EngineError α → Option EngineError
  | .ok _ => none
  | .error cause => some cause

/-- A single step that comes to what it is answered. -/
theorem setUp_single (taken : StepTaken) {result : Except EngineError α}
    (sets : SetsUp id taken.question) (same : taken.failure? = errorOf result) :
    SetUp payload id (if taken.question.isStart then 1 else 0) result [taken] where
  within := List.forall_mem_singleton.mpr sets
  broken cause failed := by
    rw [failed] at same
    exact List.nil_append [taken] ▸ .failed (List.forall_mem_nil _) same
  smooth a succeeded := by
    rw [succeeded] at same
    exact List.forall_mem_singleton.mpr same
  started _ _ := by
    obtain ⟨step, answer⟩ := taken
    cases sets <;> rfl

theorem setUp_copyOut (path : String) : (copyOut id path).Ensures (SetUp payload id 0) :=
  (Program.ensures_question rfl).mpr fun answer =>
    setUp_single ⟨.copyOut id path, answer⟩ (.copyOut path) (by cases answer <;> rfl)

theorem setUp_copyIn (dir : String) (archive : Bytes) :
    (copyIn id dir archive).Ensures (SetUp payload id 0) :=
  (Program.ensures_question rfl).mpr fun answer =>
    setUp_single ⟨.copyIn id dir archive, answer⟩ (.copyIn dir archive)
      (by cases answer <;> rfl)

theorem setUp_start : (start id).Ensures (SetUp payload id 1) :=
  (Program.ensures_question rfl).mpr fun answer =>
    setUp_single ⟨.start id, answer⟩ .start (by cases answer <;> rfl)

theorem setUp_readFile (path : String) : (readFile path).Ensures (SetUp payload id 0) := by
  refine Program.ensures_lift_andThen.mpr ((Program.ensures_question rfl).mpr fun answer => ?_)
  cases answer with
  | error cause =>
    exact Program.ensures_throw.mpr
      (setUp_single ⟨.readFile path, .error cause⟩ (.readFile path) rfl)
  | ok contents =>
    exact Program.ensures_ok.mpr (setUp_single ⟨.readFile path, .ok contents⟩ (.readFile path) rfl)

/-! ## The parts of a set-up -/

/-- Only the name of a file can keep it from being packed. -/
theorem placeName_of_singleFile {name : String} {contents : Bytes} {mode : Nat}
    {fault : Archive.NameFault} (packed : Archive.singleFile name contents mode = .error fault) :
    Archive.placeName name = .error fault := by
  rw [Archive.singleFile] at packed
  cases placed : Archive.placeName name with
  | error cause =>
    rw [placed] at packed
    exact congrArg Except.error (Except.error.inj packed)
  | ok bytes =>
    rw [placed] at packed
    nomatch packed

theorem setUp_putFile {dir name : String} {contents : Bytes} {mode : Nat}
    (named : ∀ fault, Archive.placeName name = .error fault → payload = some name) :
    (putFile id dir name contents mode).Ensures (SetUp payload id 0) := by
  rw [putFile]
  cases packed : Archive.singleFile name contents mode with
  | ok archive => exact setUp_copyIn dir archive
  | error fault =>
    have misnamed := placeName_of_singleFile packed
    refine Program.ensures_throw.mpr ⟨List.forall_mem_nil _, ?_, nofun, nofun⟩
    rintro cause ⟨⟩
    exact .unpacked (List.forall_mem_nil _) (named fault misnamed) misnamed

/-- A file with a name that an archive can hold. -/
theorem setUp_putNamed {dir name : String} {contents : Bytes} {mode : Nat}
    (named : (Archive.placeName name).isOk) :
    (putFile id dir name contents mode).Ensures (SetUp payload id 0) :=
  setUp_putFile fun fault misnamed => by rw [misnamed] at named; contradiction

theorem setUp_appendToFile {path line : String}
    (named : (Archive.placeName (Path.splitInContainer path).2).isOk) :
    (appendToFile id path line).Ensures (SetUp payload id 0) :=
  setUp_andThen (setUp_copyOut path) fun _ => setUp_putNamed named

theorem setUp_injectPayload :
    (injectPayload settings id).Ensures (SetUp settings.payloadName? id 0) := by
  rw [injectPayload]
  cases settings.payload with
  | none => exact setUp_pure ()
  | some path =>
    cases named : settings.payloadName? with
    | none => exact setUp_pure ()
    | some name =>
      exact setUp_andThen (setUp_readFile path) fun _ => setUp_putFile fun _ _ => rfl

theorem setUp_injectAccount : (injectAccount settings id).Ensures (SetUp payload id 0) :=
  setUp_andThen (setUp_appendToFile (by decide +kernel)) fun _ =>
    setUp_appendToFile (by decide +kernel)

theorem setUp_injectHelper : (injectHelper settings id).Ensures (SetUp payload id 0) := by
  rw [injectHelper]
  cases settings.helper with
  | none => exact setUp_pure ()
  | some helper =>
    exact setUp_andThen (setUp_readFile helper) fun _ => setUp_putNamed (by decide +kernel)

/-- **A work container is started once, in the end.** -/
theorem setUp_setUpWork : (setUpWork settings id).Ensures (SetUp payload id 1) :=
  setUp_andThen setUp_injectAccount fun _ =>
    setUp_andThen setUp_injectHelper fun _ => setUp_start

end SetUp

/-! ## Whole launches -/

/-- A launch of one of the three kinds. -/
inductive Launching where
  | agent (image volume : String)
  | work (image : String) (beside : Handle) (hints : Hints)
  | sidecar (image : String) (beside : Handle) (hints : Hints)

namespace Launching

def image : Launching → String
  | agent image _ | work image _ _ | sidecar image _ _ => image

/-- The container that a launch creates. -/
def creation (settings : AgentSettings) : Launching → Creation
  | agent image volume => agentCreation settings image volume
  | work image beside hints => workCreation settings image beside hints
  | sidecar image beside hints => sidecarCreation image beside hints

/-- How often a launch starts its container. -/
def starts : Launching → Nat
  | agent _ _ => 0
  | work _ _ _ | sidecar _ _ _ => 1

/-- The name of the payload that a launch packs. -/
def payload (settings : AgentSettings) : Launching → Option String
  | agent _ _ => settings.payloadName?
  | work _ _ _ | sidecar _ _ _ => none

def plan (settings : AgentSettings) : Launching → Plan Handle
  | agent image volume => Launch.agent settings image volume
  | work image beside hints => Launch.work settings image beside hints
  | sidecar image beside hints => Launch.sidecar image beside hints

end Launching

/-- How a launch comes out. -/
inductive Course (settings : AgentSettings) (launching : Launching) :
    Except EngineError Handle → List StepTaken → Prop where
  | notCreated (cause : EngineError) :
      Course settings launching (.error cause)
        [⟨.create (launching.creation settings), .error cause⟩]
  | discarded {id : String} {cause : EngineError} {steps : List StepTaken}
      (setUp : SetUp (launching.payload settings) id launching.starts
        (.error cause : Except EngineError Unit) steps)
      (answer : Except String Unit) :
      Course settings launching (.error cause)
        (⟨.create (launching.creation settings), .ok id⟩ :: (steps ++ [⟨.discard id, answer⟩]))
  | ready {id : String} {steps : List StepTaken}
      (setUp : SetUp (launching.payload settings) id launching.starts
        (.ok () : Except EngineError Unit) steps) :
      Course settings launching (.ok { image := launching.image, id })
        (⟨.create (launching.creation settings), .ok id⟩ :: steps)

section Course

variable {settings : AgentSettings} {payload : Option String} {id : String} {starts : Nat}

/-- What is left of a set-up: the container if it is ready, and else one step that discards it. -/
inductive Kept (payload : Option String) (id : String) (starts : Nat) :
    Except EngineError Unit → List StepTaken → Prop where
  | ready {steps : List StepTaken}
      (setUp : SetUp payload id starts (.ok () : Except EngineError Unit) steps) :
      Kept payload id starts (.ok ()) steps
  | discarded {cause : EngineError} {steps : List StepTaken}
      (setUp : SetUp payload id starts (.error cause : Except EngineError Unit) steps)
      (answer : Except String Unit) :
      Kept payload id starts (.error cause) (steps ++ [⟨.discard id, answer⟩])

theorem ensures_report {level : Log.Level} {text : String}
    {post : Except EngineError Unit → List StepTaken → Prop} :
    (report level text).Ensures post ↔ post (.ok ()) [] := by
  refine (Program.ensures_map (f := Except.ok)).trans ((Program.ensures_quiet rfl).trans ?_)
  exact ⟨fun h => h (), fun h _ => h⟩

/-- **What breaks a set-up discards the container**, and stays what went wrong. -/
theorem orDiscard_kept {setup : Plan Unit} (sets : setup.Ensures (SetUp payload id starts)) :
    (orDiscard id setup).Ensures (Kept payload id starts) := by
  refine Program.ensures_bind.mpr (sets.mono fun result steps setUp => ?_)
  cases result with
  | ok done => exact Program.ensures_pure.mpr (by simpa using Kept.ready setUp)
  | error cause =>
    refine Program.ensures_bind.mpr (Program.ensures_bind.mpr ?_)
    refine (Program.ensures_question rfl).mpr fun answer => ?_
    have kept := Kept.discarded setUp answer
    -- a removal that fails too is reported, which is no step that counts
    cases answer with
    | ok done => exact Program.ensures_pure.mpr (Program.ensures_pure.mpr (by simpa using kept))
    | error text =>
      refine (Program.ensures_quiet rfl).mpr fun _ => Program.ensures_pure.mpr ?_
      simpa using kept

variable (launching : Launching)

/-- A launch begins with its creation, and if that fails it ends there. -/
theorem ensures_creation {next : String → Plan Handle}
    (ends : ∀ id, (next id).Ensures fun result steps =>
      Course settings launching result
        (⟨.create (launching.creation settings), .ok id⟩ :: steps)) :
    Plan.Ensures (create (launching.creation settings) >>= next) (Course settings launching) := by
  refine Program.ensures_andThen.mpr ((Program.ensures_question rfl).mpr fun answer => ?_)
  cases answer with
  | error cause => exact .notCreated cause
  | ok id => exact ends id

/-- A created container is set up or discarded; what comes after that takes no more steps. -/
theorem ensures_kept {setup : Plan Unit} {next : Unit → Plan Handle}
    (sets : setup.Ensures (SetUp (launching.payload settings) id launching.starts))
    (ends : (next ()).Ensures fun result steps =>
      result = .ok { image := launching.image, id } ∧ steps = []) :
    Plan.Ensures (orDiscard id setup >>= next) fun result steps =>
      Course settings launching result
        (⟨.create (launching.creation settings), .ok id⟩ :: steps) := by
  refine Program.ensures_andThen.mpr ((orDiscard_kept sets).mono fun result steps kept => ?_)
  cases kept with
  | discarded setUp answer => exact .discarded setUp answer
  | ready setUp =>
    refine ends.mono ?_
    rintro _ _ ⟨rfl, rfl⟩
    exact (List.append_nil steps).symm ▸ .ready setUp

/-- **Every launch takes one of its courses.** -/
theorem course (settings : AgentSettings) (launching : Launching) :
    (launching.plan settings).Ensures (Course settings launching) := by
  cases launching with
  | agent image volume =>
    refine ensures_creation (.agent image volume) fun id =>
      Program.ensures_andThen.mpr (ensures_report.mpr ?_)
    exact ensures_kept (.agent image volume) setUp_injectPayload
      (Program.ensures_ok.mpr ⟨rfl, rfl⟩)
  | work image beside hints =>
    refine ensures_creation (.work image beside hints) fun id =>
      Program.ensures_andThen.mpr (ensures_report.mpr ?_)
    exact ensures_kept (.work image beside hints) setUp_setUpWork
      (Program.ensures_ok.mpr ⟨rfl, rfl⟩)
  | sidecar image beside hints =>
    refine ensures_creation (.sidecar image beside hints) fun id =>
      ensures_kept (.sidecar image beside hints) setUp_start ?_
    refine Program.ensures_andThen.mpr (ensures_report.mpr ?_)
    exact Program.ensures_ok.mpr ⟨rfl, rfl⟩

end Course

end BuildYard.Launch

/-! ## The set-up by the API -/

namespace BuildYard.ByApi

variable {settings : AgentSettings} {id dir name path line : String}

/-- A directory and a name are as good as the path that they are the parts of. -/
theorem appendToFile_eq (whole : dir ++ "/" ++ name = path)
    (split : Path.splitInContainer path = (dir, name)) :
    appendToFile id dir name line = Launch.appendToFile id path line := by
  rw [appendToFile, Launch.appendToFile, whole, split]

theorem setUpWork_eq : setUpWork settings id = Launch.setUpWork settings id := by
  have groups (line : String) :
      appendToFile id "/etc" "group" line = Launch.appendToFile id "/etc/group" line :=
    appendToFile_eq (by decide) (by decide +kernel)
  have users (line : String) :
      appendToFile id "/etc" "passwd" line = Launch.appendToFile id "/etc/passwd" line :=
    appendToFile_eq (by decide) (by decide +kernel)
  have helper : Path.splitInContainer helperPath = ("/", helperName) := by decide +kernel
  rw [setUpWork, Launch.setUpWork, Launch.injectAccount, Launch.injectHelper, groups, users, helper]
  -- what is left is how the steps are bracketed
  cases settings.helper <;> simp only [bind_assoc, pure_bind]

/-- **The API's own plan for a work container is the shared one.** -/
theorem launchWork_eq (settings : AgentSettings) (image : String) (beside : Handle)
    (hints : Hints) :
    launchWork settings image beside hints = Launch.work settings image beside hints := by
  rw [launchWork, Launch.work]
  simp only [setUpWork_eq]

end BuildYard.ByApi
