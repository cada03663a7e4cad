import BuildYard.Proofs.Engine.Translations

/-!
# How launches unfold

What a launch does next depends only on what came of its errands, neither on how
that was reported nor on how the engine names the container. An `Outline` leaves
the name out, and what files hold too if that is not to count: either way a
launch goes on alike after answers that look the same (`tryAlike_plan`).

`Unfolds` lists how a launch comes out as its errands show it, and every launch
unfolds so (`unfolds`): nothing more is done if nothing could be created; the
first errand after it that fails, or a payload that no archive can hold, is
followed by the removal of what was created; and otherwise all went well. A work
container has its lists of groups and of users taken out, in this order.
-/

set_option autoImplicit false

namespace BuildYard

open Program (Alike Both TryAlike tryAlike_pure tryAlike_throw)

/-! ## Outlines -/

/-- An errand without the container that it is done for. -/
inductive Outline where
  | create (blueprint : Blueprint)
  | copyOut (path : String)
  /-- the archive, if it counts -/
  | copyIn (dir : String) (archive : Option Bytes)
  | start
  | remove
  | read (path : String)
  deriving DecidableEq, Repr

/-- An outline of an errand and whether anything came of it, perhaps with its contents. -/
abbrev Outlined := Exchange Outline fun _ => Option (Option Bytes)

/-- Contents, if they count. -/
def countedIf (exact : Bool) (contents : Bytes) : Option Bytes :=
  if exact then some contents else none

theorem countedIf_eq_iff {exact : Bool} {contents contents' : Bytes} :
    countedIf exact contents = countedIf exact contents' ↔
      (exact = true → contents = contents') := by
  cases exact <;> simp [countedIf]

def Errand.outline (exact : Bool) : Errand → Outline
  | create blueprint => .create blueprint
  | copyOut _ path => .copyOut path
  | copyIn _ dir archive => .copyIn dir (countedIf exact archive)
  | start _ => .start
  | remove _ => .remove
  | read path => .read path

/-- What is seen of what came of an errand: its contents if they count. -/
def Errand.contents? (exact : Bool) : (errand : Errand) → errand.Value → Option Bytes
  | copyOut _ _, contents | read _, contents => countedIf exact contents
  | _, _ => none

/-- What is seen of an errand when its container is not named; what files hold counts if the
outline is to be `exact`. -/
def outlineOf (exact : Bool) (shown : Shown) : Outlined :=
  ⟨shown.question.outline exact, shown.answer.map (shown.question.contents? exact)⟩

namespace Launch

variable {α β : Type} {settings : AgentSettings}

/-- Of the steps of a launch outlines are seen. -/
def outlines (exact : Bool) :
    Program.Sight Step Step.Answer Outline fun _ => Option (Option Bytes) :=
  fun step => (sight step).map (outlineOf exact)

theorem view_outlines (exact : Bool) (steps : List StepTaken) :
    (outlines exact).view steps = (sight.view steps).map (outlineOf exact) :=
  List.map_filterMap.symm

/-! ## Launches go on alike -/

section Alike

variable {exact : Bool} {id id' dir path name line : String} {contents contents' : Bytes}
  {mode : Nat}

/-- What looks the same came to the same, as far as it counts. -/
theorem both_of_looks {ε ε' : Type} {outline outline' : Outline} {count : α → Option Bytes}
    {count' : β → Option Bytes} {answer : Except ε α} {answer' : Except ε' β}
    (looks : some (⟨outline, answer.toOption.map count⟩ : Outlined) =
      some ⟨outline', answer'.toOption.map count'⟩) :
    Both (fun a b => count a = count' b) answer answer' := by
  have same : answer.toOption.map count = answer'.toOption.map count' :=
    eq_of_heq (Exchange.mk.inj (Option.some.inj looks)).2
  cases answer with
  | error cause =>
    cases answer' with
    | error cause' => exact .error cause cause'
    | ok b => cases same
  | ok a =>
    cases answer' with
    | error cause' => cases same
    | ok b => exact .ok (Option.some.inj same)

theorem tryAlike_create (creation : Creation) :
    TryAlike (outlines exact) (fun _ _ => True) (create creation) (create creation) := by
  refine Alike.ask (fun _ _ => rfl) fun answer answer' looks => .done ?_
  exact (both_of_looks looks).mono fun _ _ _ => trivial

theorem tryAlike_copyOut :
    TryAlike (outlines exact) (fun contents contents' => exact = true → contents = contents')
      (copyOut id path) (copyOut id' path) := by
  refine Alike.ask (fun _ _ => rfl) fun answer answer' looks => .done ?_
  exact (both_of_looks looks).mono fun _ _ same => countedIf_eq_iff.mp same

theorem tryAlike_copyIn {archive archive' : Bytes} (same : exact = true → archive = archive') :
    TryAlike (outlines exact) (fun _ _ => True) (copyIn id dir archive)
      (copyIn id' dir archive') := by
  have counted : countedIf exact archive = countedIf exact archive' := countedIf_eq_iff.mpr same
  refine Alike.ask (fun _ _ => ?_) fun answer answer' looks => .done ?_
  · exact congrArg (fun archive => some (Outline.copyIn dir archive)) counted
  · exact (both_of_looks looks).mono fun _ _ _ => trivial

theorem tryAlike_start : TryAlike (outlines exact) (fun _ _ => True) (start id) (start id') := by
  refine Alike.ask (fun _ _ => rfl) fun answer answer' looks => .done ?_
  exact (both_of_looks looks).mono fun _ _ _ => trivial

theorem tryAlike_readFile :
    TryAlike (outlines exact) (fun contents contents' => exact = true → contents = contents')
      (readFile path) (readFile path) := by
  have taken : Alike (outlines exact)
      (Both fun contents contents' => exact = true → contents = contents')
      (take (.readFile path)) (take (.readFile path)) := by
    refine Alike.ask (fun _ _ => rfl) fun answer answer' looks => .done ?_
    exact (both_of_looks looks).mono fun _ _ same => countedIf_eq_iff.mp same
  refine taken.lift_andThen fun answer answer' both => ?_
  cases both with
  | ok same => exact tryAlike_pure same
  | error cause cause' => exact tryAlike_throw _ _

/-- Of what is reported nothing is seen. -/
theorem alike_report (level : Log.Level) (text text' : String) :
    Alike (outlines exact) (fun _ _ => True) (take (.report level text))
      (take (.report level text')) :=
  .ask (fun _ _ => rfl) fun _ _ _ => .done trivial

theorem tryAlike_report (level : Log.Level) (text text' : String) :
    TryAlike (outlines exact) (fun _ _ => True) (report level text) (report level text') :=
  .ask (fun _ _ => rfl) fun _ _ _ => .done (.ok trivial)

/-- Whether a file can be packed does not depend on what it holds. -/
theorem both_singleFile (same : exact = true → contents = contents') :
    Both (fun archive archive' => exact = true → archive = archive')
      (Archive.singleFile name contents mode) (Archive.singleFile name contents' mode) := by
  rw [Archive.singleFile, Archive.singleFile]
  cases Archive.placeName name with
  | error fault => exact .error fault fault
  | ok place =>
    refine .ok fun counts => ?_
    rw [same counts]

theorem tryAlike_putFile (same : exact = true → contents = contents') :
    TryAlike (outlines exact) (fun _ _ => True) (putFile id dir name contents mode)
      (putFile id' dir name contents' mode) := by
  rw [putFile, putFile]
  have packed : Both (fun archive archive' => exact = true → archive = archive')
      (Archive.singleFile name contents mode) (Archive.singleFile name contents' mode) :=
    both_singleFile same
  generalize Archive.singleFile name contents mode = archive at packed ⊢
  generalize Archive.singleFile name contents' mode = archive' at packed ⊢
  cases packed with
  | ok same => exact tryAlike_copyIn same
  | error fault fault' => exact tryAlike_throw _ _

theorem tryAlike_appendToFile :
    TryAlike (outlines exact) (fun _ _ => True) (appendToFile id path line)
      (appendToFile id' path line) := by
  refine tryAlike_copyOut.andThen fun contents contents' same => ?_
  exact tryAlike_putFile fun counts => congrArg (appendLine · line) (same counts)

theorem tryAlike_injectPayload :
    TryAlike (outlines exact) (fun _ _ => True) (injectPayload settings id)
      (injectPayload settings id') := by
  rw [injectPayload, injectPayload]
  cases settings.payload with
  | none => exact tryAlike_pure trivial
  | some path =>
    cases settings.payloadName? with
    | none => exact tryAlike_pure trivial
    | some name => exact tryAlike_readFile.andThen fun _ _ same => tryAlike_putFile same

theorem tryAlike_injectHelper :
    TryAlike (outlines exact) (fun _ _ => True) (injectHelper settings id)
      (injectHelper settings id') := by
  rw [injectHelper, injectHelper]
  cases settings.helper with
  | none => exact tryAlike_pure trivial
  | some helper => exact tryAlike_readFile.andThen fun _ _ same => tryAlike_putFile same

theorem tryAlike_setUpWork :
    TryAlike (outlines exact) (fun _ _ => True) (setUpWork settings id)
      (setUpWork settings id') := by
  have account : TryAlike (outlines exact) (fun _ _ => True) (injectAccount settings id)
      (injectAccount settings id') :=
    tryAlike_appendToFile.andThen fun _ _ _ => tryAlike_appendToFile
  refine account.andThen fun _ _ _ => ?_
  exact tryAlike_injectHelper.andThen fun _ _ _ => tryAlike_start

/-- Whatever becomes of the removal, nothing that is seen depends on it. -/
theorem alike_discard :
    Alike (outlines exact) (fun _ _ => True) (discard id) (discard id') := by
  have taken : Alike (outlines exact) (Both fun _ _ => True)
      (take (.discard id)) (take (.discard id')) := by
    refine Alike.ask (fun _ _ => rfl) fun answer answer' looks => .done ?_
    exact (both_of_looks looks).mono fun _ _ _ => trivial
  refine taken.bind fun answer answer' both => ?_
  cases both with
  | ok same => exact .done trivial
  | error text text' => exact alike_report ..

/-- **If set-ups go on alike, so do the removals of what did not become ready.** -/
theorem tryAlike_orDiscard {setup setup' : Plan Unit}
    (sets : TryAlike (outlines exact) (fun _ _ => True) setup setup') :
    TryAlike (outlines exact) (fun _ _ => True) (orDiscard id setup) (orDiscard id' setup') := by
  refine Alike.bind sets fun result result' both => ?_
  cases both with
  | ok same => exact .done (.ok trivial)
  | error cause cause' => exact alike_discard.bind fun _ _ _ => .done (.error cause cause')

/-- **A launch goes on alike after answers that look the same**, whatever the engine names the
container. -/
theorem tryAlike_plan (exact : Bool) (settings : AgentSettings) (launching : Launching) :
    TryAlike (outlines exact) (fun handle handle' => handle.image = handle'.image)
      (launching.plan settings) (launching.plan settings) := by
  cases launching with
  | agent image volume =>
    refine (tryAlike_create _).andThen fun id id' _ => ?_
    refine (tryAlike_report ..).andThen fun _ _ _ => ?_
    refine (tryAlike_orDiscard tryAlike_injectPayload).andThen fun _ _ _ => ?_
    exact tryAlike_pure rfl
  | work image beside hints =>
    refine (tryAlike_create _).andThen fun id id' _ => ?_
    refine (tryAlike_report ..).andThen fun _ _ _ => ?_
    refine (tryAlike_orDiscard tryAlike_setUpWork).andThen fun _ _ _ => ?_
    exact tryAlike_pure rfl
  | sidecar image beside hints =>
    refine (tryAlike_create _).andThen fun id id' _ => ?_
    refine (tryAlike_orDiscard tryAlike_start).andThen fun _ _ _ => ?_
    refine (tryAlike_report ..).andThen fun _ _ _ => ?_
    exact tryAlike_pure rfl

end Alike

/-! ## What is taken out of a container -/

/-- The file whose contents an errand takes out of a container. -/
def copiedOut? (shown : Shown) : Option String :=
  match shown.question with
  | .copyOut _ path => some path
  | _ => none

/-- The files that steps take out of a container, in order. -/
def takenOut (steps : List StepTaken) : List String :=
  (sight.view steps).filterMap copiedOut?

theorem takenOut_append (first second : List StepTaken) :
    takenOut (first ++ second) = takenOut first ++ takenOut second := by
  rw [takenOut, sight.view_append, List.filterMap_append]
  rfl

/-- The files that a launch takes out of its container: a work container has the lists of groups
and of users, to which the build account is added. -/
def Launching.lists : Launching → List String
  | .work _ _ _ => ["/etc/group", "/etc/passwd"]
  | .agent _ _ | .sidecar _ _ _ => []

/-- Of the files that a plan is to take out of a container it takes the first ones, and all of
them if it succeeds. -/
def TakesOut (paths : List String) (result : Except EngineError α) (steps : List StepTaken) :
    Prop :=
  takenOut steps <+: paths ∧
    ∀ a, result = .ok a → takenOut steps = paths

section TakesOut

variable {paths more : List String} {plan : Plan α} {f : α → Plan β}

theorem takesOut_andThen (first : plan.Ensures (TakesOut paths))
    (next : ∀ a, (f a).Ensures (TakesOut more)) :
    Plan.Ensures (plan >>= f) (TakesOut (paths ++ more)) := by
  refine Program.ensures_andThen.mpr (first.mono fun result steps taken => ?_)
  cases result with
  | error cause => exact ⟨taken.1.trans (List.prefix_append ..), nofun⟩
  | ok a =>
    refine (next a).mono fun result rest after => ?_
    rw [TakesOut, takenOut_append, taken.2 a rfl]
    exact ⟨(List.prefix_append_right_inj paths).mpr after.1,
      fun b succeeded => congrArg (paths ++ ·) (after.2 b succeeded)⟩

theorem takesOut_pure (a : α) : Plan.Ensures (pure a) (TakesOut []) :=
  Program.ensures_ok.mpr ⟨List.prefix_rfl, fun _ _ => rfl⟩

theorem takesOut_throw (cause : EngineError) :
    Plan.Ensures (throw cause : Plan α) (TakesOut paths) :=
  Program.ensures_throw.mpr ⟨List.nil_prefix, nofun⟩

theorem takesOut_copyOut {id path : String} : (copyOut id path).Ensures (TakesOut [path]) :=
  (Program.ensures_question rfl).mpr fun _ => ⟨List.prefix_rfl, fun _ _ => rfl⟩

theorem takesOut_create {creation : Creation} : (create creation).Ensures (TakesOut []) :=
  (Program.ensures_question rfl).mpr fun _ => ⟨List.prefix_rfl, fun _ _ => rfl⟩

theorem takesOut_start {id : String} : (start id).Ensures (TakesOut []) :=
  (Program.ensures_question rfl).mpr fun _ => ⟨List.prefix_rfl, fun _ _ => rfl⟩

theorem takesOut_report {level : Log.Level} {text : String} :
    (report level text).Ensures (TakesOut []) :=
  ensures_report.mpr ⟨List.prefix_rfl, fun _ _ => rfl⟩

theorem takesOut_readFile {path : String} : (readFile path).Ensures (TakesOut []) := by
  refine Program.ensures_lift_andThen.mpr ((Program.ensures_question rfl).mpr fun answer => ?_)
  cases answer with
  | error cause => exact Program.ensures_throw.mpr ⟨List.prefix_rfl, fun _ _ => rfl⟩
  | ok contents => exact Program.ensures_ok.mpr ⟨List.prefix_rfl, fun _ _ => rfl⟩

theorem takesOut_putFile {id dir name : String} {contents : Bytes} {mode : Nat} :
    (putFile id dir name contents mode).Ensures (TakesOut []) := by
  rw [putFile]
  cases Archive.singleFile name contents mode with
  | ok archive =>
    exact (Program.ensures_question rfl).mpr fun _ => ⟨List.prefix_rfl, fun _ _ => rfl⟩
  | error fault => exact takesOut_throw _

theorem takesOut_appendToFile {id path line : String} :
    (appendToFile id path line).Ensures (TakesOut [path]) :=
  takesOut_andThen takesOut_copyOut fun _ => takesOut_putFile

theorem takesOut_injectPayload {id : String} :
    (injectPayload settings id).Ensures (TakesOut []) := by
  rw [injectPayload]
  cases settings.payload with
  | none => exact takesOut_pure ()
  | some path =>
    cases settings.payloadName? with
    | none => exact takesOut_pure ()
    | some name => exact takesOut_andThen takesOut_readFile fun _ => takesOut_putFile

theorem takesOut_injectHelper {id : String} :
    (injectHelper settings id).Ensures (TakesOut []) := by
  rw [injectHelper]
  cases settings.helper with
  | none => exact takesOut_pure ()
  | some helper => exact takesOut_andThen takesOut_readFile fun _ => takesOut_putFile

theorem takesOut_setUpWork {id : String} :
    (setUpWork settings id).Ensures (TakesOut ["/etc/group", "/etc/passwd"]) :=
  takesOut_andThen (takesOut_andThen takesOut_appendToFile fun _ => takesOut_appendToFile)
    fun _ => takesOut_andThen takesOut_injectHelper fun _ => takesOut_start

theorem takesOut_orDiscard {id : String} {setup : Plan Unit}
    (sets : setup.Ensures (TakesOut paths)) : (orDiscard id setup).Ensures (TakesOut paths) := by
  refine Program.ensures_bind.mpr (sets.mono fun result steps taken => ?_)
  cases result with
  | ok done =>
    refine Program.ensures_pure.mpr ?_
    rw [List.append_nil]
    exact taken
  | error cause =>
    refine Program.ensures_bind.mpr (Program.ensures_bind.mpr ?_)
    refine (Program.ensures_question rfl).mpr fun answer => ?_
    have still : TakesOut paths (.error cause : Except EngineError Unit)
        (steps ++ [⟨.discard id, answer⟩]) := by
      rw [TakesOut, takenOut_append, show takenOut [⟨.discard id, answer⟩] = [] from rfl,
        List.append_nil]
      exact ⟨taken.1, nofun⟩
    cases answer with
    | ok done => exact Program.ensures_pure.mpr (Program.ensures_pure.mpr (by simpa using still))
    | error text =>
      refine (Program.ensures_quiet rfl).mpr fun _ => Program.ensures_pure.mpr ?_
      simpa using still

/-- **A launch takes out of its container the lists that it is to take.** -/
theorem takesOut_plan (settings : AgentSettings) (launching : Launching) :
    (launching.plan settings).Ensures (TakesOut launching.lists) := by
  cases launching with
  | agent image volume =>
    exact takesOut_andThen takesOut_create fun id => takesOut_andThen takesOut_report fun _ =>
      takesOut_andThen (takesOut_orDiscard takesOut_injectPayload) fun _ => takesOut_pure _
  | work image beside hints =>
    exact takesOut_andThen takesOut_create fun id => takesOut_andThen takesOut_report fun _ =>
      takesOut_andThen (takesOut_orDiscard takesOut_setUpWork) fun _ => takesOut_pure _
  | sidecar image beside hints =>
    exact takesOut_andThen takesOut_create fun id =>
      takesOut_andThen (takesOut_orDiscard takesOut_start) fun _ =>
        takesOut_andThen takesOut_report fun _ => takesOut_pure _

end TakesOut

/-! ## How launches come out -/

/-- What sets up the container `id`: none of it creates or removes anything. -/
inductive OfSetUp (id : String) : Errand → Prop where
  | copyOut (path : String) : OfSetUp id (.copyOut id path)
  | copyIn (dir : String) (archive : Bytes) : OfSetUp id (.copyIn id dir archive)
  | start : OfSetUp id (.start id)
  | read (path : String) : OfSetUp id (.read path)

/-- How a launch comes out as its errands show it. -/
inductive Unfolds (settings : AgentSettings) (launching : Launching) :
    Except EngineError Handle → List Shown → Prop where
  /-- Nothing was created, and nothing more was done. -/
  | notCreated (cause : EngineError) :
      Unfolds settings launching (.error cause)
        [⟨.create (.ofCreation (launching.creation settings)), none⟩]
  /-- The set-up went well up to its last errand, and then what was created was removed. -/
  | removed {id : String} {cause : EngineError} {setUp : List Shown} (answer : Option Unit)
      (within : ∀ shown ∈ setUp, OfSetUp id shown.question)
      (smooth : ∀ shown ∈ setUp.dropLast, shown.answer.isSome = true)
      (lists : setUp.filterMap copiedOut? <+: launching.lists) :
      Unfolds settings launching (.error cause)
        (⟨.create (.ofCreation (launching.creation settings)), some id⟩ ::
          (setUp ++ [⟨.remove id, answer⟩]))
  /-- All went well, and nothing was removed. -/
  | ready {id : String} {setUp : List Shown}
      (within : ∀ shown ∈ setUp, OfSetUp id shown.question)
      (smooth : ∀ shown ∈ setUp, shown.answer.isSome = true)
      (lists : setUp.filterMap copiedOut? = launching.lists) :
      Unfolds settings launching (.ok { image := launching.image, id })
        (⟨.create (.ofCreation (launching.creation settings)), some id⟩ :: setUp)

/-- A step of a set-up is an errand, and nothing came of it if it failed. -/
theorem SetsUp.seen {id : String} {step : StepTaken} (sets : SetsUp id step.question) :
    ∃ shown, sight step = some shown ∧ OfSetUp id shown.question ∧
      (step.failure? = none → shown.answer.isSome = true) := by
  obtain ⟨s, answer⟩ := step
  cases sets with
  | copyOut path =>
    refine ⟨_, rfl, .copyOut path, ?_⟩
    cases answer with
    | ok contents => exact fun _ => rfl
    | error cause => exact nofun
  | copyIn dir archive =>
    refine ⟨_, rfl, .copyIn dir archive, ?_⟩
    cases answer with
    | ok done => exact fun _ => rfl
    | error cause => exact nofun
  | readFile path =>
    refine ⟨_, rfl, .read path, ?_⟩
    cases answer with
    | ok contents => exact fun _ => rfl
    | error cause => exact nofun
  | start =>
    refine ⟨_, rfl, .start, ?_⟩
    cases answer with
    | ok done => exact fun _ => rfl
    | error cause => exact nofun

section Unfolds

variable {id : String} {steps : List StepTaken}

theorem ofSetUp_of_setsUp (within : ∀ step ∈ steps, SetsUp id step.question) :
    ∀ shown ∈ sight.view steps, OfSetUp id shown.question := by
  intro shown member
  obtain ⟨step, taken, seen⟩ := List.mem_filterMap.mp member
  obtain ⟨shown', seen', sets, -⟩ := (within step taken).seen
  exact Option.some.inj (seen'.symm.trans seen) ▸ sets

theorem isSome_of_smooth (within : ∀ step ∈ steps, SetsUp id step.question)
    (smooth : Smooth steps) : ∀ shown ∈ sight.view steps, shown.answer.isSome = true := by
  intro shown member
  obtain ⟨step, taken, seen⟩ := List.mem_filterMap.mp member
  obtain ⟨shown', seen', -, went⟩ := (within step taken).seen
  exact Option.some.inj (seen'.symm.trans seen) ▸ went (smooth step taken)

/-- What breaks a set-up is its last errand, if it is any. -/
theorem isSome_of_broken {payload : Option String} {cause : EngineError}
    (within : ∀ step ∈ steps, SetsUp id step.question) (broken : Broken payload steps cause) :
    ∀ shown ∈ (sight.view steps).dropLast, shown.answer.isSome = true := by
  intro shown member
  cases broken with
  | @failed before step _ smooth failure =>
    obtain ⟨here, last⟩ := List.forall_mem_append.mp within
    obtain ⟨shown', seen, -⟩ := (List.forall_mem_singleton.mp last).seen
    rw [sight.view_append, sight.view_cons, seen] at member
    have member : shown ∈ sight.view before := by simpa [Program.Sight.view] using member
    exact isSome_of_smooth here smooth shown member
  | unpacked smooth =>
    exact isSome_of_smooth within smooth shown ((List.dropLast_sublist _).subset member)

/-- Reports are not seen. -/
theorem view_counted (steps : List StepTaken) :
    sight.view (Program.counted Step.acts steps) = sight.view steps := by
  induction steps with
  | nil => rfl
  | cons step steps ih =>
    rw [sight.view_cons, ← ih]
    obtain ⟨s, answer⟩ := step
    cases s with
    | report level text => rw [Program.counted_cons_of_neg rfl]; rfl
    | _ => rw [Program.counted_cons_of_pos rfl, sight.view_cons]

/-- **How every launch unfolds.** -/
theorem unfolds (settings : AgentSettings) (launching : Launching)
    {result : Except EngineError Handle} {steps : List StepTaken}
    (yields : (launching.plan settings).run.Yields steps result) :
    Unfolds settings launching result (sight.view steps) := by
  have course := course settings launching steps result yields
  have lists := takesOut_plan settings launching steps result yields
  rw [← view_counted]
  generalize Program.counted Step.acts steps = steps at course lists
  cases course with
  | notCreated cause => exact .notCreated cause
  | @discarded id cause setUp sets answer =>
    rw [sight.view_cons, sight.view_append]
    refine .removed answer.toOption (ofSetUp_of_setsUp sets.within)
      (isSome_of_broken sets.within (sets.broken cause rfl)) ?_
    -- neither creating nor discarding takes anything out
    have same : takenOut ([⟨.create (launching.creation settings), .ok id⟩] ++
        (setUp ++ [⟨.discard id, answer⟩])) = takenOut setUp := by
      rw [takenOut_append, takenOut_append]
      exact List.append_nil _
    rw [← takenOut, ← same]
    exact lists.1
  | @ready id setUp sets =>
    rw [sight.view_cons]
    refine .ready (ofSetUp_of_setsUp sets.within)
      (isSome_of_smooth sets.within (sets.smooth () rfl)) ?_
    exact lists.2 _ rfl

end Unfolds

end Launch

end BuildYard
