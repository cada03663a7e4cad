import BuildYard.Proofs.Build.Dispatch
import Mathlib.Data.List.DropRight

/-!
# Runs of a build

A run is what happens to one build: requests in any order, each with the
answers that the engine happened to give. It begins with a fresh build, which
knows only what an earlier build left, and it may be looked at after any
request. `Went` says what each request may come to, and `Run.induction` that a
property of runs has to be shown only of a fresh build and of one request more.
-/

set_option autoImplicit false

namespace BuildYard.Build

/-- What can be asked of a build. -/
inductive Request where
  | prepareAgent
  | attachAgent (input : Option Host.Input)
  | launchAgent (input : Option Host.Input)
  | runProcess (starter : Starter)
  | advancePhase
  | clean

namespace Request

/-- The operation that a request stands for, without what it yields. -/
def operation : Request → Operation Unit
  | prepareAgent => Build.prepareAgent
  | attachAgent input => (fun _ => ()) <$> Build.attachAgent input
  | launchAgent input => (fun _ => ()) <$> Build.launchAgent input
  | runProcess starter => (fun _ => ()) <$> Build.runProcess starter
  | advancePhase => Build.advancePhase
  | clean => Build.clean

def isClean : Request → Bool
  | clean => true
  | _ => false

end Request

/-- One request: the build before it, what was asked of the world and answered, how it came
out, and the build after it. -/
structure Turn where
  request : Request
  before : Build
  trace : List (Exchange Action Action.Answer)
  result : Except ProvisionError Unit
  after : Build

namespace Turn

/-- The calls to the engine that a turn made. -/
def calls (turn : Turn) : List CallMade :=
  callsMade turn.trace

/-- The turn is one that its request can take. -/
def Happens (turn : Turn) : Prop :=
  (turn.request.operation.runOn turn.before).Yields turn.trace (turn.result, turn.after)

end Turn

/-- The calls of several turns. -/
def callsOf (turns : List Turn) : List CallMade :=
  turns.flatMap Turn.calls

/-- The turns after the last one that cleared the build away. -/
def sinceClean (turns : List Turn) : List Turn :=
  turns.rtakeWhile fun turn => !turn.request.isClean

/-- A build as it begins, with what an earlier one left. -/
def fresh (declared : ContainerSet) (settings : Settings) (left : CarryOver)
    (workspace : String) : Build :=
  { declared, settings, session := .ofCarryOver left, workspace }

/-- A build that begins is a fresh one, and it asked for the engine's version. -/
theorem begin_fresh (declared : ContainerSet) (settings : Settings) (left : CarryOver)
    (workspace : String) :
    (begin declared (.ofCarryOver left) settings).Ensures fun result calls =>
      (∃ answer, calls = [⟨.serverVersion, answer⟩]) ∧
        ∀ build, result = .ok build →
          { build with workspace } = fresh declared settings left workspace := by
  refine Work.ensures_within.mpr (Work.ensures_bind.mpr (Work.ensures_call.mpr fun answer => ?_))
  cases answer with
  | error cause => exact Work.ensures_pure.mpr ⟨⟨_, rfl⟩, by simp⟩
  | ok version =>
    refine Work.ensures_bind.mpr (Work.ensures_note.mpr (Work.ensures_pure.mpr ⟨⟨_, rfl⟩, ?_⟩))
    rintro _ ⟨⟩
    rfl

/-- Turns one after another, beginning with `start` and leaving a build. -/
inductive Run (start : Build) : List Turn → Build → Prop where
  | start : Run start [] start
  | turn {turns : List Turn} {turn : Turn} (run : Run start turns turn.before)
      (happens : turn.Happens) : Run start (turns ++ [turn]) turn.after

/-- A run that goes on from where another ended. -/
theorem Run.append {start middle after : Build} {turns more : List Turn}
    (run : Run start turns middle) (further : Run middle more after) :
    Run start (turns ++ more) after := by
  induction further with
  | start => rwa [List.append_nil]
  | turn _ happens ih =>
    rw [← List.append_assoc]
    exact .turn ih happens

/-! ## What a turn comes to -/

/-- A build whose phase before the build phase has ended. -/
def advanced (build : Build) : Build :=
  { build with session := { build.session with phase := .build } }

/-- What a request may come to. -/
inductive Went (build : Build) : Request → Outcome Unit where
  | prepared {result : Except ProvisionError Unit} {calls : List CallMade} {after : Build}
      (prepared : Prepared build result calls after) :
      Went build .prepareAgent result calls after
  | attached {input : Option Host.Input} {result : Except ProvisionError Unit}
      {calls : List CallMade} (attached : Attached build input result calls) :
      Went build (.attachAgent input) result calls build
  | held {input : Option Host.Input} {result : Except ProvisionError Unit}
      {calls : List CallMade} (attached : Attached build input result calls) :
      Went build (.launchAgent input) result calls build
  | ran {starter : Starter} {result : Except ProvisionError Unit} {calls : List CallMade}
      {after : Build} (moves : Moves .process build calls after) :
      Went build (.runProcess starter) result calls after
  | advanced : Went build .advancePhase (.ok ()) [] build.advanced
  | cleared {result : Except ProvisionError Unit} {calls : List CallMade} {after : Build}
      (cleared : Cleared build result calls after) : Went build .clean result calls after

theorem Attached.map {α β : Type} {build : Build} {input : Option Host.Input}
    {result : Except ProvisionError α} {calls : List CallMade} (f : α → β)
    (attached : Attached build input result calls) :
    Attached build input (result.map f) calls := by
  cases attached with
  | notPrepared none => exact .notPrepared none
  | called recorded answer failed =>
    refine .called recorded answer fun cause equal => ?_
    rw [failed cause equal]
    rfl

theorem advancePhase_advanced (build : Build) :
    Ensures advancePhase build fun result calls after =>
      result = .ok () ∧ calls = [] ∧ after = build.advanced := by
  simp only [advancePhase, ensures_current_bind]
  by_cases phase : build.session.phase = .preCheckout
  · rw [if_pos phase, ensures_note_bind]
    exact ensures_changeSession.mpr ⟨rfl, rfl, rfl⟩
  · rw [if_neg phase]
    have ended : build.session.phase = .build := by
      cases same : build.session.phase with
      | preCheckout => exact absurd same phase
      | build => rfl
    refine ensures_pure.mpr ⟨rfl, rfl, ?_⟩
    rw [Build.advanced, ← ended]

/-- **A request comes to what it may come to.** -/
theorem Turn.Happens.went {turn : Turn} (happens : turn.Happens)
    (orderly : turn.before.Orderly) :
    Went turn.before turn.request turn.result turn.calls turn.after := by
  suffices ensured : Ensures turn.request.operation turn.before
      (Went turn.before turn.request) from ensured _ _ happens
  cases turn.request with
  | prepareAgent => exact (prepareAgent_prepared _).mono fun _ _ _ => .prepared
  | attachAgent input =>
    refine ensures_map.mpr ((attachAgent_attached _ input).mono ?_)
    rintro result calls _ ⟨rfl, attached⟩
    exact .attached (attached.map _)
  | launchAgent input =>
    refine ensures_map.mpr ((launchAgent_attached _ input).mono ?_)
    rintro result calls _ ⟨rfl, attached⟩
    exact .held (attached.map _)
  | runProcess starter =>
    exact ensures_map.mpr ((runProcess_moves orderly starter).mono fun _ _ _ => .ran)
  | advancePhase =>
    refine (advancePhase_advanced _).mono ?_
    rintro _ _ _ ⟨rfl, rfl, rfl⟩
    exact .advanced
  | clean => exact (clean_cleared _).mono fun _ _ _ => .cleared

/-! ## What a run keeps -/

theorem fresh_orderly (declared : ContainerSet) (settings : Settings) (left : CarryOver)
    (workspace : String) : (fresh declared settings left workspace).Orderly where
  named := List.nil_prefix
  once := List.nodup_nil
  latch := fun latched => absurd latched Bool.false_ne_true

theorem cleaned_orderly (build : Build) : build.cleaned.Orderly where
  named := List.nil_prefix
  once := List.nodup_nil
  latch := fun latched => absurd latched Bool.false_ne_true

/-- A turn either consists of moves, or advances the phase, or clears the build away. -/
theorem Went.cases_moves {build after : Build} {request : Request}
    {result : Except ProvisionError Unit} {calls : List CallMade}
    (went : Went build request result calls after) :
    (∃ aim, Moves aim build calls after) ∨
      request = .advancePhase ∧ calls = [] ∧ after = build.advanced ∨
      request = .clean ∧ Cleared build result calls after := by
  cases went with
  | prepared prepared => exact .inl ⟨.preparation, prepared.moves⟩
  | attached attached => exact .inl ⟨.attachment, attached.moves⟩
  | held attached => exact .inl ⟨.attachment, attached.moves⟩
  | ran moves => exact .inl ⟨.process, moves⟩
  | advanced => exact .inr (.inl ⟨rfl, rfl, rfl⟩)
  | cleared cleared => exact .inr (.inr ⟨rfl, cleared⟩)

theorem Went.prepared_of_prepare {build after : Build} {request : Request}
    {result : Except ProvisionError Unit} {calls : List CallMade}
    (went : Went build request result calls after) (prepare : request = .prepareAgent) :
    Prepared build result calls after := by
  cases went with
  | prepared prepared => exact prepared
  | _ => cases prepare

theorem Went.cleared_of_clean {build after : Build} {request : Request}
    {result : Except ProvisionError Unit} {calls : List CallMade}
    (went : Went build request result calls after) (clean : request = .clean) :
    Cleared build result calls after := by
  cases went with
  | cleared cleared => exact cleared
  | _ => cases clean

theorem Went.orderly {build after : Build} {request : Request}
    {result : Except ProvisionError Unit} {calls : List CallMade}
    (went : Went build request result calls after) (orderly : build.Orderly) :
    after.Orderly := by
  rcases went.cases_moves with ⟨_, moves⟩ | ⟨-, -, rfl⟩ | ⟨-, cleared⟩
  · exact moves.orderly orderly
  · exact ⟨orderly.named, orderly.once, orderly.latch⟩
  · rw [cleared.after_eq]
    exact cleaned_orderly build

namespace Run

variable {declared : ContainerSet} {settings : Settings} {left : CarryOver} {workspace : String}
  {turns : List Turn} {build : Build}

theorem orderly (run : Run (fresh declared settings left workspace) turns build) :
    build.Orderly := by
  induction run with
  | start => exact fresh_orderly declared settings left workspace
  | turn _ happens ih => exact (happens.went ih).orderly ih

/-- **A property of runs holds if a fresh build has it and one more request keeps it.** -/
theorem induction (holds : List Turn → Build → Prop)
    (start : holds [] (fresh declared settings left workspace))
    (step : ∀ (turns : List Turn) (turn : Turn),
      Run (fresh declared settings left workspace) turns turn.before →
      Went turn.before turn.request turn.result turn.calls turn.after →
      holds turns turn.before → holds (turns ++ [turn]) turn.after)
    (run : Run (fresh declared settings left workspace) turns build) : holds turns build := by
  induction run with
  | start => exact start
  | turn run happens ih => exact step _ _ run (happens.went run.orderly) ih

/-- What is declared and the settings stay. -/
theorem frame_eq (run : Run (fresh declared settings left workspace) turns build) :
    build.declared = declared ∧ build.settings = settings := by
  refine run.induction (fun _ build => build.declared = declared ∧ build.settings = settings)
    ⟨rfl, rfl⟩ fun turns turn _ went same => ?_
  rcases went.cases_moves with ⟨_, moves⟩ | ⟨-, -, after⟩ | ⟨-, cleared⟩
  · have frame := moves.sameFrame
    exact ⟨frame.declared.trans same.1, frame.settings.trans same.2⟩
  · rw [after]
    exact same
  · rw [cleared.after_eq]
    exact same

theorem declared_eq (run : Run (fresh declared settings left workspace) turns build) :
    build.declared = declared :=
  run.frame_eq.1

theorem settings_eq (run : Run (fresh declared settings left workspace) turns build) :
    build.settings = settings :=
  run.frame_eq.2

/-- Every turn of a run ends a run of its own, and begins where one ended. -/
theorem split {start : Build} {earlier later : List Turn} {turn : Turn}
    (run : Run start (earlier ++ turn :: later) build) :
    Run start earlier turn.before ∧ turn.Happens := by
  generalize equal : earlier ++ turn :: later = turns at run
  induction run generalizing later with
  | start => simp at equal
  | @turn turns last run happens ih =>
    cases later using List.reverseRecOn with
    | nil =>
      obtain ⟨rfl, same⟩ := List.append_inj' equal rfl
      obtain rfl := List.singleton_injective same
      exact ⟨run, happens⟩
    | append_singleton later other _ =>
      rw [← List.cons_append, ← List.append_assoc] at equal
      exact ih (List.append_inj' equal rfl).1

end Run

/-! ## Turns since the last clearing -/

section SinceClean

variable {turns : List Turn} {turn : Turn}

theorem callsOf_append (earlier later : List Turn) :
    callsOf (earlier ++ later) = callsOf earlier ++ callsOf later :=
  List.flatMap_append

theorem callsOf_concat : callsOf (turns ++ [turn]) = callsOf turns ++ turn.calls := by
  simp only [callsOf, List.flatMap_append, List.flatMap_singleton]

theorem sinceClean_concat (other : turn.request ≠ .clean) :
    sinceClean (turns ++ [turn]) = sinceClean turns ++ [turn] := by
  refine List.rtakeWhile_concat_pos _ _ _ ?_
  cases request : turn.request with
  | clean => exact absurd request other
  | _ => rfl

theorem sinceClean_clean (clean : turn.request = .clean) :
    sinceClean (turns ++ [turn]) = [] :=
  List.rtakeWhile_concat_neg _ _ _ (by rw [clean]; exact Bool.false_ne_true)

end SinceClean

end BuildYard.Build
