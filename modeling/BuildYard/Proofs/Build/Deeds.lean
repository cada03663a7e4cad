import BuildYard.Proofs.Build.Asks
import BuildYard.Proofs.Build.Runs
import BuildYard.Proofs.Program.Observation

/-!
# What is done for a build

A deed is anything that is asked but a report. `Does` speaks of the deeds of
work on a build, of its result and of the build that it leaves, whatever the
answers and however the work tells of its failure. There is one rule for each
way to put such work together. A process is started by the last deed of its
operation (`runProcess_does`), and whatever is done for a request is done in a
turn (`does_turn`).
-/

set_option autoImplicit false

namespace BuildYard

/-- Anything but a report. -/
def Action.isDeed : Action → Bool
  | .log _ => false
  | _ => true

/-- Something that was asked, with its answer. -/
abbrev Deed := Exchange Action Action.Answer

/-- What was done by a trace. -/
abbrev deedsOf (trace : List Deed) : List Deed :=
  Program.counted Action.isDeed trace

/-! ## Work -/

namespace Work

variable {α : Type}

/-- Whatever the answers, `post` holds of the value that work ends with and of its deeds. -/
abbrev Does (work : Work α) (post : α → List Deed → Prop) : Prop :=
  Program.Ensures Action.isDeed work post

theorem does_note {level : Log.Level} {part : Log.Part} {text : String}
    {post : Unit → List Deed → Prop} : (note level part text).Does post ↔ post () [] :=
  (Program.ensures_quiet rfl).trans ⟨fun h => h (), fun h _ => h⟩

theorem does_within {span : Log.Span} {work : Work α} {post : α → List Deed → Prop} :
    (within span work).Does post ↔ work.Does post := by
  refine Program.ensures_bind.trans ((Program.ensures_quiet rfl).trans ?_)
  constructor
  · intro h
    refine (Program.ensures_bind.mp (h ())).mono fun value made h => ?_
    have closed := (Program.ensures_quiet rfl).mp (Program.ensures_bind.mp h) ()
    simpa only [List.nil_append, List.append_nil] using Program.ensures_pure.mp closed
  · intro h _
    refine Program.ensures_bind.mpr (h.mono fun value made h => ?_)
    refine Program.ensures_bind.mpr ((Program.ensures_quiet rfl).mpr fun _ => ?_)
    simpa only [Program.ensures_pure, List.nil_append, List.append_nil] using h

end Work

/-- The calls of a trace are among its deeds. -/
theorem callsMade_deedsOf (trace : List Deed) : callsMade (deedsOf trace) = callsMade trace := by
  rw [callsMade, callsMade, deedsOf, Program.counted, List.filterMap_filter]
  refine List.filterMap_congr fun deed _ => ?_
  obtain ⟨action, answer⟩ := deed
  cases action <;> rfl

/-- What asks only what is allowed does only that. -/
theorem Program.Asks.does {α : Type} {work : Work α} {allowed : Action → Prop}
    (asks : work.Asks allowed) : work.Does fun _ made => ∀ deed ∈ made, allowed deed.question :=
  fun _ _ yields deed member => asks.forall_mem yields deed (List.mem_of_mem_filter member)

namespace Build

/-! ## Work on a build -/

/-- Work on a build that may fail with an `ε`. -/
abbrev Endeavour (ε α : Type) := ExceptT ε (StateT Build (Program Action Action.Answer)) α

section Rules

variable {ε α β : Type} {build : Build}

/-- Whatever the answers, `post` holds of the result of work on `build`, of its deeds, and
of the build that it leaves. -/
abbrev Does (work : Endeavour ε α) (build : Build)
    (post : Except ε α → List Deed → Build → Prop) : Prop :=
  Work.Does (work.run.run build) fun last made => post last.1 made last.2

theorem Does.mono {work : Endeavour ε α} {post post' : Except ε α → List Deed → Build → Prop}
    (does : Does work build post)
    (weaker : ∀ result made after, post result made after → post' result made after) :
    Does work build post' :=
  Program.Ensures.mono does fun _ made => weaker _ made _

theorem Does.and {work : Endeavour ε α} {post post' : Except ε α → List Deed → Build → Prop}
    (does : Does work build post) (does' : Does work build post') :
    Does work build fun result made after => post result made after ∧ post' result made after :=
  Program.Ensures.and does does'

theorem does_pure {a : α} {post : Except ε α → List Deed → Build → Prop} :
    Does (pure a) build post ↔ post (.ok a) [] build :=
  Program.ensures_pure

theorem does_throw {cause : ε} {post : Except ε α → List Deed → Build → Prop} :
    Does (throw cause) build post ↔ post (.error cause) [] build :=
  Program.ensures_pure

theorem does_bind {work : Endeavour ε α} {f : α → Endeavour ε β}
    {post : Except ε β → List Deed → Build → Prop} :
    Does (work >>= f) build post ↔ Does work build fun result made after =>
      match result with
      | .ok a => Does (f a) after fun result more => post result (made ++ more)
      | .error cause => post (.error cause) made after := by
  rw [Does, ExceptT.run_bind, StateT.run_bind]
  refine Program.ensures_bind.trans (Program.ensures_congr fun last made => ?_)
  obtain ⟨result, after⟩ := last
  cases result with
  | ok a => exact Iff.rfl
  | error cause =>
    refine Program.ensures_pure.trans ?_
    rw [List.append_nil]

/-- What work in front does is all that what follows has to know. -/
theorem Does.bind {work : Endeavour ε α} {f : α → Endeavour ε β}
    {between : Except ε α → List Deed → Build → Prop}
    {post : Except ε β → List Deed → Build → Prop} (first : Does work build between)
    (next : ∀ a made after, between (.ok a) made after →
      Does (f a) after fun result more => post result (made ++ more))
    (failed : ∀ cause made after, between (.error cause) made after →
      post (.error cause) made after) : Does (work >>= f) build post := by
  refine does_bind.mpr (first.mono fun result made after h => ?_)
  cases result with
  | ok a => exact next a made after h
  | error cause => exact failed cause made after h

theorem does_map {work : Endeavour ε α} {f : α → β}
    {post : Except ε β → List Deed → Build → Prop} :
    Does (f <$> work) build post ↔
      Does work build fun result made after => post (result.map f) made after := by
  rw [map_eq_pure_bind, does_bind]
  refine Program.ensures_congr fun last made => ?_
  obtain ⟨cause | a, after⟩ := last
  · exact Iff.rfl
  · refine does_pure.trans ?_
    rw [List.append_nil]
    exact Iff.rfl

theorem does_get_bind {f : Build → Endeavour ε β}
    {post : Except ε β → List Deed → Build → Prop} :
    Does (get >>= f) build post ↔ Does (f build) build post :=
  does_bind.trans Program.ensures_pure

/-- What cannot fail as work that may fail. -/
theorem does_lift {work : StateT Build (Program Action Action.Answer) α}
    {post : Except ε α → List Deed → Build → Prop} :
    Does (ExceptT.lift work) build post ↔
      Work.Does (work.run build) fun last made => post (.ok last.1) made last.2 := by
  rw [Does, ExceptT.run_lift, map_eq_pure_bind, StateT.run_bind]
  refine Program.ensures_bind.trans (Program.ensures_congr fun last made => ?_)
  refine Program.ensures_pure.trans ?_
  rw [List.append_nil]

/-- Work that may fail and leaves the build alone. -/
theorem does_stateLift {work : Work (Except ε α)}
    {post : Except ε α → List Deed → Build → Prop} :
    Does (ExceptT.mk (StateT.lift work)) build post ↔
      work.Does fun result made => post result made build := by
  refine Program.ensures_bind.trans (Program.ensures_congr fun result made => ?_)
  refine Program.ensures_pure.trans ?_
  rw [List.append_nil]

end Rules

/-! ## Operations -/

section Operations

variable {α : Type} {build : Build}

theorem does_note_bind {level : Log.Level} {text : String} {f : Unit → Operation α}
    {post : Except ProvisionError α → List Deed → Build → Prop} :
    Does (note level text >>= f) build post ↔ Does (f ()) build post := by
  refine does_bind.trans (does_lift.trans (Program.ensures_bind.trans ?_))
  exact Work.does_note.trans Program.ensures_pure

theorem does_within {name : String} {operation : Operation α}
    {post : Except ProvisionError α → List Deed → Build → Prop} :
    Does (within name operation) build post ↔ Does operation build post :=
  Work.does_within

theorem does_liftOr {ε : Type} {wrap : ε → ProvisionError} {work : Work (Except ε α)}
    {post : Except ProvisionError α → List Deed → Build → Prop} :
    Does (liftOr wrap work) build post ↔
      work.Does fun answer made => post (answer.mapError wrap) made build := by
  refine does_bind.trans (does_lift.trans (Program.ensures_bind.trans ?_))
  refine Program.ensures_congr fun answer made => ?_
  refine Program.ensures_pure.trans ?_
  rw [List.append_nil]
  cases answer with
  | ok value =>
    refine does_pure.trans ?_
    rw [List.append_nil]
    exact Iff.rfl
  | error cause =>
    refine does_throw.trans ?_
    rw [List.append_nil]
    exact Iff.rfl

theorem does_call {wrap : EngineError → ProvisionError} {c : Call}
    {post : Except ProvisionError c.Value → List Deed → Build → Prop} :
    Does (call wrap c) build post ↔
      ∀ answer, post (answer.mapError wrap) [⟨.engine c, answer⟩] build :=
  does_liftOr.trans (Program.ensures_question rfl)

theorem does_wait {wrap : EngineError → ProvisionError} {process : Running}
    {post : Except ProvisionError Int → List Deed → Build → Prop} :
    Does (liftOr wrap (Work.act (.wait process))) build post ↔
      ∀ answer, post (answer.mapError wrap) [⟨.wait process, answer⟩] build :=
  does_liftOr.trans (Program.ensures_question rfl)

theorem Asks.does {operation : Operation α} {allowed : Action → Prop}
    (asks : Asks allowed operation) : Does operation build fun _ made _ =>
      ∀ deed ∈ made, allowed deed.question :=
  Program.Asks.does (asks build)

/-- What an operation ensures of its calls holds of the calls among its deeds. -/
theorem Ensures.does {operation : Operation α} {post : Outcome α}
    (ensures : Ensures operation build post) :
    Does operation build fun result made after => post result (callsMade made) after := by
  intro trace last yields
  change post last.1 (callsMade (deedsOf trace)) last.2
  rw [callsMade_deedsOf]
  exact ensures trace last yields

/-- Attaching an agent takes one deed, and none without an agent. -/
theorem attachAgent_does (input : Option Host.Input) :
    Does (attachAgent input) build fun result made _ =>
      made = [] ∧ (∃ cause, result = .error cause) ∨
        ∃ handle answer, made = [⟨.engine (.attachAgent handle input), answer⟩] ∧
          result = answer.mapError (.executionFailed handle.id) := by
  refine does_within.mpr (does_bind.mpr (does_get_bind.mpr ?_))
  cases build.session.agent with
  | none => exact does_throw.mpr (.inl ⟨rfl, _, rfl⟩)
  | some handle =>
    exact does_pure.mpr (does_call.mpr fun answer => .inr ⟨handle, answer, rfl, rfl⟩)

/-- Launching an agent attaches it, and waits for the process if that succeeded. -/
theorem launchAgent_does (input : Option Host.Input) :
    Does (launchAgent input) build fun _ made _ =>
      made = [] ∨
        (∃ handle cause, made = [⟨.engine (.attachAgent handle input), .error cause⟩]) ∨
        ∃ handle process answer,
          made = [⟨.engine (.attachAgent handle input), .ok process⟩, ⟨.wait process, answer⟩] := by
  refine does_within.mpr (does_bind.mpr (does_get_bind.mpr ?_))
  cases build.session.agent with
  | none => exact does_throw.mpr (.inl rfl)
  | some handle =>
    refine does_pure.mpr ((attachAgent_does input).bind ?_ ?_)
    · rintro process made after (⟨-, _, failed⟩ | ⟨handle, answer, rfl, succeeded⟩)
      · cases failed
      · cases answer with
        | error cause => cases succeeded
        | ok attached =>
          obtain rfl := Except.ok.inj succeeded
          exact does_wait.mpr fun answer => .inr (.inr ⟨handle, process, answer, rfl⟩)
    · rintro cause made after (⟨rfl, -⟩ | ⟨handle, answer, rfl, failed⟩)
      · exact .inl rfl
      · cases answer with
        | error cause => exact .inr (.inl ⟨handle, cause, rfl⟩)
        | ok attached => cases failed

theorem advancePhase_does : Does advancePhase build fun _ made _ => made = [] := by
  refine does_get_bind.mpr ?_
  split
  · exact does_note_bind.mpr (does_lift.mpr (Program.ensures_pure.mpr rfl))
  · exact does_pure.mpr rfl

/-- **Running a process does what finding its place takes, and then starts it if that
succeeded; it starts nothing else.** -/
theorem runProcess_does (starter : Starter) :
    Does (runProcess starter) build fun result made _ =>
      ∃ placing, (∀ deed ∈ placing, deed.question.Places) ∧
        (made = placing ∧ (∃ cause, result = .error cause) ∨
          ∃ container starter answer,
            made = placing ++ [⟨.engine (.exec container starter), answer⟩] ∧
              result = answer.mapError (.executionFailed container)) := by
  refine does_within.mpr ((placeFor_asks starter).does.bind ?_ ?_)
  · rintro ⟨container, placed⟩ placing after places
    refine does_note_bind.mpr (does_call.mpr fun answer => ?_)
    exact ⟨placing, places, .inr ⟨container.id, placed, answer, rfl, rfl⟩⟩
  · intro cause placing after places
    exact ⟨placing, places, .inl ⟨rfl, cause, rfl⟩⟩

/-- **What is done for a request is done in a turn.** -/
theorem does_turn {operation : Operation α} {request : Request}
    (same : request.operation = (fun _ => ()) <$> operation) :
    Does operation build fun _ made after => ∃ turn : Turn, turn.Happens ∧
      turn.request = request ∧ turn.before = build ∧ turn.after = after ∧
        deedsOf turn.trace = made := by
  intro trace last yields
  have mapped : (request.operation.runOn build).Yields trace
      (last.1.map fun _ => (), last.2) := by
    rw [same, map_eq_pure_bind, Operation.runOn_bind]
    refine Program.yields_bind_iff.mpr ⟨trace, last, [], (List.append_nil _).symm, yields, ?_⟩
    obtain ⟨result, after⟩ := last
    cases result with
    | ok a => exact .done _
    | error cause => exact .done _
  exact ⟨⟨request, build, trace, _, _⟩, mapped, rfl, rfl, rfl, rfl⟩

/-- What is done for a request comes out as the turn does in which it is done. -/
theorem does_request (request : Request) :
    Does request.operation build fun result made after => ∃ turn : Turn, turn.Happens ∧
      turn.request = request ∧ turn.before = build ∧ turn.result = result ∧
        turn.after = after ∧ deedsOf turn.trace = made :=
  fun _ _ yields => ⟨⟨request, build, _, _, _⟩, yields, rfl, rfl, rfl, rfl, rfl⟩

end Operations

end Build

end BuildYard
