import BuildYard.Build.Basic
import BuildYard.Proofs.Program.Traces

/-!
# What an operation of a build ensures

An operation may be answered in any way. What it ensures is said of its result,
of the calls that it made to the engine, with the answers, and of the build that
it leaves. Each way to put operations together has one rule, so that what an
operation ensures follows its text (`ensures_bind`). Reports, spans and files
are no calls to the engine and leave the build alone.
-/

set_option autoImplicit false

namespace BuildYard

/-- A call to the engine and how it came out. -/
abbrev CallMade := Exchange Call fun call => Except EngineError call.Value

/-- The call that an action is, if it is one. -/
def CallMade.ofAction : Exchange Action Action.Answer → Option CallMade
  | ⟨.engine call, answer⟩ => some ⟨call, answer⟩
  | _ => none

theorem CallMade.question_of_ofAction {exchange : Exchange Action Action.Answer}
    {call : CallMade} (same : CallMade.ofAction exchange = some call) :
    exchange.question = .engine call.question := by
  obtain ⟨action, answer⟩ := exchange
  cases action with
  | engine made => exact congrArg (fun call => Action.engine call.question) (Option.some.inj same)
  | _ => contradiction

/-- The calls in a trace, in order. -/
def callsMade (trace : List (Exchange Action Action.Answer)) : List CallMade :=
  trace.filterMap CallMade.ofAction

theorem callsMade_append (first second : List (Exchange Action Action.Answer)) :
    callsMade (first ++ second) = callsMade first ++ callsMade second :=
  List.filterMap_append

/-! ## Work -/

namespace Work

variable {α β : Type}

/-- Whatever the answers, `post` holds of the value that work ends with and of the calls that
it made. -/
def Ensures (work : Work α) (post : α → List CallMade → Prop) : Prop :=
  ∀ trace value, work.Yields trace value → post value (callsMade trace)

theorem Ensures.mono {work : Work α} {post post' : α → List CallMade → Prop}
    (ensures : work.Ensures post) (weaker : ∀ value calls, post value calls → post' value calls) :
    work.Ensures post' :=
  fun trace value yields => weaker _ _ (ensures trace value yields)

theorem ensures_congr {work : Work α} {post post' : α → List CallMade → Prop}
    (same : ∀ value calls, post value calls ↔ post' value calls) :
    work.Ensures post ↔ work.Ensures post' :=
  ⟨fun h => h.mono fun value calls => (same value calls).mp,
    fun h => h.mono fun value calls => (same value calls).mpr⟩

theorem ensures_pure {a : α} {post : α → List CallMade → Prop} :
    (pure a : Work α).Ensures post ↔ post a [] := by
  constructor
  · intro h
    exact h [] a (Program.yields_pure_iff.mpr ⟨rfl, rfl⟩)
  · intro h trace value yields
    obtain ⟨rfl, rfl⟩ := Program.yields_pure_iff.mp yields
    exact h

theorem ensures_bind {work : Work α} {f : α → Work β} {post : β → List CallMade → Prop} :
    (work >>= f).Ensures post ↔
      work.Ensures fun a calls => (f a).Ensures fun b more => post b (calls ++ more) := by
  constructor
  · intro h first a hwork second b hf
    rw [← callsMade_append]
    exact h _ b (Program.yields_bind_iff.mpr ⟨first, a, second, rfl, hwork, hf⟩)
  · intro h trace b yields
    obtain ⟨first, a, second, rfl, hwork, hf⟩ := Program.yields_bind_iff.mp yields
    rw [callsMade_append]
    exact h first a hwork second b hf

theorem ensures_act {action : Action} {post : action.Answer → List CallMade → Prop} :
    (act action).Ensures post ↔ ∀ answer, post answer (callsMade [⟨action, answer⟩]) := by
  constructor
  · intro h answer
    exact h _ answer (Program.yields_question_iff.mpr rfl)
  · intro h trace answer yields
    obtain rfl := Program.yields_question_iff.mp yields
    exact h answer

theorem ensures_call {c : Call} {post : Except EngineError c.Value → List CallMade → Prop} :
    (Work.call c).Ensures post ↔ ∀ answer, post answer [⟨c, answer⟩] :=
  ensures_act

theorem ensures_log {entry : Log.Entry} {post : Unit → List CallMade → Prop} :
    (act (.log entry)).Ensures post ↔ post () [] :=
  ensures_act.trans ⟨fun h => h (), fun h _ => h⟩

theorem ensures_note {level : Log.Level} {part : Log.Part} {text : String}
    {post : Unit → List CallMade → Prop} : (note level part text).Ensures post ↔ post () [] :=
  ensures_log

theorem ensures_wait {process : Running}
    {post : Except EngineError Int → List CallMade → Prop} :
    (act (.wait process)).Ensures post ↔ ∀ answer, post answer [] :=
  ensures_act

theorem ensures_within {span : Log.Span} {work : Work α} {post : α → List CallMade → Prop} :
    (within span work).Ensures post ↔ work.Ensures post := by
  refine (ensures_bind.trans ensures_log).trans (ensures_bind.trans (ensures_congr ?_))
  intro a calls
  refine (ensures_bind.trans ensures_log).trans (ensures_pure.trans ?_)
  simp only [List.nil_append, List.append_nil]

end Work

/-! ## Operations -/

namespace Build

variable {α β : Type}

/-- What can be said of a result, of the calls made and of the build afterwards. -/
abbrev Outcome (α : Type) := Except ProvisionError α → List CallMade → Build → Prop

/-- Whatever the answers, `post` holds of the result of an operation on `build`, of the calls
that it made, and of the build that it leaves. -/
def Ensures (operation : Operation α) (build : Build) (post : Outcome α) : Prop :=
  (operation.runOn build).Ensures fun end_ calls => post end_.1 calls end_.2

theorem Ensures.mono {operation : Operation α} {build : Build} {post post' : Outcome α}
    (ensures : Ensures operation build post)
    (weaker : ∀ result calls after, post result calls after → post' result calls after) :
    Ensures operation build post' :=
  Work.Ensures.mono ensures fun _ calls => weaker _ calls _

/-- What is ensured twice over is ensured together. -/
theorem Ensures.and {operation : Operation α} {build : Build} {post post' : Outcome α}
    (first : Ensures operation build post) (second : Ensures operation build post') :
    Ensures operation build fun result calls after =>
      post result calls after ∧ post' result calls after :=
  fun trace last yields => ⟨first trace last yields, second trace last yields⟩

theorem ensures_congr {operation : Operation α} {build : Build} {post post' : Outcome α}
    (same : ∀ result calls after, post result calls after ↔ post' result calls after) :
    Ensures operation build post ↔ Ensures operation build post' :=
  Work.ensures_congr fun _ calls => same _ calls _

/-- What an operation has to ensure for what is to hold after another that follows it if it
succeeds. -/
def Outcome.andThen (f : α → Operation β) (post : Outcome β) : Outcome α
  | .ok a, calls, after => Ensures (f a) after fun result more => post result (calls ++ more)
  | .error cause, calls, after => post (.error cause) calls after

theorem ensures_pure {a : α} {build : Build} {post : Outcome α} :
    Ensures (pure a) build post ↔ post (.ok a) [] build :=
  Work.ensures_pure

theorem ensures_throw {cause : ProvisionError} {build : Build} {post : Outcome α} :
    Ensures (throw cause) build post ↔ post (.error cause) [] build :=
  Work.ensures_pure

/-- How an operation goes on after another. -/
def Operation.goOn (f : α → Operation β) :
    Except ProvisionError α × Build → Work (Except ProvisionError β × Build)
  | (.ok a, build) => (f a).runOn build
  | (.error cause, build) => pure (.error cause, build)

theorem Operation.runOn_bind (operation : Operation α) (f : α → Operation β) (build : Build) :
    (operation >>= f).runOn build = operation.runOn build >>= Operation.goOn f := by
  simp only [Operation.runOn, ExceptT.run_bind, StateT.run_bind]
  congr 1
  funext last
  rcases last with ⟨cause | a, after⟩ <;> rfl

/-- **What two operations in a row ensure.** -/
theorem ensures_bind {operation : Operation α} {f : α → Operation β} {build : Build}
    {post : Outcome β} :
    Ensures (operation >>= f) build post ↔ Ensures operation build (post.andThen f) := by
  rw [Ensures, Operation.runOn_bind, Work.ensures_bind]
  refine Work.ensures_congr fun last calls => ?_
  rcases last with ⟨cause | a, after⟩
  · simp only [Operation.goOn, Outcome.andThen, Work.ensures_pure, List.append_nil]
  · exact Iff.rfl

/-- What an operation in front ensures is all that what follows has to know. -/
theorem Ensures.bind {operation : Operation α} {f : α → Operation β} {build : Build}
    {between : Outcome α} {post : Outcome β} (first : Ensures operation build between)
    (next : ∀ a calls after, between (.ok a) calls after →
      Ensures (f a) after fun result more => post result (calls ++ more))
    (failed : ∀ cause calls after, between (.error cause) calls after →
      post (.error cause) calls after) :
    Ensures (operation >>= f) build post := by
  refine ensures_bind.mpr (first.mono fun result calls after h => ?_)
  cases result with
  | error cause => exact failed cause calls after h
  | ok a => exact next a calls after h

theorem ensures_map {operation : Operation α} {f : α → β} {build : Build} {post : Outcome β} :
    Ensures (f <$> operation) build post ↔
      Ensures operation build fun result => post (result.map f) := by
  rw [map_eq_pure_bind, ensures_bind]
  refine ensures_congr fun result calls after => ?_
  cases result with
  | error cause => exact Iff.rfl
  | ok a => simp only [Outcome.andThen, ensures_pure, List.append_nil, Except.map]

/-! ## The build itself -/

theorem ensures_current_bind {f : Build → Operation α} {build : Build} {post : Outcome α} :
    Ensures (current >>= f) build post ↔ Ensures (f build) build post :=
  ensures_bind.trans Work.ensures_pure

theorem ensures_modify {change : Build → Build} {build : Build} {post : Outcome Unit} :
    Ensures (modify change) build post ↔ post (.ok ()) [] (change build) :=
  Work.ensures_pure

theorem ensures_modify_bind {change : Build → Build} {f : Unit → Operation α} {build : Build}
    {post : Outcome α} :
    Ensures (modify change >>= f) build post ↔ Ensures (f ()) (change build) post :=
  ensures_bind.trans ensures_modify

theorem ensures_changeSession {change : Session → Session} {build : Build}
    {post : Outcome Unit} :
    Ensures (changeSession change) build post ↔
      post (.ok ()) [] { build with session := change build.session } :=
  ensures_modify

theorem ensures_changeSession_bind {change : Session → Session} {f : Unit → Operation α}
    {build : Build} {post : Outcome α} :
    Ensures (changeSession change >>= f) build post ↔
      Ensures (f ()) { build with session := change build.session } post :=
  ensures_modify_bind

theorem ensures_throw_bind {cause : ProvisionError} {f : α → Operation β} {build : Build}
    {post : Outcome β} :
    Ensures (throw cause >>= f) build post ↔ post (.error cause) [] build :=
  ensures_bind.trans ensures_throw

/-! ## Work for a build -/

theorem Operation.runOn_liftWork (work : Work α) (build : Build) :
    (liftWork work).runOn build = work >>= fun a => pure (.ok a, build) := by
  simp only [Operation.runOn, liftWork, ExceptT.run_lift, map_eq_pure_bind, StateT.run_bind]
  exact bind_assoc work (fun a => pure (a, build))
    fun last => pure ((Except.ok last.1 : Except ProvisionError α), last.2)

theorem ensures_liftWork {work : Work α} {build : Build} {post : Outcome α} :
    Ensures (liftWork work) build post ↔
      work.Ensures fun a calls => post (.ok a) calls build := by
  rw [Ensures, Operation.runOn_liftWork, Work.ensures_bind]
  simp only [Work.ensures_pure, List.append_nil]

theorem ensures_liftWork_bind {work : Work α} {f : α → Operation β} {build : Build}
    {post : Outcome β} :
    Ensures (liftWork work >>= f) build post ↔
      work.Ensures fun a calls =>
        Ensures (f a) build fun result more => post result (calls ++ more) :=
  ensures_bind.trans ensures_liftWork

theorem ensures_note {level : Log.Level} {text : String} {build : Build}
    {post : Outcome Unit} : Ensures (note level text) build post ↔ post (.ok ()) [] build :=
  ensures_liftWork.trans Work.ensures_note

theorem ensures_note_bind {level : Log.Level} {text : String} {f : Unit → Operation α}
    {build : Build} {post : Outcome α} :
    Ensures (note level text >>= f) build post ↔ Ensures (f ()) build post :=
  ensures_bind.trans ensures_note

theorem ensures_within {name : String} {operation : Operation α} {build : Build}
    {post : Outcome α} : Ensures (within name operation) build post ↔
      Ensures operation build post :=
  Work.ensures_within

theorem ensures_liftOr {ε : Type} {wrap : ε → ProvisionError} {work : Work (Except ε α)}
    {build : Build} {post : Outcome α} :
    Ensures (liftOr wrap work) build post ↔
      work.Ensures fun answer calls => post (answer.mapError wrap) calls build := by
  rw [liftOr, ensures_liftWork_bind]
  refine Work.ensures_congr fun answer calls => ?_
  cases answer with
  | error cause =>
    simp only [ensures_throw, List.append_nil]
    exact Iff.rfl
  | ok value =>
    simp only [ensures_pure, List.append_nil]
    exact Iff.rfl

/-- Work in front that may fail: what follows is done if it succeeds, and otherwise nothing. -/
theorem ensures_liftOr_bind {ε : Type} {wrap : ε → ProvisionError} {work : Work (Except ε α)}
    {f : α → Operation β} {build : Build} {post : Outcome β} :
    Ensures (liftOr wrap work >>= f) build post ↔ work.Ensures fun answer calls =>
      match answer with
      | .ok value => Ensures (f value) build fun result more => post result (calls ++ more)
      | .error cause => post (.error (wrap cause)) calls build := by
  rw [ensures_bind, ensures_liftOr]
  refine Work.ensures_congr fun answer calls => ?_
  cases answer with
  | error cause => exact Iff.rfl
  | ok value => exact Iff.rfl

theorem ensures_call {wrap : EngineError → ProvisionError} {c : Call} {build : Build}
    {post : Outcome c.Value} :
    Ensures (call wrap c) build post ↔
      ∀ answer, post (answer.mapError wrap) [⟨c, answer⟩] build :=
  ensures_liftOr.trans Work.ensures_call

/-- A call in front: what follows is done if it succeeds, and otherwise nothing. -/
theorem ensures_call_bind {wrap : EngineError → ProvisionError} {c : Call}
    {f : c.Value → Operation α} {build : Build} {post : Outcome α} :
    Ensures (call wrap c >>= f) build post ↔
      (∀ value, Ensures (f value) build fun result more => post result (⟨c, .ok value⟩ :: more)) ∧
        ∀ cause, post (.error (wrap cause)) [⟨c, .error cause⟩] build := by
  rw [call, ensures_liftOr_bind, Work.ensures_call]
  constructor
  · intro h
    exact ⟨fun value => h (.ok value), fun cause => h (.error cause)⟩
  · rintro ⟨succeeds, fails⟩ (cause | value)
    · exact fails cause
    · exact succeeds value

/-! ## The agent -/

theorem ensures_agent_bind {handle : Handle} {f : Handle → Operation α} {build : Build}
    {post : Outcome α} (recorded : build.session.agent = some handle) :
    Ensures (agent >>= f) build post ↔ Ensures (f handle) build post := by
  simp only [agent, bind_assoc, ensures_current_bind, recorded, pure_bind]

theorem ensures_agent_bind_none {f : Handle → Operation α} {build : Build} {post : Outcome α}
    (unrecorded : build.session.agent = none) :
    Ensures (agent >>= f) build post ↔ post (.error .agentNotPrepared) [] build := by
  simp only [agent, bind_assoc, ensures_current_bind, unrecorded, ensures_throw_bind]

end Build

end BuildYard
