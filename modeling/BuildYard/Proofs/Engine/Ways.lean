import BuildYard.Proofs.Engine.Launches
import BuildYard.Proofs.Engine.Requests

/-!
# Launches as requests

A launch speaks of steps; the engine sees requests. A `Way` takes the steps of
a launch: it says which request each step makes, if any, and it makes no other.
What is known of the course of a launch then becomes known of its requests
(`Way.ensures_perform`). `Settled` lists how a launch comes out as the engine
sees it: no container was created, or it was removed by the last request, or it
is ready and nothing was removed. Every launch is settled, in whatever way its
steps are taken (`Way.settled`).
-/

set_option autoImplicit false

namespace BuildYard

/-! ## What requests are for -/

/-- What a launch asks an engine to do. -/
inductive Launch.Verb where
  | create
  | copy
  | start
  | remove
  deriving DecidableEq, Repr

/-- What a word tells the engine's program to do. -/
def Launch.Verb.ofWord? : String → Option Launch.Verb
  | "create" => some .create
  | "cp" => some .copy
  | "start" => some .start
  | "rm" => some .remove
  | _ => none

/-- The word that tells the engine's program what to do, in front of which a host may stand. -/
def Host.Invocation.word? (invocation : Host.Invocation) : Option String :=
  match invocation.arguments with
  | "-H" :: _ :: arguments => arguments.head?
  | arguments => arguments.head?

/-- What a request is for: of a run of the program its word tells, and of a request to the API
its method and whether it carries a record. -/
def Host.Ask.verb? : Host.Ask → Option Launch.Verb
  | .invoke invocation _ => invocation.word?.bind Launch.Verb.ofWord?
  | .send _ request =>
    match request.method, request.body with
    | "POST", .json _ => some .create
    | "POST", .none => some .start
    | "GET", _ | "PUT", _ => some .copy
    | "DELETE", _ => some .remove
    | _, _ => none
  | _ => none

/-- What the reply to a request names: by the command line it is what the run wrote, without the
blanks around that, and by the API it is what `read` finds. -/
def named? (read : Host.Reply → Option String) : HostExchange → Option String
  | ⟨.invoke _ _, .ended (some 0) out _⟩ => some (Text.trim (Bytes.textLossy out))
  | ⟨.send _ _, .ok reply⟩ => read reply
  | _ => none

/-- The id that the reply to a creation names. -/
def idNamed? : HostExchange → Option String :=
  named? fun reply => (Replies.decoded Replies.creation? reply).toOption.map (·.1)

namespace Launch

variable {α : Type}

/-- What a step asks an engine to do, if it asks it for anything. -/
def Step.verb? : Step → Option Verb
  | .create _ => some .create
  | .copyOut _ _ | .copyIn _ _ _ => some .copy
  | .start _ => some .start
  | .discard _ => some .remove
  | .readFile _ | .report _ _ => none

/-! ## Ways -/

/-- How the steps of a launch are put to an engine as requests. Of a creation it may turn out
that it cannot be asked for. -/
structure Wording where
  creation? : Creation → Option Host.Ask
  copyOut (id path : String) : Host.Ask
  copyIn (id dir : String) (archive : Bytes) : Host.Ask
  start (id : String) : Host.Ask
  removal (id : String) : Host.Ask

/-- The request that a step is put as, if it asks the engine for anything. -/
def Wording.asks (wording : Wording) : Step → Option Host.Ask
  | .create creation => wording.creation? creation
  | .copyOut id path => some (wording.copyOut id path)
  | .copyIn id dir archive => some (wording.copyIn id dir archive)
  | .start id => some (wording.start id)
  | .discard id => some (wording.removal id)
  | .readFile _ | .report _ _ => none

/-- A way to take the steps of a launch: each makes the request that it is put as, and no other. -/
structure Way extends Wording where
  step : (s : Step) → Host.Task s.Answer
  asked : ∀ s, Host.Ensures (step s) fun _ made =>
    made.map (·.question) = (toWording.asks s).toList
  created : ∀ creation, Host.Ensures (step (.create creation)) fun answer made =>
    ∀ id, answer = .ok id → ∃ reply, made = [reply] ∧ idNamed? reply = some id
  verb : ∀ s ask, toWording.asks s = some ask → ask.verb? = s.verb?

namespace Way

variable {way : Way}

/-- With these requests a step was answered so. -/
def Took (way : Way) (s : Step) (answer : s.Answer) (made : List HostExchange) : Prop :=
  ∃ trace, (way.step s).Yields trace answer ∧ requests trace = made

/-- The requests of steps that were taken one after another. -/
inductive TookAll (way : Way) : List StepTaken → List HostExchange → Prop where
  | nil : TookAll way [] []
  | cons {s : Step} {answer : s.Answer} {steps : List StepTaken} {made more : List HostExchange} :
      way.Took s answer made → TookAll way steps more →
        TookAll way (⟨s, answer⟩ :: steps) (made ++ more)

theorem tookAll_cons_iff {step : StepTaken} {steps : List StepTaken} {made : List HostExchange} :
    way.TookAll (step :: steps) made ↔
      ∃ first more, way.Took step.question step.answer first ∧ way.TookAll steps more ∧
        made = first ++ more := by
  constructor
  · rintro (_ | ⟨took, more⟩)
    exact ⟨_, _, took, more, rfl⟩
  · rintro ⟨first, more, took, rest, rfl⟩
    exact .cons took rest

theorem tookAll_singleton_iff {step : StepTaken} {made : List HostExchange} :
    way.TookAll [step] made ↔ way.Took step.question step.answer made := by
  rw [tookAll_cons_iff]
  constructor
  · rintro ⟨first, more, took, ⟨⟩, rfl⟩
    exact (List.append_nil first).symm ▸ took
  · exact fun took => ⟨made, [], took, .nil, (List.append_nil made).symm⟩

theorem tookAll_append_iff {steps rest : List StepTaken} {made : List HostExchange} :
    way.TookAll (steps ++ rest) made ↔
      ∃ first more, way.TookAll steps first ∧ way.TookAll rest more ∧ made = first ++ more := by
  induction steps generalizing made with
  | nil =>
    constructor
    · exact fun took => ⟨[], made, .nil, took, rfl⟩
    · rintro ⟨_, more, ⟨⟩, took, rfl⟩
      exact took
  | cons step steps ih =>
    simp only [List.cons_append, tookAll_cons_iff, ih]
    constructor
    · rintro ⟨first, _, took, ⟨middle, more, before, after, rfl⟩, rfl⟩
      exact ⟨_, more, ⟨first, middle, took, before, rfl⟩, after, (List.append_assoc ..).symm⟩
    · rintro ⟨_, more, ⟨first, middle, took, before, rfl⟩, after, rfl⟩
      exact ⟨first, _, took, ⟨middle, more, before, after, rfl⟩, List.append_assoc ..⟩

theorem Took.asked {s : Step} {answer : s.Answer} {made : List HostExchange}
    (took : way.Took s answer made) : made.map (·.question) = (way.asks s).toList := by
  obtain ⟨trace, yields, rfl⟩ := took
  exact way.asked s trace answer yields

theorem TookAll.asked {steps : List StepTaken} {made : List HostExchange}
    (took : way.TookAll steps made) :
    made.map (·.question) = (steps.map (·.question)).filterMap way.asks := by
  induction took with
  | nil => rfl
  | @cons s answer steps made more first _ ih =>
    rw [List.map_append, first.asked, ih, List.map_cons]
    cases asks : way.asks s with
    | none => rw [List.filterMap_cons_none asks]; rfl
    | some ask => rw [List.filterMap_cons_some asks]; rfl

/-- Steps that are reports make no requests, so those that count account for all of them. -/
theorem tookAll_of_relayed {state last : Unit}
    {relays : List (RelayedExchange Step Step.Answer Host.Ask Host.Ask.Answer)}
    (relayed : Program.Relayed (fun s (state : Unit) => do pure (← way.step s, state)) state
      relays last) :
    way.TookAll (Program.counted Step.acts (relays.map (·.exchange)))
      (requests (relays.flatMap (·.asked))) := by
  induction relayed with
  | nil => exact .nil
  | @cons _ _ _ s reply asked relays answered _ ih =>
    obtain ⟨first, answer, rest, rfl, yields, ended⟩ := Program.yields_bind_iff.mp answered
    obtain ⟨rfl, ⟨rfl, rfl⟩⟩ := Program.yields_pure_iff.mp ended
    rw [List.append_nil, List.flatMap_cons, requests_append]
    have took : way.Took s reply (requests first) := ⟨first, yields, rfl⟩
    rw [List.map_cons]
    cases acts : s.acts with
    | true =>
      rw [Program.counted_cons_of_pos acts]
      exact .cons took ih
    | false =>
      have none : requests first = [] := by
        rw [← List.map_eq_nil_iff, took.asked]
        cases s <;> first | rfl | contradiction
      rw [Program.counted_cons_of_neg acts, none]
      exact ih

/-- **What a plan ensures of its steps it ensures of the requests that they make.** -/
theorem ensures_perform {plan : Plan α} {post : Except EngineError α → List HostExchange → Prop}
    (ensures : plan.Ensures fun result steps => ∀ made, way.TookAll steps made → post result made) :
    Attempt.Ensures (plan.perform way.step) post := by
  intro trace result performed
  obtain ⟨⟨value, state⟩, yields, rfl⟩ := Program.yields_map_iff.mp performed
  obtain ⟨relays, relayed, planned, rfl⟩ := Program.yields_through_iff.mp yields
  exact ensures _ _ planned _ (tookAll_of_relayed relayed)

end Way

/-! ## How launches come out -/

/-- Requests between a creation and what comes of it: they neither create nor remove anything. -/
def SettingUp (made : List HostExchange) : Prop :=
  ∀ request ∈ made, request.question.verb? = some .copy ∨ request.question.verb? = some .start

/-- Whether a request starts a container. -/
def starting (ask : Host.Ask) : Bool :=
  ask.verb? == some .start

/-- How a launch comes out as the engine sees it. -/
inductive Settled (way : Way) (settings : AgentSettings) (launching : Launching) :
    Except EngineError Handle → List HostExchange → Prop where
  /-- Nothing was created, and nothing but the creation was asked for, if that. -/
  | notCreated {cause : EngineError} {made : List HostExchange}
      (failed : way.Took (.create (launching.creation settings)) (.error cause) made)
      (only : made.map (·.question) = (way.creation? (launching.creation settings)).toList) :
      Settled way settings launching (.error cause) made
  /-- A container was created that did not become ready. The last request removes it, whether or
  not that succeeds, and what broke its set-up is what is reported. -/
  | removed {id : String} {cause : EngineError} {steps : List StepTaken}
      {created removal : HostExchange} {made : List HostExchange}
      (creation : way.Took (.create (launching.creation settings)) (.ok id) [created])
      (creates : created.question.verb? = some .create) (named : idNamed? created = some id)
      (taken : way.TookAll steps made) (within : ∀ step ∈ steps, SetsUp id step.question)
      (settingUp : SettingUp made)
      (broken : Broken (launching.payload settings) steps cause)
      (removes : removal.question = way.removal id) :
      Settled way settings launching (.error cause) (created :: (made ++ [removal]))
  /-- The container is ready, and it was started as often as it is to be. -/
  | ready {id : String} {steps : List StepTaken} {created : HostExchange}
      {made : List HostExchange}
      (creation : way.Took (.create (launching.creation settings)) (.ok id) [created])
      (creates : created.question.verb? = some .create) (named : idNamed? created = some id)
      (taken : way.TookAll steps made) (within : ∀ step ∈ steps, SetsUp id step.question)
      (settingUp : SettingUp made) (smooth : Smooth steps)
      (started : (made.map (·.question)).filter starting =
        List.replicate launching.starts (way.start id)) :
      Settled way settings launching (.ok { image := launching.image, id }) (created :: made)

section Settled

variable {way : Way} {settings : AgentSettings} {launching : Launching} {id : String}
  {steps : List StepTaken} {made : List HostExchange}

/-- A container that was created has the id that the one reply names. -/
theorem Way.Took.created {creation : Creation} {made : List HostExchange}
    (took : way.Took (.create creation) (.ok id) made) :
    ∃ created, made = [created] ∧ created.question.verb? = some .create ∧
      idNamed? created = some id := by
  obtain ⟨trace, yields, equal⟩ := took
  obtain ⟨created, single, named⟩ := way.created creation trace _ yields id rfl
  obtain rfl := equal.symm.trans single
  have asked : [created.question] = (way.asks (.create creation)).toList :=
    Way.Took.asked ⟨trace, yields, equal⟩
  refine ⟨created, rfl, way.verb (.create creation) _ ?_, named⟩
  exact Option.toList_eq_singleton_iff.mp asked.symm

theorem Way.TookAll.settingUp (taken : way.TookAll steps made)
    (within : ∀ step ∈ steps, SetsUp id step.question) : SettingUp made := by
  intro request member
  have question : request.question ∈ (steps.map (·.question)).filterMap way.asks :=
    taken.asked ▸ List.mem_map_of_mem member
  obtain ⟨s, asked, asks⟩ := List.mem_filterMap.mp question
  obtain ⟨step, member, rfl⟩ := List.mem_map.mp asked
  rw [way.verb _ _ asks]
  have setsUp := within step member
  generalize step.question = s at setsUp asks
  cases setsUp with
  | copyOut path => exact .inl rfl
  | copyIn dir archive => exact .inl rfl
  | start => exact .inr rfl
  | readFile path => contradiction

/-- The requests that start containers are those of the steps that do. -/
theorem Way.filter_starting_asks (way : Way) (s : Step) :
    (way.asks s).filter starting = if s.isStart then way.asks s else none := by
  cases asks : way.asks s with
  | none => simp
  | some ask =>
    have verb := way.verb s ask asks
    cases s <;> simp_all [starting, Step.verb?, Step.isStart]

theorem Way.TookAll.starts (taken : way.TookAll steps made) :
    (made.map (·.question)).filter starting =
      ((steps.map (·.question)).filter Step.isStart).filterMap way.asks := by
  rw [taken.asked, List.filter_filterMap, List.filterMap_filter]
  exact congrArg (List.filterMap · _) (funext way.filter_starting_asks)

/-- **Every launch is settled**, in whatever way its steps are taken. -/
theorem Way.settled (way : Way) (settings : AgentSettings) (launching : Launching) :
    Attempt.Ensures ((launching.plan settings).perform way.step)
      (Settled way settings launching) := by
  refine way.ensures_perform ((course settings launching).mono fun result steps course => ?_)
  intro made launched
  cases course with
  | notCreated cause =>
    have failed := tookAll_singleton_iff.mp launched
    exact .notCreated failed failed.asked
  | discarded setUp answer =>
    obtain ⟨first, more, creation, rest, rfl⟩ := tookAll_cons_iff.mp launched
    obtain ⟨middle, last, taken, discarded, rfl⟩ := tookAll_append_iff.mp rest
    -- creating and discarding are one request each, so that these can be named
    obtain ⟨created, rfl, creates, named⟩ := creation.created
    obtain ⟨removal, rfl, removes⟩ := List.map_eq_singleton_iff.mp
      (tookAll_singleton_iff.mp discarded).asked
    exact .removed creation creates named taken setUp.within (taken.settingUp setUp.within)
      (setUp.broken _ rfl) removes
  | @ready id steps setUp =>
    obtain ⟨first, more, creation, taken, rfl⟩ := tookAll_cons_iff.mp launched
    obtain ⟨created, rfl, creates, named⟩ := creation.created
    have started : (more.map (·.question)).filter starting =
        List.replicate launching.starts (way.start id) := by
      rw [taken.starts, setUp.started _ rfl]
      exact List.filterMap_replicate_of_some rfl
    exact .ready creation creates named taken setUp.within (taken.settingUp setUp.within)
      (setUp.smooth _ rfl) started

end Settled

end Launch

end BuildYard
