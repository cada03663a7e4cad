import BuildYard.Proofs.Build.Asks
import BuildYard.Proofs.Build.Environment
import BuildYard.Proofs.Build.Identification

/-!
# What the command line makes of a failed search

The engine's program is asked whether something exists by one run. The answer
is yes exactly if the run succeeds; a run that fails is taken for a no exactly
if what it wrote to its errors mentions one of two phrases, and for an error
otherwise (`Probed`). When the answer is an error, the preparation of an agent
fails and has created nothing. But the phrases are looked for in all that the
program wrote, and an engine that cannot be reached has its program write them
too, so that an agent that is there may be taken for missing
(`unreachable_agent_replaced`).
-/

set_option autoImplicit false

namespace BuildYard

/-! ## Phrases -/

namespace Text

theorem contains_iff {part cs : List Char} : contains part cs = true ↔ part <:+: cs := by
  induction cs with
  | nil => simp [contains]
  | cons c cs ih =>
    rw [contains, Bool.or_eq_true, ih, List.isPrefixOf_iff_prefix, List.infix_cons_iff]

/-- A phrase occurs in a text, whether or not in capitals. -/
def Mentions (phrase text : String) : Prop :=
  phrase.toList <:+: fold text.toList

theorem fold_append (first second : List Char) :
    fold (first ++ second) = fold first ++ fold second :=
  List.flatMap_append

/-- What is in lower case is mentioned by every text in which it occurs. -/
theorem mentions_of_occurs {phrase before after : String}
    (lower : fold phrase.toList = phrase.toList) : Mentions phrase (before ++ phrase ++ after) := by
  rw [Mentions, String.toList_append, String.toList_append, fold_append, fold_append, lower]
  exact List.infix_append _ _ _

end Text

namespace ByCommand

open Text (Mentions)

theorem saysMissing_iff {complaint : String} :
    saysMissing complaint = true ↔
      Mentions "no such" complaint ∨ Mentions "not found" complaint := by
  simp only [saysMissing, Bool.or_eq_true, Text.contains_iff, Mentions]

/-! ## Probes -/

/-- Something that the engine's program is asked for. -/
inductive Probe where
  | volume (name : String)
  | container (id : String)
  | image (name : String)
  deriving DecidableEq

namespace Probe

/-- What the thing is known by. -/
def name : Probe → String
  | volume name => name
  | container id => id
  | image name => name

/-- What the driver does about it. -/
def attempt (driver : ByCommand) : Probe → Attempt Bool
  | volume name => driver.attempt (.hasVolume name)
  | container id => driver.attempt (.hasContainer id)
  | image name => driver.attempt (.hasImage name)

/-- The arguments with which the program is run. -/
def arguments : Probe → List String
  | volume name => ["volume", "inspect", name]
  | container id => ["inspect", "--type", "container", "--format", "\x7b\x7b.Id\x7d\x7d", id]
  | image name => ["image", "inspect", "--format", "\x7b\x7b.Id\x7d\x7d", name]

/-- What errors call the run. -/
def operation : Probe → String
  | volume _ => "volume inspect"
  | container _ => "inspect"
  | image _ => "image inspect"

theorem attempt_eq {driver : ByCommand} {probe : Probe} (named : probe.name ≠ "") :
    probe.attempt driver = driver.probe probe.operation probe.arguments := by
  cases probe with
  | volume name =>
    have nonempty : ¬name.isEmpty = true := fun empty => named (String.isEmpty_iff.mp empty)
    exact if_neg nonempty
  | container id =>
    have nonempty : ¬id.isEmpty = true := fun empty => named (String.isEmpty_iff.mp empty)
    exact if_neg nonempty
  | image name => rfl

end Probe

/-- What a call looks for, and how it was answered. -/
def looked? : CallMade → Option (Probe × Except EngineError Bool)
  | ⟨.hasVolume name, answer⟩ => some (.volume name, answer)
  | ⟨.hasContainer id, answer⟩ => some (.container id, answer)
  | ⟨.hasImage name, answer⟩ => some (.image name, answer)
  | _ => none

variable {driver : ByCommand}

/-- What a run comes to that looks for something. -/
def probeResult (driver : ByCommand) (operation : String) (outcome : Host.Outcome) :
    Except EngineError Bool :=
  match driver.outputOf outcome with
  | .error cause => .error cause
  | .ok output =>
    if output.successful then .ok true
    else if saysMissing (Bytes.textLossy output.err) then .ok false
    else .error (.cli operation output.complaint)

/-- **A run that looks for something is one request.** -/
theorem ensures_probe {operation : String} {arguments : List String}
    {post : Except EngineError Bool → List HostExchange → Prop} :
    Attempt.Ensures (driver.probe operation arguments) post ↔
      ∀ outcome, post (driver.probeResult operation outcome)
        [⟨.invoke (driver.invocation arguments) none, outcome⟩] := by
  refine Program.ensures_andThen.trans (ensures_invoke.trans (forall_congr' fun outcome => ?_))
  rw [probeResult]
  cases driver.outputOf outcome with
  | error cause => exact Iff.rfl
  | ok output =>
    by_cases successful : output.successful = true
    · simp only [if_pos successful]
      exact Program.ensures_ok
    · simp only [if_neg successful]
      by_cases missing : saysMissing (Bytes.textLossy output.err) = true
      · simp only [if_pos missing]
        exact ensures_debug_andThen.trans Program.ensures_ok
      · simp only [if_neg missing]
        exact Program.ensures_throw

/-- A run failed, and what it wrote to its errors mentions one of the two phrases. -/
def Denied (outcome : Host.Outcome) : Prop :=
  ∃ code out err, outcome = .ended code out err ∧ code ≠ some 0 ∧
    (Mentions "no such" (Bytes.textLossy err) ∨ Mentions "not found" (Bytes.textLossy err))

theorem denied_ended_iff {code : Option Int} {out err : Bytes} :
    Denied (.ended code out err) ↔
      code ≠ some 0 ∧ saysMissing (Bytes.textLossy err) = true := by
  rw [saysMissing_iff, Denied]
  constructor
  · rintro ⟨_, _, _, ⟨⟩, failed, mentions⟩
    exact ⟨failed, mentions⟩
  · rintro ⟨failed, mentions⟩
    exact ⟨code, out, err, rfl, failed, mentions⟩

/-- What a driver makes of one run that looks for something: it has found it exactly if the run
succeeds, and there is no such thing exactly if the run fails and says so. -/
structure Probed (driver : ByCommand) (probe : Probe) (outcome : Host.Outcome)
    (result : Except EngineError Bool) (made : List HostExchange) : Prop where
  made : made = [⟨.invoke (driver.invocation probe.arguments) none, outcome⟩]
  found : result = .ok true ↔ ∃ out err, outcome = .ended (some 0) out err
  denied : result = .ok false ↔ Denied outcome

theorem probeResult_eq_true_iff {operation : String} {outcome : Host.Outcome} :
    driver.probeResult operation outcome = .ok true ↔
      ∃ out err, outcome = .ended (some 0) out err := by
  cases outcome with
  | notStarted cause => simp [probeResult, outputOf]
  | unread => simp [probeResult, outputOf]
  | ended code out err =>
    by_cases successful : code = some 0
    · subst successful
      exact iff_of_true rfl ⟨out, err, rfl⟩
    · simp only [probeResult, outputOf, beq_iff_eq, successful, if_false]
      refine iff_of_false ?_ (by simp [successful])
      split <;> simp

theorem probeResult_eq_false_iff {operation : String} {outcome : Host.Outcome} :
    driver.probeResult operation outcome = .ok false ↔ Denied outcome := by
  cases outcome with
  | notStarted cause => simp [probeResult, outputOf, Denied]
  | unread => simp [probeResult, outputOf, Denied]
  | ended code out err =>
    rw [denied_ended_iff]
    by_cases successful : code = some 0
    · subst successful
      simp [probeResult, outputOf]
    · simp only [probeResult, outputOf, beq_iff_eq, successful, if_false, ne_eq, not_false_eq_true,
        true_and]
      split
      · next missing => exact iff_of_true rfl missing
      · next missing => simp [missing]

/-- **What one run says is all that a driver goes by.** -/
theorem attempt_probed {probe : Probe} (named : probe.name ≠ "") :
    Attempt.Ensures (probe.attempt driver) fun result made =>
      ∃ outcome, Probed driver probe outcome result made := by
  rw [Probe.attempt_eq named]
  refine ensures_probe.mpr fun outcome => ⟨outcome, rfl, ?_, ?_⟩
  · exact probeResult_eq_true_iff
  · exact probeResult_eq_false_iff

end ByCommand

open ByCommand (Probe Probed Denied looked?)

/-! ## Preparations by the command line -/

/-- A log entry, or a call that does not end the way to the engine. -/
def Action.KeepsDriver : Action → Prop
  | .log _ => True
  | .engine .close => False
  | .engine _ => True
  | _ => False

theorem Action.KeepsDriver.ordinary {action : Action} (keeps : action.KeepsDriver) :
    action.Ordinary := by
  cases action with
  | log entry => trivial
  | engine call =>
    rintro rfl
    exact keeps
  | _ => exact keeps.elim

theorem Action.Prepares.keepsDriver {action : Action} (prepares : action.Prepares) :
    action.KeepsDriver := by
  cases action with
  | log entry => trivial
  | engine call => cases call <;> trivial
  | _ => exact prepares.elim

namespace Build

/-! ## Searches that fail -/

section Disputed

variable {build after : Build} {session : Session} {calls more : List CallMade} {call : CallMade}
  {probe : Probe} {cause : EngineError} {result : Except ProvisionError Unit}

/-- Every search was answered by yes or no. -/
def Undisputed (calls : List CallMade) : Prop :=
  ∀ call ∈ calls, ∀ probe cause, looked? call ≠ some (probe, .error cause)

theorem Undisputed.append (first : Undisputed calls) (second : Undisputed more) :
    Undisputed (calls ++ more) :=
  List.forall_mem_append.mpr ⟨first, second⟩

theorem AgentMissing.looked (missing : AgentMissing session calls) :
    Undisputed calls ∧ ∀ call ∈ calls, (looked? call).isSome := by
  cases missing with
  | unrecorded => exact ⟨List.forall_mem_nil _, List.forall_mem_nil _⟩
  | gone =>
    exact ⟨List.forall_mem_singleton.mpr (by simp [looked?]), List.forall_mem_singleton.mpr rfl⟩

theorem VolumeMissing.looked (missing : VolumeMissing session calls) : Undisputed calls := by
  cases missing with
  | unrecorded => exact List.forall_mem_nil _
  | gone => exact List.forall_mem_singleton.mpr (by simp [looked?])

theorem VolumeSought.looked {found : String × Bool}
    (sought : VolumeSought session (.ok found) calls) : Undisputed calls := by
  cases sought with
  | kept => exact List.forall_mem_singleton.mpr (by simp [looked?])
  | created missing volume =>
    exact missing.looked.append (List.forall_mem_singleton.mpr (by simp [looked?]))

theorem GivenUp.looked {volume : String} {created : Bool}
    (givenUp : GivenUp volume created calls) : Undisputed calls := by
  cases givenUp with
  | kept => exact List.forall_mem_nil _
  | removed => exact List.forall_mem_singleton.mpr (by simp [looked?])

/-- **A preparation fails when it cannot tell whether something exists**; then it has only looked,
and the build is as it was. -/
theorem Prepared.disputed (prepared : Prepared build result calls after) (made : call ∈ calls)
    (failed : looked? call = some (probe, .error cause)) :
    (∃ resource, result = .error (.existenceCheckFailed resource probe.name cause)) ∧
      after = build ∧ ∀ call ∈ calls, (looked? call).isSome := by
  have launch (image volume : String) (answer : Except EngineError Handle) :
      Undisputed [⟨.launchAgent image volume, answer⟩] :=
    List.forall_mem_singleton.mpr (by simp [looked?])
  cases prepared with
  | kept recorded =>
    obtain rfl := List.mem_singleton.mp made
    cases failed
  | uncertain recorded cause =>
    obtain rfl := List.mem_singleton.mp made
    obtain ⟨rfl, same⟩ := Prod.mk.inj (Option.some.inj failed)
    obtain rfl := Except.error.inj same
    exact ⟨⟨_, rfl⟩, rfl, List.forall_mem_singleton.mpr rfl⟩
  | @noVolume checks search cause missing sought =>
    obtain ⟨undisputed, looks⟩ := missing.looked
    cases sought with
    | uncertain recorded cause =>
      rcases List.mem_append.mp made with here | here
      · exact absurd failed (undisputed call here _ _)
      · obtain rfl := List.mem_singleton.mp here
        obtain ⟨rfl, same⟩ := Prod.mk.inj (Option.some.inj failed)
        obtain rfl := Except.error.inj same
        exact ⟨⟨_, rfl⟩, rfl, List.forall_mem_append.mpr
          ⟨looks, List.forall_mem_singleton.mpr rfl⟩⟩
    | notCreated absent cause =>
      have creation : Undisputed [⟨.createVolume, .error cause⟩] :=
        List.forall_mem_singleton.mpr (by simp [looked?])
      have none := undisputed.append (absent.looked.append creation)
      exact absurd failed (none call made _ _)
  | launched missing sought handle =>
    refine absurd failed (missing.looked.1.append ?_ call made _ _)
    exact sought.looked.append (launch _ _ _)
  | notLaunched missing sought cause givenUp =>
    refine absurd failed (missing.looked.1.append ?_ call made _ _)
    exact sought.looked.append ((launch _ _ _).append givenUp.looked)

end Disputed

/-! ## Carrying out a preparation -/

section Carried

variable {driver : ByCommand}

theorem perform_kept {action : Action} (keeps : action.KeepsDriver) :
    Host.Ensures (Yard.perform action (some (.byCommand driver))) fun answer _ =>
      answer.2 = some (.byCommand driver) :=
  Yard.perform_stays (.inl keeps.ordinary)

/-- Whatever a call looks for, the driver goes by what one run says. -/
theorem attempt_looked (call : Call) :
    Attempt.Ensures (driver.attempt call) fun answer made =>
      ∀ probe found, looked? ⟨call, answer⟩ = some (probe, found) → probe.name ≠ "" →
        ∃ outcome, Probed driver probe outcome found made := by
  have told (probe : Probe) : Attempt.Ensures (probe.attempt driver) fun found made =>
      probe.name ≠ "" → ∃ outcome, Probed driver probe outcome found made := by
    intro trace value yields named
    exact ByCommand.attempt_probed named trace value yields
  cases call with
  | hasVolume name =>
    refine (told (.volume name)).mono fun answer made probed probe found same => ?_
    obtain ⟨rfl, rfl⟩ := Prod.mk.inj (Option.some.inj same)
    exact probed
  | hasContainer id =>
    refine (told (.container id)).mono fun answer made probed probe found same => ?_
    obtain ⟨rfl, rfl⟩ := Prod.mk.inj (Option.some.inj same)
    exact probed
  | hasImage name =>
    refine (told (.image name)).mono fun answer made probed probe found same => ?_
    obtain ⟨rfl, rfl⟩ := Prod.mk.inj (Option.some.inj same)
    exact probed
  | _ => exact fun _ _ _ _ _ looked => nomatch looked

/-- **A search is carried out by one run, and goes by what that says.** -/
theorem perform_looked (action : Action) :
    Host.Ensures (Yard.perform action (some (.byCommand driver))) fun answer made =>
      ∀ call probe found, CallMade.ofAction ⟨action, answer.1⟩ = some call →
        looked? call = some (probe, found) → probe.name ≠ "" →
          ∃ outcome, Probed driver probe outcome found made := by
  cases action with
  | engine call =>
    refine Program.ensures_bind.mpr (Program.ensures_bind.mpr ?_)
    refine (Driver.ensures_spanned.mpr (attempt_looked call)).mono fun answer made probed => ?_
    refine Program.ensures_pure.mpr (Program.ensures_pure.mpr fun made_call probe found same => ?_)
    obtain rfl := Option.some.inj same
    simpa only [List.append_nil] using probed probe found
  | _ => exact fun _ _ _ _ _ _ made => nomatch CallMade.question_of_ofAction made

end Carried

/-! ## What a failed search is taken for -/

/-- What the engine's program writes when it cannot reach the engine: its host has no address, or
its socket is not there. -/
inductive Unreachable : String → Prop where
  | host (name : String) :
      Unreachable ("error during connect: dial tcp: lookup " ++ name ++ ": no such host")
  | socket (path : String) :
      Unreachable ("dial unix " ++ path ++ ": connect: no such file or directory")

theorem Unreachable.denied {text rest : String} (unreachable : Unreachable text)
    {code : Option Int} {out err : Bytes} (failed : code ≠ some 0)
    (written : Bytes.textLossy err = text ++ rest) : Denied (.ended code out err) := by
  have lower : Text.fold "no such".toList = "no such".toList := by decide
  refine ⟨code, out, err, rfl, failed, .inl ?_⟩
  rw [written]
  cases unreachable with
  | host name =>
    have split : "error during connect: dial tcp: lookup " ++ name ++ ": no such host" ++ rest =
        "error during connect: dial tcp: lookup " ++ name ++ ": " ++ "no such" ++
          (" host" ++ rest) := by
      have last : ": no such host" = ": " ++ "no such" ++ " host" := by decide
      rw [last]
      simp only [String.append_assoc]
    rw [split]
    exact Text.mentions_of_occurs lower
  | socket path =>
    have split : "dial unix " ++ path ++ ": connect: no such file or directory" ++ rest =
        "dial unix " ++ path ++ ": connect: " ++ "no such" ++
          (" file or directory" ++ rest) := by
      have last : ": connect: no such file or directory" =
          ": connect: " ++ "no such" ++ " file or directory" := by decide
      rw [last]
      simp only [String.append_assoc]
    rw [split]
    exact Text.mentions_of_occurs lower

/-- What a preparation comes to that cannot tell whether something exists: it fails, it has only
looked, and the build is as it was. -/
def GivesUpLooking (build : Build) (probe : Probe) (result : Except ProvisionError Unit)
    (calls : List CallMade) (after : Build) : Prop :=
  (∃ resource cause, result = .error (.existenceCheckFailed resource probe.name cause)) ∧
    after = build ∧ ∀ call ∈ calls, (looked? call).isSome

/-- **A failed search is taken for a missing thing exactly if its errors mention one of two
phrases**, whatever the run was for. The program mentions the first of them also when it cannot
reach the engine. A preparation that is carried out by the command line and has a search that fails
without a mention fails with it, having created nothing. -/
theorem missing_iff_mentioned (driver : ByCommand) :
    (∀ probe : Probe, probe.name ≠ "" →
      Attempt.Ensures (probe.attempt driver) fun found made =>
        ∃ outcome, Probed driver probe outcome found made) ∧
    (∀ text, Unreachable text → ∀ code out err rest, code ≠ some 0 →
      Bytes.textLossy err = text ++ rest → Denied (.ended code out err)) ∧
    ∀ build relays last result after,
      Program.Relayed Yard.perform (some (.byCommand driver)) relays last →
      (prepareAgent.runOn build).Yields (relays.map (·.exchange)) (result, after) →
      ∀ relay ∈ relays, ∀ call probe found, CallMade.ofAction relay.exchange = some call →
        looked? call = some (probe, found) → probe.name ≠ "" →
        ∃ outcome, Probed driver probe outcome found (requests relay.asked) ∧
          ((∀ out err, outcome ≠ .ended (some 0) out err) → ¬Denied outcome →
            GivesUpLooking build probe result (callsMade (relays.map (·.exchange))) after) := by
  refine ⟨fun probe named => ByCommand.attempt_probed named, ?_, ?_⟩
  · intro text unreachable code out err rest failed written
    exact unreachable.denied failed written
  · intro build relays last result after relayed yields relay member call probe found made looked
      named
    have asks := ((prepareAgent_asks build).mono fun _ => Action.Prepares.keepsDriver).forall_mem
      yields
    have kept := relayed.keeps_among (· = some (.byCommand driver)) Action.KeepsDriver
      (fun _ _ _ _ _ keeps same yields => by subst same; exact perform_kept keeps _ _ yields) rfl
      fun relay member => asks _ (List.mem_map_of_mem member)
    obtain ⟨_, _, rfl, carried⟩ := kept.2 relay member
    obtain ⟨outcome, probed⟩ := perform_looked _ _ _ carried call probe found made looked named
    refine ⟨outcome, probed, fun unsuccessful undenied => ?_⟩
    have prepared := prepareAgent_prepared build _ _ yields
    have here : call ∈ callsMade (relays.map (·.exchange)) :=
      List.mem_filterMap.mpr ⟨_, List.mem_map_of_mem member, made⟩
    rcases found with cause | _ | _
    · obtain ⟨⟨resource, failed⟩, same, looks⟩ := prepared.disputed here looked
      exact ⟨⟨resource, cause, failed⟩, same, looks⟩
    · exact absurd (probed.denied.mp rfl) undenied
    · obtain ⟨out, err, successful⟩ := probed.found.mp rfl
      exact absurd successful (unsuccessful out err)

/-! ## An engine that is out of reach for a while -/

/-- An engine's program that writes `text` to its errors when something is looked for, as if the
engine could not be reached then, and works otherwise. -/
def cutOff (text : String) : (ask : Host.Ask) → Unit → ask.Answer × Unit
  | .invoke invocation _, now =>
    (if invocation.arguments.contains "inspect" then .ended (some 1) [] (Bytes.ofString text)
      else .ended (some 0) (Bytes.ofString "new") [], now)
  | ask, now => (Relay.answer ask .null, now)

/-- What an earlier build left: an agent and its volume. -/
def leftAgent : CarryOver :=
  { agent := some { image := "jenkinsci/slave", id := "c1" }, volume := some "vol" }

/-- A preparation that finds the engine out of reach when it looks for its agent. -/
def preparedCutOff (text : String) : List Carried × (Except ProvisionError Unit × Build) ×
    Option Driver × Unit :=
  (prepareAgent.runOn (fresh oneSidecar {} leftAgent ".")).relay Yard.perform (cutOff text)
    (some (.byCommand { program := "docker", endpoint := {}, agent := {} })) ()

/-- The searches of a preparation, each with the answer. -/
def searches
    (prepared : List Carried × (Except ProvisionError Unit × Build) × Option Driver × Unit) :
    List (Probe × Except EngineError Bool) :=
  prepared.1.filterMap fun carried => (CallMade.ofAction carried.exchange).bind looked?

/-- A connection that is refused is no denial: the preparation fails and has only looked. -/
theorem missing_iff_mentioned_refused :
    searches (preparedCutOff "Cannot connect to the Docker daemon") =
        [(.container "c1", .error (.cli "inspect" "Cannot connect to the Docker daemon"))] ∧
      GivesUpLooking (fresh oneSidecar {} leftAgent ".") (.container "c1")
        (preparedCutOff "Cannot connect to the Docker daemon").2.1.1
        (callsMade ((preparedCutOff "Cannot connect to the Docker daemon").1.map (·.exchange)))
        (preparedCutOff "Cannot connect to the Docker daemon").2.1.2 := by
  have searched : searches (preparedCutOff "Cannot connect to the Docker daemon") =
      [(.container "c1", .error (.cli "inspect" "Cannot connect to the Docker daemon"))] := by
    decide +kernel
  refine ⟨searched, ?_⟩
  obtain ⟨relay, member, looked⟩ := List.mem_filterMap.mp (searched ▸ List.mem_singleton_self _)
  obtain ⟨call, made, looked⟩ := Option.bind_eq_some_iff.mp looked
  obtain ⟨relayed, yields⟩ := Program.relayed_relay Yard.perform
    (cutOff "Cannot connect to the Docker daemon")
    (prepareAgent.runOn (fresh oneSidecar {} leftAgent ".")) _ ()
  obtain ⟨outcome, probed, gives_up⟩ := (missing_iff_mentioned _).2.2 _ _ _ _ _ relayed yields
    relay member call _ _ made looked (by decide)
  refine gives_up (fun out err successful => ?_) fun denied => ?_
  · cases probed.found.mpr ⟨out, err, successful⟩
  · cases probed.denied.mpr denied

/-- **An agent is replaced because its host has no address for a while.** The search for it and
for its volume fail, and are taken for a no: another volume and another agent are created. -/
theorem unreachable_agent_replaced :
    Unreachable "error during connect: dial tcp: lookup builder: no such host" ∧
      searches (preparedCutOff "error during connect: dial tcp: lookup builder: no such host") =
        [(.container "c1", .ok false), (.volume "vol", .ok false)] ∧
      (preparedCutOff "error during connect: dial tcp: lookup builder: no such host").2.1.1 =
        .ok () ∧
      (preparedCutOff
          "error during connect: dial tcp: lookup builder: no such host").2.1.2.session.carryOver =
        { agent := some { image := "jenkinsci/slave", id := "new" }, volume := some "new" } :=
  ⟨.host "builder", by decide +kernel, by decide +kernel, by decide +kernel⟩

end Build

end BuildYard
