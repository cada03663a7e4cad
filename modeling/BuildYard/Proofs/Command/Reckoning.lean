import BuildYard.Command.Invoke
import BuildYard.Proofs.Command.Clearance
import BuildYard.Proofs.Command.Executions

/-!
# The exit code of a call

A call that is to run a build ends with the exit code of the last command that
was executed, if that code is a byte, the build was cleared away, and what it
leaves was written down; it ends with 1 otherwise (`exit_code_reckoned`). So it
ends with 0 only if every command of the plan was executed and ended with 0, and
nothing failed after that.

The way there follows the text: the commands beside an agent, the clearing away,
the record for the next build, and what all of them come to (`Settles`). What is
done before and after the commands is no execution and attaches no agent, so
that both can be read off all that was done.
-/

set_option autoImplicit false

namespace BuildYard

/-! ## What is neither executed nor attached -/

/-- Anything but a process in a container and the attachment of an agent. -/
def Action.Apart : Action → Prop
  | .engine (.exec _ _) | .engine (.attachAgent _ _) => False
  | _ => True

namespace Action

variable {action : Action}

theorem Apart.not_executes (apart : action.Apart) : ¬ action.Executes := by
  cases action with
  | engine call => cases call <;> first | exact id | exact apart.elim
  | _ => exact id

theorem Prepares.apart (prepares : action.Prepares) : action.Apart := by
  cases action with
  | engine call => cases call <;> trivial
  | _ => trivial

theorem Opens.apart (opens : action.Opens) : action.Apart := by
  cases action with
  | engine call => cases call <;> trivial
  | _ => trivial

theorem Opens.not_writes (opens : action.Opens) : ¬ action.Writes := by
  cases action with
  | writeFile path text => exact opens.elim
  | _ => exact id

theorem ClearsAway.not_writes (clears : action.ClearsAway) : ¬ action.Writes := by
  cases action with
  | writeFile path text => exact clears.elim
  | _ => exact id

theorem ClearsAway.apart (clears : action.ClearsAway) : action.Apart := by
  cases action with
  | engine call => cases call <;> trivial
  | _ => trivial

end Action

section Apart

variable {deed : Deed} {front made back : List Deed}

theorem attached?_eq_none (apart : deed.question.Apart) : Deed.attached? deed = none := by
  obtain ⟨action, answer⟩ := deed
  cases action with
  | engine call => cases call <;> first | rfl | exact apart.elim
  | _ => rfl

theorem started?_eq_none_of_not_executes (other : ¬ deed.question.Executes) : Deed.started? deed = none := by
  obtain ⟨action, answer⟩ := deed
  cases action with
  | engine call => cases call <;> first | rfl | exact absurd trivial other
  | _ => rfl

theorem awaited_of_not_executes (others : ∀ deed ∈ made, ¬ deed.question.Executes) : Awaited made :=
  awaited_of_none fun deed member => started?_eq_none_of_not_executes (others deed member)

/-- What is done before and after executions does not change them. -/
theorem execsOf_around (before : ∀ deed ∈ front, ¬ deed.question.Executes) (awaited : Awaited made)
    (after : ∀ deed ∈ back, ¬ deed.question.Executes) :
    execsOf (front ++ (made ++ back)) = execsOf made := by
  rw [execsOf_append (awaited_of_not_executes before), execsOf_append awaited,
    execsOf_of_none before, execsOf_of_none after, List.nil_append, List.append_nil]

end Apart

namespace Command

open Build (Turn Does Onward fresh)

/-! ## The agent beside the commands -/

/-- How the commands of a plan come out: without an agent none is executed, and with one they are
carried out in their order. -/
inductive Attended (plan : Plan) : Except Failure Int → List Deed → Build → Prop where
  | alone {failure : Failure} {made : List Deed} {after : Build}
      (unattached : ∀ deed ∈ made, Deed.attached? deed = none) (unexecuted : execsOf made = []) :
      Attended plan (.error failure) made after
  | beside {outcome : Except Failure Int} {made : List Deed} {after : Build} {deed : Deed}
      {process : Running} (member : deed ∈ made) (attached : Deed.attached? deed = some process)
      (followed : Followed after (plan.commands after.declared.environment) (execsOf made) outcome) :
      Attended plan outcome made after

section Attended

variable {plan : Plan} {made ran : List Deed} {after : Build}

theorem Attended.of_apart {failure : Failure} (apart : ∀ deed ∈ made, deed.question.Apart) :
    Attended plan (.error failure) made after :=
  .alone (fun deed member => attached?_eq_none (apart deed member))
    (execsOf_of_none fun deed member => (apart deed member).not_executes)

/-- Neither the attachment of an agent nor its release is an execution. -/
theorem Attended.around {outcome : Except Failure Int} {handle : Handle} {process left : Running}
    {stopped : Bool} {answer : Except EngineError Int}
    (apart : ∀ deed ∈ made, deed.question.Apart) (awaited : Awaited ran)
    (followed : Followed after (plan.commands after.declared.environment) (execsOf ran) outcome) :
    Attended plan outcome (made ++ ([⟨.engine (.attachAgent handle none), .ok process⟩] ++
      (ran ++ [⟨.stop process, (stopped, left)⟩, ⟨.wait left, answer⟩]))) after := by
  have before : ∀ deed ∈ made ++ [(⟨.engine (.attachAgent handle none), .ok process⟩ : Deed)],
      ¬ deed.question.Executes := by
    refine List.forall_mem_append.mpr ⟨fun deed member => ?_, List.forall_mem_singleton.mpr id⟩
    exact (apart deed member).not_executes
  have release : ∀ deed ∈ ([⟨.stop process, (stopped, left)⟩, ⟨.wait left, answer⟩] : List Deed),
      ¬ deed.question.Executes :=
    List.forall_mem_cons.mpr ⟨id, List.forall_mem_singleton.mpr id⟩
  have execs := execsOf_around before awaited release
  rw [List.append_assoc] at execs
  have member : (⟨.engine (.attachAgent handle none), .ok process⟩ : Deed) ∈
      made ++ ([⟨.engine (.attachAgent handle none), .ok process⟩] ++
        (ran ++ [⟨.stop process, (stopped, left)⟩, ⟨.wait left, answer⟩])) :=
    List.mem_append_right _ List.mem_cons_self
  refine .beside member rfl ?_
  rw [execs]
  exact followed

end Attended

theorem prepareAgent_onward {build : Build} (orderly : build.Orderly) :
    Does Build.prepareAgent build fun _ _ after => after.Orderly ∧
      after.session.phase = build.session.phase ∧ after.declared = build.declared := by
  refine (Build.prepareAgent_prepared build).does.mono fun result made after prepared => ?_
  have moves := prepared.moves
  exact ⟨moves.orderly orderly, moves.sameFrame.phase, moves.sameFrame.declared⟩

theorem attachAgent_recorded (build : Build) :
    Does (Build.attachAgent none) build fun result _ after => after = build ∧
      ∀ process, result = .ok process → ∃ beside, build.session.agent = some beside := by
  refine (Build.attachAgent_attached build none).does.mono ?_
  rintro result made after ⟨rfl, attached⟩
  refine ⟨rfl, fun process succeeded => ?_⟩
  generalize callsMade made = calls at attached
  cases attached with
  | notPrepared => cases succeeded
  | called recorded => exact ⟨_, recorded⟩

/-- **The commands of a plan are attended to.** -/
theorem runWithAgent_attended (plan : Plan) {build : Build} (orderly : build.Orderly)
    (phase : build.session.phase = .preCheckout) :
    Does (runWithAgent plan) build fun result made after =>
      Attended plan result made after ∧ after.declared = build.declared := by
  refine does_ofOperation_bind ((prepareAgent_onward orderly).and (prepareAgent_does build)) ?_ ?_
  · rintro _ made prepared ⟨⟨orderly, same, declared⟩, -, prepares⟩
    have apart : ∀ deed ∈ made, deed.question.Apart := fun deed member =>
      (prepares deed member).apart
    refine does_ofOperation_bind ((attachAgent_recorded prepared).and (does_attachAgent prepared)) ?_ ?_
    · rintro process _ prepared ⟨⟨rfl, recorded⟩, -, ⟨-, cause, failed⟩ | ⟨handle, answer, rfl, came⟩⟩
      · cases failed
      · obtain rfl := eq_ok_of_mapError came
        obtain ⟨beside, recorded⟩ := recorded process rfl
        have phases : Work.Does ((runPhases plan).run.run prepared) fun last made =>
            Onward beside prepared last.2 ∧ Awaited made ∧
              Followed last.2 (plan.commands prepared.declared.environment) (execsOf made) last.1 :=
          runPhases_followed plan orderly recorded (same.trans phase)
        refine Build.does_bind.mpr (Build.does_lift.mpr (phases.mono ?_))
        rintro ⟨outcome, last⟩ ran ⟨onward, awaited, followed⟩
        refine Build.does_bind.mpr (does_ofDuty.mpr ((does_detach process).mono ?_))
        rintro _ _ ⟨rfl, stopped, left, answer, rfl⟩
        have followed : Followed last (plan.commands last.declared.environment) (execsOf ran)
            outcome := onward.declared.symm ▸ followed
        have attended : Attended plan outcome (made ++
            ([⟨.engine (.attachAgent handle none), .ok process⟩] ++
              (ran ++ [⟨.stop process, (stopped, left)⟩, ⟨.wait left, answer⟩]))) last :=
          .around apart awaited followed
        have declared := onward.declared.trans declared
        cases outcome with
        | ok code => exact Build.does_pure.mpr ⟨by simpa using attended, declared⟩
        | error failure => exact Build.does_throw.mpr ⟨by simpa using attended, declared⟩
    · rintro cause _ _ ⟨⟨rfl, -⟩, -, ⟨rfl, -⟩ | ⟨handle, answer, rfl, came⟩⟩
      · rw [List.append_nil]
        exact ⟨.of_apart apart, declared⟩
      · obtain ⟨failure, rfl⟩ := eq_error_of_mapError came
        refine ⟨.alone ?_ (execsOf_of_none ?_), declared⟩
        · refine List.forall_mem_append.mpr ⟨fun deed member => ?_, List.forall_mem_singleton.mpr rfl⟩
          exact attached?_eq_none (apart deed member)
        · refine List.forall_mem_append.mpr ⟨fun deed member => ?_, List.forall_mem_singleton.mpr id⟩
          exact (apart deed member).not_executes
  · rintro cause made after ⟨⟨-, -, declared⟩, -, prepares⟩
    exact ⟨.of_apart fun deed member => (prepares deed member).apart, declared⟩

/-! ## What all comes to -/

/-- What a build leaves was written down, if a file is named for it. -/
def Wrote (state : Option String) (made : List Deed) : Prop :=
  ∀ path, state = some path → ∃ text, ⟨.writeFile path text, .ok ()⟩ ∈ made

section Wrote

variable {state : Option String} {front made back : List Deed}

theorem wrote_append_iff_right (unwritten : ∀ deed ∈ front, ¬ deed.question.Writes) :
    Wrote state (front ++ made) ↔ Wrote state made := by
  refine forall₂_congr fun path named => exists_congr fun text => ?_
  rw [List.mem_append]
  exact or_iff_right fun member => unwritten _ member trivial

theorem wrote_append_iff_left (unwritten : ∀ deed ∈ back, ¬ deed.question.Writes) :
    Wrote state (made ++ back) ↔ Wrote state made := by
  refine forall₂_congr fun path named => exists_congr fun text => ?_
  rw [List.mem_append]
  exact or_iff_left fun member => unwritten _ member trivial

end Wrote

/-- **What a build comes to.** If its commands come to an exit code and nothing fails after them,
it is theirs, or 1 for one that is no byte; otherwise it is a failure. -/
inductive Settles (outcome : Except Failure Int) (cleaned : Except ProvisionError Unit)
    (written : Prop) : Except Failure Nat → Prop where
  | exits {code : Int} (exited : outcome = .ok code) (cleared : cleaned = .ok ())
      (kept : written) : Settles outcome cleaned written (.ok (exitCode code))
  | fails {failure : Failure} (short : ¬ ((∃ code, outcome = .ok code) ∧ cleaned = .ok () ∧ written)) :
      Settles outcome cleaned written (.error failure)

theorem settleOutcome_settles (outcome : Except Failure Int) (cleaned : Except ProvisionError Unit)
    {written : Prop} (kept : written) :
    Work.Does (settleOutcome outcome cleaned).run fun result made =>
      made = [] ∧ Settles outcome cleaned written result := by
  have spoilt {cleaned : Except ProvisionError Unit} {failure : Failure} :
      ¬ ((∃ code, (.error failure : Except Failure Int) = .ok code) ∧ cleaned = .ok () ∧ written) := by
    rintro ⟨⟨code, same⟩, -⟩
    cases same
  rcases outcome with failure | code <;> rcases cleaned with cleanup | ⟨⟩
  · refine Program.ensures_andThen.mpr (does_tell.mpr (Program.ensures_throw.mpr ⟨rfl, ?_⟩))
    exact .fails spoilt
  · exact Program.ensures_throw.mpr ⟨rfl, .fails spoilt⟩
  · refine Program.ensures_throw.mpr ⟨rfl, .fails ?_⟩
    rintro ⟨-, same, -⟩
    cases same
  · exact Program.ensures_ok.mpr ⟨rfl, .exits rfl rfl kept⟩

/-- Once a build was cleared away, what it leaves is written down before anything else. -/
theorem kept_settles (state : Option String) (left : CarryOver) (outcome : Except Failure Int)
    (cleaned : Except ProvisionError Unit) :
    Work.Does (do
        match state with
        | some path => writeLeft path left
        | none => pure ()
        settleOutcome outcome cleaned : Duty Nat).run fun result made =>
      (∀ deed ∈ made, deed.question.Apart) ∧ Settles outcome cleaned (Wrote state made) result := by
  cases state with
  | none =>
    have nowhere : Wrote none [] := fun _ => nofun
    refine (settleOutcome_settles outcome cleaned nowhere).mono ?_
    rintro result _ ⟨rfl, settles⟩
    exact ⟨List.forall_mem_nil _, settles⟩
  | some path =>
    have writes : Work.Does (writeLeft path left).run fun result made => ∃ answer,
        made = [⟨.writeFile path left.toJson.pretty, answer⟩] ∧
          (result = .ok () ↔ answer = .ok ()) := by
      refine does_attemptTo.mpr ((Program.ensures_question rfl).mpr fun answer => ⟨answer, rfl, ?_⟩)
      cases answer with
      | ok done => exact iff_of_true rfl rfl
      | error cause => exact ⟨nofun, nofun⟩
    refine Program.ensures_andThen.mpr (writes.mono ?_)
    rintro result _ ⟨answer, rfl, same⟩
    have apart : ∀ deed ∈ ([⟨.writeFile path left.toJson.pretty, answer⟩] : List Deed),
        deed.question.Apart := List.forall_mem_singleton.mpr trivial
    cases result with
    | error failure =>
      refine ⟨apart, .fails ?_⟩
      rintro ⟨-, -, wrote⟩
      obtain ⟨text, member⟩ := wrote path rfl
      cases List.mem_singleton.mp member
      cases same.mpr rfl
    | ok done =>
      obtain rfl := same.mp rfl
      have wrote : Wrote (some path) [⟨.writeFile path left.toJson.pretty, .ok ()⟩] := by
        rintro _ ⟨⟩
        exact ⟨_, List.mem_singleton_self _⟩
      refine (settleOutcome_settles outcome cleaned wrote).mono ?_
      rintro result _ ⟨rfl, settles⟩
      exact ⟨apart, settles⟩

/-! ## From end to end -/

/-- What was looked at declares a container set: it is that of the text in the file named for it. -/
def Declares (order : BuildOrder) (looked : List Deed) (declared : ContainerSet) : Prop :=
  ∀ files, (∀ deed ∈ looked, Agrees files deed) →
    ∃ text, Holds files order.spec text ∧ ContainerSet.ofText order.spec text = .ok declared

/-- What was declared by some of what was looked at is declared by all of it. -/
theorem Declares.mono {order : BuildOrder} {some all : List Deed} {declared : ContainerSet}
    (declares : Declares order some declared) (among : ∀ deed ∈ some, deed ∈ all) :
    Declares order all declared :=
  fun files agrees => declares files fun deed member => agrees deed (among deed member)

/-- **How an order comes out.** Either no build began; or one did, its commands were attended to,
then it was cleared away, and what that came to is what the order comes to. -/
inductive Concluded (order : BuildOrder) : Except Failure Nat → List Deed → Prop where
  | unbegun {failure : Failure} {made : List Deed} (apart : ∀ deed ∈ made, deed.question.Apart) :
      Concluded order (.error failure) made
  | begun {plan : Plan} {outcome : Except Failure Int} {clearing : Turn}
      {front ran back : List Deed} {result : Except Failure Nat}
      (planned : Plan.ofOrder order = .ok plan) (opens : ∀ deed ∈ front, deed.question.Opens)
      (declares : Declares order front clearing.before.declared)
      (awaited : Awaited ran) (unwritten : ∀ deed ∈ ran, ¬ deed.question.Writes)
      (attended : Attended plan outcome ran clearing.before) (happens : clearing.Happens)
      (request : clearing.request = .clean)
      (clears : ∀ deed ∈ deedsOf clearing.trace, deed.question.ClearsAway)
      (apart : ∀ deed ∈ back, deed.question.Apart)
      (settles : Settles outcome clearing.result (Wrote order.state back) result) :
      Concluded order result (front ++ (ran ++ (deedsOf clearing.trace ++ back)))

/-- What is told of the commands of a plan: with which build they began, what they came to, what was
done, and what the build became. -/
abbrev Attending :=
  Plan → Build → Except Failure Int → List Deed → Build → Prop

/-- **How an order is gone through.** Either no build began, or one did: then `attends` holds of its
commands, it was cleared away, and what that came to is what the order comes to. -/
inductive Undergone (attends : Attending) (order : BuildOrder) :
    Except Failure Nat → List Deed → Prop where
  | unbegun {failure : Failure} {made : List Deed} (opens : ∀ deed ∈ made, deed.question.Opens) :
      Undergone attends order (.error failure) made
  | begun {plan : Plan} {start : Build} {outcome : Except Failure Int} {clearing : Turn}
      {front ran back : List Deed} {result : Except Failure Nat}
      (planned : Plan.ofOrder order = .ok plan) (opens : ∀ deed ∈ front, deed.question.Opens)
      (declares : Declares order front start.declared)
      (attended : attends plan start outcome ran clearing.before) (happens : clearing.Happens)
      (request : clearing.request = .clean)
      (clears : ∀ deed ∈ deedsOf clearing.trace, deed.question.ClearsAway)
      (apart : ∀ deed ∈ back, deed.question.Apart)
      (settles : Settles outcome clearing.result (Wrote order.state back) result) :
      Undergone attends order result (front ++ (ran ++ (deedsOf clearing.trace ++ back)))

section Undergone

variable {attends : Attending} {order : BuildOrder} {result : Except Failure Nat}
  {front made : List Deed}

theorem Undergone.after (undergone : Undergone attends order result made)
    (opens : ∀ deed ∈ front, deed.question.Opens) :
    Undergone attends order result (front ++ made) := by
  cases undergone with
  | unbegun later => exact .unbegun (List.forall_mem_append.mpr ⟨opens, later⟩)
  | begun planned later declares attended happens request clears apart settles =>
    rw [← List.append_assoc]
    exact .begun planned (List.forall_mem_append.mpr ⟨opens, later⟩)
      (declares.mono fun deed member => List.mem_append_right front member) attended happens request
      clears apart settles

variable (each : ∀ plan build, build.Orderly → build.session.phase = .preCheckout →
  Does (runWithAgent plan) build (attends plan build))

include each

/-- **From its beginning on a build is conducted to what it comes to.** -/
theorem conduct_undergone (context : Context) {plan : Plan} {declared : ContainerSet}
    (declares : Declares order front declared) (left : CarryOver)
    (planned : Plan.ofOrder order = .ok plan) (opens : ∀ deed ∈ front, deed.question.Opens)
    (state : Option String) (named : order.state = state) :
    Work.Does (do
        let (outcome, build) ← Duty.ofWork
          ((runWithAgent plan).run.run (fresh declared context.settings left order.workspace))
        let (cleaned, build) ← Duty.ofWork (Build.clean.runOn build)
        match state with
        | some path => writeLeft path build.session.carryOver
        | none => pure ()
        settleOutcome outcome cleaned : Duty Nat).run fun result made =>
      Undergone attends order result (front ++ made) := by
  subst named
  have attended := each plan _ (Build.fresh_orderly declared context.settings left order.workspace) rfl
  refine Program.ensures_lift_andThen.mpr (Program.Ensures.mono attended ?_)
  rintro ⟨outcome, middle⟩ ran attended
  have clears : Does Build.clean middle fun _ made _ => ∀ deed ∈ made, deed.question.ClearsAway :=
    Build.clean_asks.does
  have cleans := Program.Ensures.and (Build.does_request .clean) clears
  refine Program.ensures_lift_andThen.mpr (Program.Ensures.mono cleans ?_)
  rintro ⟨cleaned, after⟩ _ ⟨⟨clearing, happens, request, rfl, rfl, rfl, rfl⟩, clears⟩
  refine (kept_settles order.state _ outcome clearing.result).mono ?_
  rintro result back ⟨apart, settles⟩
  exact .begun planned opens declares attended happens request clears apart settles

/-- What comes of an order once files have been looked at. -/
theorem engine_undergone (context : Context) {plan : Plan} {declared : ContainerSet}
    (declares : Declares order front declared) (left : CarryOver)
    (planned : Plan.ofOrder order = .ok plan) (opens : ∀ deed ∈ front, deed.question.Opens)
    (state : Option String) (named : order.state = state) :
    Work.Does (do
        context.connect
        let build ← Duty.attempt ProvisionError.chain
          (Build.begin declared (Session.ofCarryOver left) context.settings)
        let (outcome, build) ← Duty.ofWork
          ((runWithAgent plan).run.run { build with workspace := order.workspace })
        let (cleaned, build) ← Duty.ofWork (Build.clean.runOn build)
        match state with
        | some path => writeLeft path build.session.carryOver
        | none => pure ()
        settleOutcome outcome cleaned : Duty Nat).run fun result made =>
      Undergone attends order result (front ++ made) := by
  have opening {more : List Deed} (more_opens : ∀ deed ∈ more, deed.question.Opens) :
      ∀ deed ∈ front ++ more, deed.question.Opens :=
    List.forall_mem_append.mpr ⟨opens, more_opens⟩
  have connects : Work.Does (Work.act (.connect context.driverKind context.settings))
      fun _ made => ∀ deed ∈ made, deed.question.Opens :=
    (Program.ensures_question rfl).mpr fun answer => List.forall_mem_singleton.mpr trivial
  refine does_attempt_andThen connects ?_ ?_
  · intro _ connected connecting
    refine does_attempt_andThen (begin_does declared _ context.settings) ?_ ?_
    · rintro build made (⟨version, rfl, began⟩ | ⟨_, _, -, failed⟩)
      · obtain rfl := Except.ok.inj began
        have answered : ∀ deed ∈ ([⟨.engine .serverVersion, .ok version⟩] : List Deed),
            deed.question.Opens := List.forall_mem_singleton.mpr trivial
        have begun := opening (List.forall_mem_append.mpr ⟨connecting, answered⟩)
        have declares := declares.mono fun deed member => List.mem_append_left
          (connected ++ [⟨.engine .serverVersion, .ok version⟩]) member
        refine (conduct_undergone each context declares left planned begun state named).mono ?_
        intro result made undergone
        simpa using undergone
      · cases failed
    · rintro cause made (⟨version, -, began⟩ | ⟨_, failure, rfl, -⟩)
      · cases began
      · refine .unbegun (opening (List.forall_mem_append.mpr ⟨connecting, ?_⟩))
        exact List.forall_mem_singleton.mpr trivial
  · exact fun cause connected connecting => .unbegun (opening connecting)

/-- **Every order is gone through so.** -/
theorem runBuild_undergone (context : Context) :
    Work.Does (runBuild context order).run (Undergone attends order) := by
  have reads : (ContainerSet.ofFile order.spec).Does fun result made => ∀ files,
      Looked files (fun declared => ∃ text, Holds files order.spec text ∧
        ContainerSet.ofText order.spec text = .ok declared) result made :=
    fun trace value yields files => ofFile_looked files order.spec trace value yields
  refine Work.does_within.mpr (does_attempt_andThen reads ?_ ?_)
  · intro declared spec learned
    have looked := learned fun _ => none
    have declares : Declares order spec declared := fun files agrees =>
      (learned files).learned declared rfl agrees
    have early : ∀ deed ∈ spec, deed.question.Opens := fun deed member =>
      (looked.looks deed member).opens
    cases planned : Plan.ofOrder order with
    | error failure =>
      refine Program.ensures_andThen.mpr (Program.ensures_throw.mpr (.unbegun ?_))
      rwa [List.append_nil]
    | ok plan =>
      refine Program.ensures_andThen.mpr (Program.ensures_ok.mpr ?_)
      have opens {record : List Deed} (looks : ∀ deed ∈ record, deed.question.Looks) :
          ∀ deed ∈ spec ++ record, deed.question.Opens :=
        List.forall_mem_append.mpr ⟨early, fun deed member => (looks deed member).opens⟩
      cases state : order.state with
      | none =>
        refine Program.ensures_andThen.mpr ((state_looked (fun _ => none) none).mono ?_)
        rintro (failure | left) record looked'
        · exact .unbegun (opens looked'.looks)
        · have rest := engine_undergone each context (declares.mono fun deed member =>
            List.mem_append_left record member) left planned (opens looked'.looks) none state
          refine rest.mono fun result made undergone => ?_
          rwa [List.append_assoc] at undergone
      | some path =>
        refine Program.ensures_andThen.mpr ((state_looked (fun _ => none) (some path)).mono ?_)
        rintro (failure | left) record looked'
        · exact .unbegun (opens looked'.looks)
        · have rest := engine_undergone each context (declares.mono fun deed member =>
            List.mem_append_left record member) left planned (opens looked'.looks) (some path) state
          refine rest.mono fun result made undergone => ?_
          rwa [List.append_assoc] at undergone
  · exact fun cause made learned => .unbegun fun deed member =>
      ((learned fun _ => none).looks deed member).opens

end Undergone

/-- The commands of a plan are attended to, and the build is tended. -/
def Attends : Attending := fun plan start outcome made after =>
  (Attended plan outcome made after ∧ after.declared = start.declared) ∧ Tended start made after

theorem runWithAgent_attends (plan : Plan) (build : Build) (orderly : build.Orderly)
    (phase : build.session.phase = .preCheckout) :
    Does (runWithAgent plan) build (Attends plan build) :=
  (runWithAgent_attended plan orderly phase).and (runWithAgent_tended plan build)

theorem Undergone.concluded {order : BuildOrder} {result : Except Failure Nat} {made : List Deed}
    (undergone : Undergone Attends order result made) : Concluded order result made := by
  cases undergone with
  | unbegun opens => exact .unbegun fun deed member => (opens deed member).apart
  | begun planned opens declares attended happens request clears apart settles =>
    obtain ⟨⟨attended, same⟩, tended⟩ := attended
    exact .begun planned opens (same ▸ declares) tended.awaited tended.unwritten attended happens
      request clears apart settles

/-! ## The exit code -/

theorem exitCode_of_byte {code : Int} (byte : 0 ≤ code ∧ code ≤ 255) :
    (exitCode code : Int) = code := by
  rw [exitCode, if_pos (by simpa using byte)]
  exact Int.toNat_of_nonneg byte.1

theorem exitCode_of_other {code : Int} (other : ¬ (0 ≤ code ∧ code ≤ 255)) : exitCode code = 1 := by
  rw [exitCode, if_neg (by simpa using other)]

/-- The exit code that a call ends with. -/
def exitOf : Except Failure Nat → Nat
  | .ok code => code
  | .error _ => 1

/-- **What the exit code of a call tells**, when its build had an agent. The commands of the plan
were carried out up to `outcome`, then `clearing` cleared the build away. -/
structure Reckoned (order : BuildOrder) (plan : Plan) (clearing : Turn)
    (outcome : Except Failure Int) (made : List Deed) (code : Nat) : Prop where
  planned : Plan.ofOrder order = .ok plan
  awaited : Awaited made
  attached : ∃ deed ∈ made, (Deed.attached? deed).isSome
  cleared : clearing.Happens ∧ clearing.request = .clean ∧ deedsOf clearing.trace <:+: made
  followed : Followed clearing.before (plan.commands clearing.before.declared.environment)
    (execsOf made) outcome
  exits : ∀ last, outcome = .ok last → clearing.result = .ok () → Wrote order.state made →
    (0 ≤ last ∧ last ≤ 255 → (code : Int) = last) ∧ (¬ (0 ≤ last ∧ last ≤ 255) → code = 1)
  fails : ¬ ((∃ last, outcome = .ok last) ∧ clearing.result = .ok () ∧ Wrote order.state made) →
    code = 1

/-- **The exit code 0 tells that all went well.** -/
theorem Reckoned.zero {order : BuildOrder} {plan : Plan} {clearing : Turn}
    {outcome : Except Failure Int} {made : List Deed}
    (reckoned : Reckoned order plan clearing outcome made 0) :
    clearing.result = .ok () ∧ Wrote order.state made ∧
      List.Forall₂ (Succeeded clearing.before.session)
        (plan.commands clearing.before.declared.environment) (execsOf made) := by
  have well : (∃ last, outcome = .ok last) ∧ clearing.result = .ok () ∧ Wrote order.state made := by
    by_contra short
    cases reckoned.fails short
  obtain ⟨⟨last, rfl⟩, cleared, wrote⟩ := well
  obtain ⟨byte, other⟩ := reckoned.exits last rfl cleared wrote
  have zero : last = 0 := by
    by_cases small : 0 ≤ last ∧ last ≤ 255
    · exact (byte small).symm
    · cases other small
  subst zero
  refine ⟨cleared, wrote, ?_⟩
  have followed := reckoned.followed
  generalize plan.commands clearing.before.declared.environment = commands at followed ⊢
  generalize execsOf made = execs at followed ⊢
  cases followed with
  | upTo succeeded undertaken whole =>
    obtain rfl := whole rfl
    obtain ⟨exec, rfl, last⟩ := undertaken.succeeded
    exact List.rel_append succeeded (.cons last .nil)

section Concluded

variable {order : BuildOrder} {result : Except Failure Nat} {made told : List Deed}

/-- A call that had no agent attached executed no command and failed; the exit code of any other is
reckoned. -/
theorem Concluded.reckoned (concluded : Concluded order result made)
    (apart : ∀ deed ∈ told, deed.question.Apart)
    (unwritten : ∀ deed ∈ told, ¬ deed.question.Writes) :
    ((∀ deed ∈ made ++ told, Deed.attached? deed = none) ∧ execsOf (made ++ told) = [] ∧
        exitOf result = 1) ∨
      ∃ plan clearing outcome,
        Reckoned order plan clearing outcome (made ++ told) (exitOf result) := by
  cases concluded with
  | unbegun early =>
    have all := List.forall_mem_append.mpr ⟨early, apart⟩
    refine .inl ⟨fun deed member => attached?_eq_none (all deed member), ?_, rfl⟩
    exact execsOf_of_none fun deed member => (all deed member).not_executes
  | @begun plan outcome clearing front ran back _ planned opens declares awaited unwritten' attended
      happens request clears later settles =>
    have before : ∀ deed ∈ front, deed.question.Apart := fun deed member =>
      (opens deed member).apart
    have after : ∀ deed ∈ deedsOf clearing.trace ++ (back ++ told), deed.question.Apart :=
      List.forall_mem_append.mpr ⟨fun deed member => (clears deed member).apart,
        List.forall_mem_append.mpr ⟨later, apart⟩⟩
    have unbefore : ∀ deed ∈ front, ¬ deed.question.Executes := fun deed member =>
      (before deed member).not_executes
    have unafter : ∀ deed ∈ deedsOf clearing.trace ++ (back ++ told), ¬ deed.question.Executes :=
      fun deed member => (after deed member).not_executes
    have whole : front ++ (ran ++ (deedsOf clearing.trace ++ back)) ++ told =
        front ++ (ran ++ (deedsOf clearing.trace ++ (back ++ told))) := by
      simp only [List.append_assoc]
    have execs := execsOf_around unbefore awaited unafter
    rw [whole]
    cases attended with
    | alone unattached unexecuted =>
      have failed : exitOf result = 1 := by
        cases settles with
        | exits exited => cases exited
        | fails => rfl
      refine .inl ⟨?_, execs.trans unexecuted, failed⟩
      refine List.forall_mem_append.mpr ⟨?_, List.forall_mem_append.mpr ⟨unattached, ?_⟩⟩
      · exact fun deed member => attached?_eq_none (before deed member)
      · exact fun deed member => attached?_eq_none (after deed member)
    | beside member attached followed =>
      -- nothing is written but what the build leaves, at its place
      have wrote : Wrote order.state (front ++ (ran ++ (deedsOf clearing.trace ++ (back ++ told)))) ↔
          Wrote order.state back := by
        rw [wrote_append_iff_right fun deed member => (opens deed member).not_writes,
          wrote_append_iff_right unwritten',
          wrote_append_iff_right fun deed member => (clears deed member).not_writes,
          wrote_append_iff_left unwritten]
      have among := List.mem_append_right front (List.mem_append_left
        (deedsOf clearing.trace ++ (back ++ told)) member)
      refine .inr ⟨plan, clearing, outcome, planned, ?_, ⟨_, among, ?_⟩, ⟨happens, request, ?_⟩,
        execs.symm ▸ followed, ?_, ?_⟩
      · exact (awaited_of_not_executes unbefore).append
          (awaited.append (awaited_of_not_executes unafter))
      · rw [attached]
        rfl
      · exact ⟨front ++ ran, back ++ told, by simp only [List.append_assoc]⟩
      · intro last exited cleared kept
        cases settles with
        | @exits code exited' =>
          obtain rfl := Except.ok.inj (exited.symm.trans exited')
          exact ⟨exitCode_of_byte, exitCode_of_other⟩
        | fails short => exact absurd ⟨⟨last, exited⟩, cleared, wrote.mp kept⟩ short
      · intro short
        cases settles with
        | exits exited cleared kept => exact absurd ⟨⟨_, exited⟩, cleared, wrote.mpr kept⟩ short
        | fails => rfl

end Concluded

/-- Telling the caller of a failure. -/
def Tells (deed : Deed) : Prop :=
  ∃ text, deed.question = .write .errors text

theorem Tells.apart {deed : Deed} (tells : Tells deed) : deed.question.Apart := by
  obtain ⟨text, same⟩ := tells
  rw [same]
  trivial

theorem Tells.not_writes {deed : Deed} (tells : Tells deed) : ¬ deed.question.Writes := by
  obtain ⟨text, same⟩ := tells
  rw [same]
  exact id

/-- Ending a duty tells a failure and does nothing else. -/
theorem ended_does {duty : Duty Nat} {post : Except Failure Nat → List Deed → Prop}
    (does : Work.Does duty.run post) :
    (ended duty).Does fun code made => ∃ result done told, made = done ++ told ∧
      post result done ∧ code = exitOf result ∧ ∀ deed ∈ told, Tells deed := by
  refine Program.ensures_bind.mpr (does.mono fun result done holds => ?_)
  cases result with
  | ok code => exact Program.ensures_pure.mpr ⟨_, done, [], rfl, holds, rfl, List.forall_mem_nil _⟩
  | error failure =>
    refine Program.ensures_bind.mpr ((Program.ensures_question rfl).mpr fun answer => ?_)
    refine Program.ensures_pure.mpr ⟨_, done, _, rfl, holds, rfl, ?_⟩
    exact List.forall_mem_singleton.mpr ⟨_, rfl⟩

theorem readAs_looks {α : Type} (path : String) (read : String → String → Except ConfigError α) :
    (Work.readAs path read).Does fun _ made => ∀ deed ∈ made, deed.question.Looks := by
  refine Program.ensures_bind.mpr ((readText_looked (fun _ => none) path).mono ?_)
  intro result made looked
  cases result with
  | error cause => exact Program.ensures_pure.mpr (by simpa using looked.looks)
  | ok text => exact Program.ensures_pure.mpr (by simpa using looked.looks)

theorem ofFileIfPresent_looks (path : Option String) :
    (Settings.ofFileIfPresent path).Does fun _ made => ∀ deed ∈ made, deed.question.Looks := by
  cases path with
  | none => exact Program.ensures_pure.mpr (List.forall_mem_nil _)
  | some path =>
    refine Program.ensures_bind.mpr ((Program.ensures_question rfl).mpr fun there => ?_)
    have looks : ∀ deed ∈ ([⟨.present path, there⟩] : List Deed), deed.question.Looks :=
      List.forall_mem_singleton.mpr trivial
    cases there with
    | false => exact Program.ensures_bind.mpr (Work.does_note.mpr (Program.ensures_pure.mpr looks))
    | true =>
      refine Program.Ensures.mono (readAs_looks path Settings.ofText) fun _ made looked => ?_
      exact List.forall_mem_append.mpr ⟨looks, looked⟩

/-- Settings are read from a file, if from anything. -/
theorem load_looks (path : Option String) (overrides : Overrides) :
    (Settings.load path overrides).Does fun _ made => ∀ deed ∈ made, deed.question.Looks := by
  refine Program.ensures_bind.mpr ((ofFileIfPresent_looks path).mono fun result made looks => ?_)
  have same : ∀ deed ∈ made ++ [], deed.question.Looks := by rwa [List.append_nil]
  cases result with
  | error cause => exact Program.ensures_pure.mpr same
  | ok settings =>
    change Program.Ensures _ (Settings.adjust overrides settings) _
    rw [Settings.adjust]
    cases overrides.warning? with
    | none => exact Program.ensures_pure.mpr same
    | some warning =>
      exact Program.ensures_bind.mpr (Work.does_note.mpr (Program.ensures_pure.mpr same))

theorem noteLogging_does (options : Options) (environment : Environment) :
    Work.Does (options.noteLogging environment).run fun result made =>
      result = .ok () ∧ made = [] := by
  refine Program.ensures_lift_andThen.mpr (Work.does_note.mpr ?_)
  refine (iff_of_eq (congrArg (Work.Does · _) (ExceptT.run_lift _))).mpr ?_
  exact Program.ensures_map.mpr (Work.does_note.mpr ⟨rfl, rfl⟩)

/-- **A call that is to run a build looks at files, if at anything, and then runs it.** -/
theorem perform_does {options : Options} {order : BuildOrder} {environment : Environment}
    {post : Except Failure Nat → List Deed → Prop} (job : options.job = .run order)
    (runs : ∀ context front, (∀ deed ∈ front, deed.question.Looks) →
      Work.Does (runBuild context order).run fun result made => post result (front ++ made))
    (unread : ∀ failure made, (∀ deed ∈ made, deed.question.Looks) → post (.error failure) made) :
    Work.Does (options.perform environment).run post := by
  refine Program.ensures_andThen.mpr ((noteLogging_does options environment).mono ?_)
  rintro _ _ ⟨rfl, rfl⟩
  rw [job]
  refine Program.ensures_andThen.mpr ?_
  refine does_attempt_andThen (load_looks options.settings _) ?_ ?_
  · intro settings made looks
    refine Program.ensures_ok.mpr ((runs _ made looks).mono fun result ran holds => ?_)
    rwa [List.append_nil]
  · exact fun cause made looks => unread _ made looks

/-- **Every call that is to run a build goes through its order.** -/
theorem perform_undergone {attends : Attending} {options : Options} {order : BuildOrder}
    (each : ∀ plan build, build.Orderly → build.session.phase = .preCheckout →
      Does (runWithAgent plan) build (attends plan build))
    (environment : Environment) (job : options.job = .run order) :
    Work.Does (options.perform environment).run (Undergone attends order) := by
  refine perform_does job (fun context front looks => ?_) fun failure made looks => ?_
  · refine (runBuild_undergone each context).mono fun result ran undergone => ?_
    exact undergone.after fun deed member => (looks deed member).opens
  · exact .unbegun fun deed member => (looks deed member).opens

/-- Every call that is to run a build comes out as the order does. -/
theorem perform_concluded {options : Options} {order : BuildOrder} (environment : Environment)
    (job : options.job = .run order) :
    Work.Does (options.perform environment).run (Concluded order) :=
  (perform_undergone runWithAgent_attends environment job).mono fun _ _ undergone =>
    undergone.concluded

section Calls

variable {arguments : List String} {environment : Environment} {options : Options}
  {order : BuildOrder} {trace : List Deed} {code : Nat}

/-- A call that had no agent attached executed no command and failed; the exit code of any other is
reckoned. -/
theorem invoke_reckoned (read : Options.read arguments = .ok options)
    (job : options.job = .run order) (yields : (invoke arguments environment).Yields trace code) :
    ((∀ deed ∈ deedsOf trace, Deed.attached? deed = none) ∧ execsOf (deedsOf trace) = [] ∧
        code = 1) ∨
      ∃ plan clearing outcome, Reckoned order plan clearing outcome (deedsOf trace) code := by
  rw [invoke, read] at yields
  obtain ⟨result, done, told, made, concluded, rfl, after⟩ :=
    ended_does (perform_concluded environment job) trace code yields
  have reckoned := concluded.reckoned (fun deed member => (after deed member).apart)
    fun deed member => (after deed member).not_writes
  rwa [← made] at reckoned

/-- **The exit code of a call that is to run a build.** Without an agent no command is executed and
it is 1. With one it is reckoned from the last exit code that was told, the clearing away and the
writing down; and it is 0 only if all went well. -/
theorem exit_code_reckoned (read : Options.read arguments = .ok options)
    (job : options.job = .run order) (yields : (invoke arguments environment).Yields trace code) :
    ((∀ deed ∈ deedsOf trace, Deed.attached? deed = none) →
      execsOf (deedsOf trace) = [] ∧ code = 1) ∧
    ((∃ deed ∈ deedsOf trace, (Deed.attached? deed).isSome) →
      ∃ plan clearing outcome, Reckoned order plan clearing outcome (deedsOf trace) code) ∧
    (code = 0 → ∃ plan clearing outcome,
      Reckoned order plan clearing outcome (deedsOf trace) code ∧ clearing.result = .ok () ∧
        Wrote order.state (deedsOf trace) ∧ List.Forall₂ (Succeeded clearing.before.session)
          (plan.commands clearing.before.declared.environment) (execsOf (deedsOf trace))) := by
  rcases invoke_reckoned read job yields with
    ⟨unattached, unexecuted, failed⟩ | ⟨plan, clearing, outcome, reckoned⟩
  · refine ⟨fun _ => ⟨unexecuted, failed⟩, ?_, fun zero => ?_⟩
    · rintro ⟨deed, member, attached⟩
      rw [unattached deed member] at attached
      cases attached
    · cases failed.symm.trans zero
  · refine ⟨fun unattached => ?_, fun _ => ⟨plan, clearing, outcome, reckoned⟩, fun zero => ?_⟩
    · obtain ⟨deed, member, attached⟩ := reckoned.attached
      rw [unattached deed member] at attached
      cases attached
    · subst zero
      exact ⟨plan, clearing, outcome, reckoned, reckoned.zero⟩

end Calls

/-- A call with one checkout command. -/
def fetchingArguments : List String :=
  ["run", "--spec", "build.toml", "--checkout", "git fetch", "--state", "state.json", "--", "mvn"]

/-- What comes of the call when every process ends with an exit code. -/
def fetchEnded (code : Int) : List Deed × Nat × InMemory :=
  (invoke fetchingArguments fun _ => none).record (answerBeside oneFile) { exitCode := code }

theorem exit_code_reckoned_fetchEnded :
    ∃ options, Options.read fetchingArguments = .ok options ∧ options.job = .run fetching ∧
      (invoke fetchingArguments fun _ => none).Yields (fetchEnded 3).1 3 ∧
      ∃ plan clearing outcome,
        Reckoned fetching plan clearing outcome (deedsOf (fetchEnded 3).1) 3 := by
  have read : ∃ options, Options.read fetchingArguments = .ok options ∧
      options.job = .run fetching := ⟨_, rfl, by decide +kernel⟩
  obtain ⟨options, read, job⟩ := read
  have code : (fetchEnded 3).2.1 = 3 := by decide +kernel
  have yields : (invoke fetchingArguments fun _ => none).Yields (fetchEnded 3).1 3 :=
    code ▸ Program.yields_record _ _ _
  have attached : (deedsOf (fetchEnded 3).1).any fun deed => (Deed.attached? deed).isSome := by
    decide +kernel
  obtain ⟨deed, member, some⟩ := List.any_eq_true.mp attached
  have reckoned := (exit_code_reckoned read job yields).2.1 ⟨deed, member, some⟩
  exact ⟨options, read, job, yields, reckoned⟩

end Command

end BuildYard
