import BuildYard.Proofs.Build.Plays
import BuildYard.Proofs.Command.Conduct
import BuildYard.Proofs.Command.Orders

/-!
# A build from end to end

An order in which something is invalid is refused when only files have been
looked at. Otherwise the engine is connected to and asked for its version, and
if it answers there is a build. Whatever then happens to it (`Tended`), it is
cleared away by one request, and at last what it leaves is written down if a
file is named for that (`Conduct.Proper`).
-/

set_option autoImplicit false

namespace BuildYard

namespace Command

open Build (Turn Run Does fresh)

/-- What is done for an order whose build began. -/
structure Conduct where
  /-- up to the answer of the engine by which the build begins -/
  front : List Deed
  start : Build
  events : List Event
  clearing : Turn
  /-- after the build was cleared away -/
  back : List Deed

namespace Conduct

/-- All that was done. -/
def deeds (conduct : Conduct) : List Deed :=
  conduct.front ++ (doneIn conduct.events ++ (deedsOf conduct.clearing.trace ++ conduct.back))

/-- What was done to remember what a build leaves: one writing, if a file is named for it. -/
def Kept (left : CarryOver) (back : List Deed) : Option String → Prop
  | none => back = []
  | some path => ∃ answer, back = [⟨.writeFile path left.toJson.pretty, answer⟩]

/-- A build is cleared away once, after its processes, and then what it leaves is written
down. -/
structure Proper (conduct : Conduct) (context : Context) (order : BuildOrder) : Prop where
  opens : ∀ deed ∈ conduct.front, deed.question.Opens
  answered : ∃ before version, conduct.front = before ++ [⟨.engine .serverVersion, .ok version⟩]
  start : ∃ declared left,
    conduct.start = fresh declared context.settings left order.workspace
  run : Run conduct.start (turnsIn conduct.events ++ [conduct.clearing]) conduct.clearing.after
  once : ∀ turn ∈ turnsIn conduct.events, turn.request ≠ .clean
  clean : conduct.clearing.request = .clean
  awaited : Awaited (doneIn conduct.events)
  detached : Detached (doneIn conduct.events)
  unwritten : ∀ deed ∈ doneIn conduct.events, ¬deed.question.Writes
  clears : ∀ deed ∈ deedsOf conduct.clearing.trace, deed.question.ClearsAway
  kept : Kept conduct.clearing.after.session.carryOver conduct.back order.state

theorem Proper.answered_mem {conduct : Conduct} {context : Context} {order : BuildOrder}
    (proper : conduct.Proper context order) :
    ∃ version, ⟨.engine .serverVersion, .ok version⟩ ∈ conduct.deeds := by
  obtain ⟨before, version, front⟩ := proper.answered
  refine ⟨version, List.mem_append_left _ ?_⟩
  rw [front]
  exact List.mem_append_right _ List.mem_cons_self

end Conduct

/-- How an order comes out, and what was done for it. -/
inductive Settled (files : String → Option (Except IoError Bytes)) (context : Context)
    (order : BuildOrder) : Except Failure Nat → List Deed → Prop where
  | refused {failure : Failure} {made : List Deed}
      (looks : ∀ deed ∈ made, deed.question.Looks) :
      Settled files context order (.error failure) made
  | unreached {failure : Failure} {made : List Deed}
      (sound : (∀ deed ∈ made, Agrees files deed) → Sound files order)
      (opens : ∀ deed ∈ made, deed.question.Opens)
      (unanswered : ∀ version, ⟨.engine .serverVersion, .ok version⟩ ∉ made) :
      Settled files context order (.error failure) made
  | conducted {result : Except Failure Nat} (conduct : Conduct)
      (sound : (∀ deed ∈ conduct.deeds, Agrees files deed) → Sound files order)
      (proper : conduct.Proper context order) :
      Settled files context order result conduct.deeds

namespace Settled

variable {files : String → Option (Except IoError Bytes)} {context : Context} {order : BuildOrder}
  {result : Except Failure Nat} {made : List Deed}

theorem refused_of_not_sound (settled : Settled files context order result made)
    (agrees : ∀ deed ∈ made, Agrees files deed) (unsound : ¬Sound files order) :
    (∃ failure, result = .error failure) ∧ ∀ deed ∈ made, deed.question.Looks := by
  cases settled with
  | refused looks => exact ⟨⟨_, rfl⟩, looks⟩
  | unreached sound => exact absurd (sound agrees) unsound
  | conducted conduct sound => exact absurd (sound agrees) unsound

theorem conducted_of_answered {version : String}
    (settled : Settled files context order result made)
    (answered : ⟨.engine .serverVersion, .ok version⟩ ∈ made) :
    ∃ conduct : Conduct, conduct.deeds = made ∧ conduct.Proper context order := by
  cases settled with
  | refused looks => exact False.elim (looks _ answered)
  | unreached sound opens unanswered => exact absurd answered (unanswered version)
  | conducted conduct sound proper => exact ⟨conduct, rfl, proper⟩

theorem opens_of_unanswered (settled : Settled files context order result made)
    (unanswered : ∀ version, ⟨.engine .serverVersion, .ok version⟩ ∉ made) :
    (∃ failure, result = .error failure) ∧ ∀ deed ∈ made, deed.question.Opens := by
  cases settled with
  | refused looks => exact ⟨⟨_, rfl⟩, fun deed member => (looks deed member).opens⟩
  | unreached sound opens => exact ⟨⟨_, rfl⟩, opens⟩
  | conducted conduct sound proper =>
    obtain ⟨version, answered⟩ := proper.answered_mem
    exact absurd answered (unanswered version)

end Settled

/-! ## The parts -/

theorem clean_does (build : Build) :
    Does Build.clean build fun _ made after => ∃ turn : Turn, turn.Happens ∧
      turn.request = .clean ∧ turn.before = build ∧ turn.after = after ∧
        deedsOf turn.trace = made ∧ ∀ deed ∈ made, deed.question.ClearsAway := by
  have turns := @Build.does_turn _ build _ .clean (id_map _).symm
  refine (turns.and Build.clean_asks.does).mono ?_
  rintro _ _ _ ⟨⟨turn, happens, request, before, after, same⟩, clears⟩
  exact ⟨turn, happens, request, before, after, same, clears⟩

theorem begin_does (declared : ContainerSet) (session : Session) (settings : Settings) :
    (Build.begin declared session settings).Does fun result made =>
      (∃ version, made = [⟨.engine .serverVersion, .ok version⟩] ∧
        result = .ok { declared, settings, session }) ∨
      ∃ cause failure, made = [⟨.engine .serverVersion, .error cause⟩] ∧
        result = .error failure := by
  refine Work.does_within.mpr (Program.ensures_bind.mpr ?_)
  refine (Program.ensures_question rfl).mpr fun answer => ?_
  cases answer with
  | error cause => exact Program.ensures_pure.mpr (.inr ⟨cause, _, rfl, rfl⟩)
  | ok version =>
    refine Program.ensures_bind.mpr (Work.does_note.mpr (Program.ensures_pure.mpr ?_))
    exact .inl ⟨version, rfl, rfl⟩

theorem writeLeft_does (path : String) (left : CarryOver) :
    Work.Does (writeLeft path left).run fun _ made =>
      ∃ answer, made = [⟨.writeFile path left.toJson.pretty, answer⟩] :=
  does_attemptTo.mpr ((Program.ensures_question rfl).mpr fun answer => ⟨answer, rfl⟩)

theorem settleOutcome_does (outcome : Except Failure Int) (cleaned : Except ProvisionError Unit) :
    Work.Does (settleOutcome outcome cleaned).run fun _ made => made = [] := by
  rcases outcome with failure | code <;> rcases cleaned with cleanup | ⟨⟩
  · exact Program.ensures_andThen.mpr (does_tell.mpr (Program.ensures_throw.mpr rfl))
  · exact Program.ensures_throw.mpr rfl
  · exact Program.ensures_throw.mpr rfl
  · exact Program.ensures_ok.mpr rfl

/-- What is done once a build was cleared away. -/
theorem kept_does (state : Option String) (left : CarryOver) (outcome : Except Failure Int)
    (cleaned : Except ProvisionError Unit) :
    Work.Does (do
        match state with
        | some path => writeLeft path left
        | none => pure ()
        settleOutcome outcome cleaned : Duty Nat).run fun _ made =>
      Conduct.Kept left made state := by
  cases state with
  | none => exact settleOutcome_does outcome cleaned
  | some path =>
    refine Program.ensures_andThen.mpr ((writeLeft_does path left).mono ?_)
    rintro result _ ⟨answer, rfl⟩
    cases result with
    | error failure => exact ⟨answer, rfl⟩
    | ok _ =>
      refine (settleOutcome_does outcome cleaned).mono ?_
      rintro _ _ rfl
      exact ⟨answer, rfl⟩

/-- **From its beginning on a build is conducted to its end.** -/
theorem conduct_does (plan : Plan) (state : Option String) (build : Build) :
    Work.Does (do
        let (outcome, build) ← Duty.ofWork ((runWithAgent plan).run.run build)
        let (cleaned, build) ← Duty.ofWork (Build.clean.runOn build)
        match state with
        | some path => writeLeft path build.session.carryOver
        | none => pure ()
        settleOutcome outcome cleaned : Duty Nat).run fun _ made =>
      ∃ (ran : List Deed) (clearing : Turn) (back : List Deed),
        made = ran ++ (deedsOf clearing.trace ++ back) ∧ Tended build ran clearing.before ∧
          clearing.Happens ∧ clearing.request = .clean ∧
            (∀ deed ∈ deedsOf clearing.trace, deed.question.ClearsAway) ∧
              Conduct.Kept clearing.after.session.carryOver back state := by
  have tends : Work.Does ((runWithAgent plan).run.run build) fun last ran =>
      Tended build ran last.2 := runWithAgent_tended plan build
  refine Program.ensures_lift_andThen.mpr (tends.mono fun last ran tended => ?_)
  obtain ⟨outcome, middle⟩ := last
  refine Program.ensures_lift_andThen.mpr (Program.Ensures.mono (clean_does middle) ?_)
  rintro ⟨cleaned, after⟩ _ ⟨clearing, happens, request, rfl, rfl, rfl, clears⟩
  refine (kept_does state _ outcome cleaned).mono fun _ back kept => ?_
  exact ⟨ran, clearing, back, rfl, tended, happens, request, clears, kept⟩

/-- **A build that is tended and then cleared away is conducted properly**, when what was done
before it began only opens it. -/
theorem Tended.conducted {context : Context} {order : BuildOrder} {before ran back : List Deed}
    {version : String} {declared : ContainerSet} {left : CarryOver} {clearing : Turn}
    (tended : Tended (fresh declared context.settings left order.workspace) ran clearing.before)
    (opens : ∀ deed ∈ before, deed.question.Opens) (happens : clearing.Happens)
    (request : clearing.request = .clean)
    (clears : ∀ deed ∈ deedsOf clearing.trace, deed.question.ClearsAway)
    (kept : Conduct.Kept clearing.after.session.carryOver back order.state) :
    ∃ conduct : Conduct, conduct.deeds = before ++ ([⟨.engine .serverVersion, .ok version⟩] ++
      (ran ++ (deedsOf clearing.trace ++ back))) ∧ conduct.Proper context order := by
  obtain ⟨events, rfl, run, once⟩ := tended.led
  let conduct : Conduct :=
    { front := before ++ [⟨.engine .serverVersion, .ok version⟩]
      start := fresh declared context.settings left order.workspace
      events, clearing, back }
  refine ⟨conduct, List.append_assoc _ _ _, ?_⟩
  exact
    { opens := List.forall_mem_append.mpr ⟨opens, List.forall_mem_singleton.mpr trivial⟩
      answered := ⟨before, version, rfl⟩
      start := ⟨declared, left, rfl⟩
      run := .turn run happens
      once, clean := request, awaited := tended.awaited, detached := tended.detached
      unwritten := tended.unwritten, clears, kept }

theorem state_looked (files : String → Option (Except IoError Bytes)) (state : Option String) :
    Work.Does (match state with
        | some path => readLeft path
        | none => pure {} : Duty CarryOver).run
      (Looked files fun _ => ∀ path, state = some path → files path = none ∨
        ∃ text left, Holds files path text ∧ CarryOver.read? text = some left) := by
  cases state with
  | none => exact Program.ensures_ok.mpr ⟨List.forall_mem_nil _, fun _ _ _ => nofun⟩
  | some path =>
    refine (readLeft_looked files path).mono fun result made looked => ⟨looked.looks, ?_⟩
    rintro left came agrees _ ⟨⟩
    exact looked.learned left came agrees

/-- What is done for a sound order, once files have been looked at. -/
theorem engine_settled {files : String → Option (Except IoError Bytes)} {looked : List Deed}
    (context : Context) (order : BuildOrder) {state : Option String} (named : order.state = state)
    (declared : ContainerSet) (plan : Plan) (left : CarryOver)
    (looks : ∀ deed ∈ looked, deed.question.Looks)
    (sound : (∀ deed ∈ looked, Agrees files deed) → Sound files order) :
    Work.Does (do
        context.connect
        let build ← Duty.attempt ProvisionError.chain
          (Build.begin declared (Session.ofCarryOver left) context.settings)
        let (outcome, build) ← Duty.ofWork
          ((runWithAgent plan).run.run { build with workspace := order.workspace })
        let (cleaned, build) ← Duty.ofWork (Build.clean.runOn build)
        match state with
        | some path => writeLeft path build.session.carryOver
        | none => pure ()
        settleOutcome outcome cleaned : Duty Nat).run fun result made =>
      Settled files context order result (looked ++ made) := by
  subst named
  have opens {more : List Deed} (opens : ∀ deed ∈ more, deed.question.Opens) :
      ∀ deed ∈ looked ++ more, deed.question.Opens :=
    List.forall_mem_append.mpr ⟨fun deed member => (looks deed member).opens, opens⟩
  have among {more : List Deed} (agrees : ∀ deed ∈ looked ++ more, Agrees files deed) :
      Sound files order := sound (List.forall_mem_append.mp agrees).1
  have unanswered {more : List Deed}
      (none : ∀ version, ⟨.engine .serverVersion, .ok version⟩ ∉ more) (version : String) :
      ⟨.engine .serverVersion, .ok version⟩ ∉ looked ++ more := fun member =>
    (List.mem_append.mp member).elim (fun early => looks _ early) (none version)
  have connects : Work.Does (Work.act (.connect context.driverKind context.settings))
      fun _ made => ∃ answer, made = [⟨.connect context.driverKind context.settings, answer⟩] :=
    (Program.ensures_question rfl).mpr fun answer => ⟨answer, rfl⟩
  refine does_attempt_andThen connects ?_ ?_
  · rintro _ _ ⟨connected, rfl⟩
    refine does_attempt_andThen (begin_does declared _ context.settings) ?_ ?_
    · rintro build made (⟨version, rfl, began⟩ | ⟨_, _, -, failed⟩)
      · obtain rfl := Except.ok.inj began
        have opened : ∀ deed ∈ looked ++
            [⟨.connect context.driverKind context.settings, connected⟩], deed.question.Opens :=
          opens (List.forall_mem_singleton.mpr trivial)
        refine (conduct_does plan order.state _).mono ?_
        rintro result _ ⟨_, clearing, back, rfl, tended, happens, request, clears, kept⟩
        obtain ⟨conduct, whole, proper⟩ := tended.conducted opened happens request clears kept
        rw [List.append_assoc] at whole
        exact whole ▸ .conducted conduct (fun agrees => among (whole ▸ agrees)) proper
      · cases failed
    · rintro cause made (⟨version, -, began⟩ | ⟨cause', failure, rfl, failed⟩)
      · cases began
      · refine .unreached among (opens ?_) (unanswered ?_)
        · exact List.forall_mem_cons.mpr ⟨trivial, List.forall_mem_singleton.mpr trivial⟩
        · intro version member
          simp only [List.cons_append, List.nil_append, List.mem_cons, List.not_mem_nil,
            or_false] at member
          rcases member with same | same <;> cases same
  · rintro cause _ ⟨connected, rfl⟩
    refine .unreached among (opens (List.forall_mem_singleton.mpr trivial)) (unanswered ?_)
    intro version member
    cases List.mem_singleton.mp member

/-- **Every order comes out in one of the ways listed.** -/
theorem runBuild_settled (files : String → Option (Except IoError Bytes)) (context : Context)
    (order : BuildOrder) :
    Work.Does (runBuild context order).run (Settled files context order) := by
  refine Work.does_within.mpr (does_attempt_andThen (ofFile_looked files order.spec) ?_ ?_)
  · intro declared spec looked
    cases planned : Plan.ofOrder order with
    | error failure =>
      exact Program.ensures_andThen.mpr (Program.ensures_throw.mpr
        (.refused (by simpa using looked.looks)))
    | ok plan =>
      refine Program.ensures_andThen.mpr (Program.ensures_ok.mpr ?_)
      obtain ⟨words, envs, -, -⟩ := ofOrder_ok planned
      have rest (state : Option String) (named : order.state = state) (left : CarryOver)
          (record : List Deed) (looked' : Looked files (fun _ : CarryOver => ∀ path,
            state = some path → files path = none ∨ ∃ text left, Holds files path text ∧
              CarryOver.read? text = some left) (.ok left : Except Failure CarryOver) record) :=
        @engine_settled files (spec ++ record) context order state named declared plan left
          (List.forall_mem_append.mpr ⟨looked.looks, looked'.looks⟩) fun agrees => by
            obtain ⟨agrees, agrees'⟩ := List.forall_mem_append.mp agrees
            obtain ⟨text, holds, read⟩ := looked.learned declared rfl agrees
            exact
              { spec := ⟨text, declared, holds, read⟩
                checkout := checkoutWords_ok words
                env := assignments_ok envs
                state := by
                  rw [named]
                  exact looked'.learned left rfl agrees' }
      have refused {failure : Failure} {record : List Deed}
          (looks : ∀ deed ∈ record, deed.question.Looks) :
          Settled files context order (.error failure) (spec ++ ([] ++ record)) :=
        .refused (List.forall_mem_append.mpr ⟨looked.looks, looks⟩)
      cases state : order.state with
      | none =>
        refine Program.ensures_andThen.mpr ((state_looked files none).mono ?_)
        intro result record looked'
        cases result with
        | error failure => exact refused looked'.looks
        | ok left =>
          refine (rest none state left record looked').mono fun _ made settled => ?_
          rwa [List.append_assoc] at settled
      | some path =>
        refine Program.ensures_andThen.mpr ((state_looked files (some path)).mono ?_)
        intro result record looked'
        cases result with
        | error failure => exact refused looked'.looks
        | ok left =>
          refine (rest (some path) state left record looked').mono fun _ made settled => ?_
          rwa [List.append_assoc] at settled
  · exact fun cause made looked => .refused looked.looks

/-- **Every build that begins is cleared away, whatever happens to it.** An order with something
invalid in it fails when only files have been looked at. If the engine tells its version, so that
a build begins, the build is cleared away exactly once, after every process was waited for and
the attached agent was told to stop and waited for; then what it leaves is written to the file
named for that, and nothing is written before. If the engine does not, nothing is written. -/
theorem begun_cleared_away {context : Context} {order : BuildOrder} {trace : List Deed}
    {result : Except Failure Nat} (yields : (runBuild context order).run.Yields trace result) :
    (∀ files, (∀ deed ∈ trace, Agrees files deed) → ¬Sound files order →
      (∃ failure, result = .error failure) ∧ ∀ deed ∈ deedsOf trace, deed.question.Looks) ∧
    (∀ version, ⟨.engine .serverVersion, .ok version⟩ ∈ trace →
      ∃ conduct : Conduct, conduct.deeds = deedsOf trace ∧ conduct.Proper context order) ∧
    ((∀ version, ⟨.engine .serverVersion, .ok version⟩ ∉ trace) →
      (∃ failure, result = .error failure) ∧ ∀ deed ∈ deedsOf trace, deed.question.Opens) := by
  have settled (files : String → Option (Except IoError Bytes)) :
      Settled files context order result (deedsOf trace) :=
    runBuild_settled files context order trace result yields
  refine ⟨fun files agrees unsound => ?_, fun version answered => ?_, fun unanswered => ?_⟩
  · have among : ∀ deed ∈ deedsOf trace, Agrees files deed := fun deed member =>
      agrees deed (List.mem_of_mem_filter member)
    exact (settled files).refused_of_not_sound among unsound
  · have answered : ⟨.engine .serverVersion, .ok version⟩ ∈ deedsOf trace :=
      List.mem_filter.mpr ⟨answered, rfl⟩
    exact (settled fun _ => none).conducted_of_answered answered
  · have unanswered (version : String) :
        ⟨.engine .serverVersion, .ok version⟩ ∉ deedsOf trace := fun member =>
      unanswered version (List.mem_of_mem_filter member)
    exact (settled fun _ => none).opens_of_unanswered unanswered

/-! ### A checkout command that is not successful -/

/-- An engine in memory, beside which there are files. -/
def answerBeside (files : String → Option (Except IoError Bytes)) :
    (action : Action) → InMemory → action.Answer × InMemory
  | .present path, engine => ((files path).isSome, engine)
  | .readFile path, engine => ((files path).getD (.error .notFound), engine)
  | action, engine => InMemory.answer action engine

/-- A file with a container set and no other. -/
def oneFile : String → Option (Except IoError Bytes)
  | "build.toml" =>
    some (.ok (Bytes.ofString "[work]\nimage = [\"image_id\", \"maven\"]\n"))
  | _ => none

/-- An order with one checkout line. -/
def fetching : BuildOrder :=
  { spec := "build.toml", checkout := ["git fetch"], state := some "state.json"
    command := ["mvn"] }

/-- What comes of it when every process ends with the exit code 3. -/
def fetchFailed : List Deed × Except Failure Nat × InMemory :=
  (runBuild default fetching).run.record (answerBeside oneFile) { exitCode := 3 }

/-- The version that the engine told by a deed. -/
def told? : Deed → Option String
  | ⟨.engine .serverVersion, .ok version⟩ => some version
  | _ => none

theorem eq_of_told? {deed : Deed} {version : String} (told : told? deed = some version) :
    deed = ⟨.engine .serverVersion, .ok version⟩ := by
  obtain ⟨action, answer⟩ := deed
  cases action with
  | engine call =>
    cases call with
    | serverVersion =>
      cases answer with
      | error cause => cases told
      | ok value => rw [Option.some.inj told]
    | _ => cases told
  | _ => cases told

theorem begun_cleared_away_fetchFailed :
    (runBuild default fetching).run.Yields fetchFailed.1 fetchFailed.2.1 ∧
      fetchFailed.2.1 = .ok 3 ∧ ∃ conduct : Conduct,
        conduct.deeds = deedsOf fetchFailed.1 ∧ conduct.Proper default fetching := by
  have yields : (runBuild default fetching).run.Yields fetchFailed.1 fetchFailed.2.1 :=
    Program.yields_record _ _ _
  have told : (fetchFailed.1.findSome? told?).isSome = true := by decide +kernel
  obtain ⟨version, found⟩ := Option.isSome_iff_exists.mp told
  obtain ⟨deed, member, same⟩ := List.exists_of_findSome?_eq_some found
  rw [eq_of_told? same] at member
  exact ⟨yields, by decide +kernel, (begun_cleared_away yields).2.1 version member⟩

end Command

end BuildYard
