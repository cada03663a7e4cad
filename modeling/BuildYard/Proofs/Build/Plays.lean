import BuildYard.Engine.InMemory
import BuildYard.Proofs.Build.Runs

/-!
# Runs that an engine answers

A run may take any answers. Here an engine gives them: requests are played one
after another against its state, which may change between them by itself. What
is played is a run (`run_play`), so that there are runs for every engine, and
what holds of runs can be looked at in one.
-/

set_option autoImplicit false

namespace BuildYard

/-- An engine in memory answers all actions; beside the engine nothing is there, and processes
end at once. -/
def InMemory.answer : (action : Action) → InMemory → action.Answer × InMemory
  | .engine call, engine => engine.perform call
  | .log _, engine => ((), engine)
  | .context _ _ _, engine => (.ok [], engine)
  | .freshNumber, engine => (engine.given, engine)
  | .wait _, engine => (.ok engine.exitCode, engine)
  | .stop process, engine => (process.stop, engine)
  | .connect _ _, engine => (.ok (), engine)
  | .present _, engine => (false, engine)
  | .readFile _, engine => (.ok [], engine)
  | .writeFile _ _, engine => (.ok (), engine)
  | .write _ _, engine => ((), engine)

namespace Build

variable {σ : Type} (answer : (action : Action) → σ → action.Answer × σ)

/-- The turn that a request takes when a state answers, and the state after it. -/
def Turn.answered (request : Request) (before : Build) (state : σ) : Turn × σ :=
  let (trace, (result, after), state) := (request.operation.runOn before).record answer state
  ({ request, before, trace, result, after }, state)

theorem Turn.happens_answered (request : Request) (before : Build) (state : σ) :
    (Turn.answered answer request before state).1.Happens :=
  Program.yields_record answer _ state

/-- Requests played one after another, each after a change of the state from outside; the turns
and the build in the end. -/
def play : List ((σ → σ) × Request) → Build → σ → List Turn × Build
  | [], build, _ => ([], build)
  | (change, request) :: rest, build, state =>
    let (turn, state) := Turn.answered answer request build (change state)
    let (turns, last) := play rest turn.after state
    (turn :: turns, last)

/-- **Whoever answers, playing requests is a run.** -/
theorem run_play (requests : List ((σ → σ) × Request)) (start : Build) (state : σ) :
    Run start (play answer requests start state).1 (play answer requests start state).2 := by
  suffices continued : ∀ (earlier : List Turn) (build : Build), Run start earlier build →
      Run start (earlier ++ (play answer requests build state).1)
        (play answer requests build state).2 from continued [] start .start
  -- a run takes turns at its end, so the induction is over what is still to be played
  intro earlier build run
  induction requests generalizing earlier build state with
  | nil => simpa only [play, List.append_nil] using run
  | cons first rest ih =>
    obtain ⟨change, request⟩ := first
    have happens := Turn.happens_answered answer request build (change state)
    have longer : Run start
        (earlier ++ [(Turn.answered answer request build (change state)).1]) _ :=
      .turn run happens
    have next := ih (Turn.answered answer request build (change state)).2 _ _ longer
    rwa [List.append_assoc] at next

/-! ## A build from beginning to end -/

/-- A set with one sidecar. -/
def oneSidecar : ContainerSet :=
  { work := { image := .named "maven" false }
    sidecars := [{ name := "db", container := { image := .named "postgres" false } }] }

/-- Requests of a build that begins with what `left` names, played against an engine in memory
that knows nothing yet. -/
def playedAfter (left : CarryOver) (requests : List ((InMemory → InMemory) × Request)) :
    List Turn × Build :=
  play InMemory.answer requests (fresh oneSidecar {} left ".") {}

theorem run_playedAfter (left : CarryOver) (requests : List ((InMemory → InMemory) × Request)) :
    Run (fresh oneSidecar {} left ".") (playedAfter left requests).1
      (playedAfter left requests).2 :=
  run_play InMemory.answer requests _ _

/-- The same for a build that begins with nothing. -/
def played (requests : List ((InMemory → InMemory) × Request)) : List Turn × Build :=
  playedAfter {} requests

theorem run_played (requests : List ((InMemory → InMemory) × Request)) :
    Run (fresh oneSidecar {} {} ".") (played requests).1 (played requests).2 :=
  run_playedAfter {} requests

/-- A process before the build phase and one in it, and in the end no removal succeeds. -/
def wholeBuild : List ((InMemory → InMemory) × Request) :=
  [(id, .prepareAgent), (id, .runProcess {}), (id, .advancePhase), (id, .runProcess {}),
    (fun engine => engine.failOn "remove_container", .clean)]

/-- The sidecar cannot be launched at first, and it is launched for the next process. -/
def retried : List ((InMemory → InMemory) × Request) :=
  [(id, .prepareAgent), (id, .runProcess {}), (id, .advancePhase),
    (fun engine => engine.failOn "launch_sidecar_container", .runProcess {}),
    (fun engine => engine.succeedOn "launch_sidecar_container", .runProcess {})]

end Build

end BuildYard
