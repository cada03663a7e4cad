import BuildYard.Build.Run
import BuildYard.Proofs.Build.Clearing
import BuildYard.Proofs.Build.Preparation
import BuildYard.Proofs.Build.Resolution
import Mathlib.Data.List.Nodup

/-!
# The moves of a build

Between two cleanings a build goes on in small moves: it makes a call that it
may make as it is, and takes the answer into its session, or it settles
something without a call. `Move` says which calls those are, and what the
session becomes; whatever a build does, apart from advancing its phase and
clearing away, is a sequence of moves. Sidecars come in the order of their
declaration, a process runs in the container of the current phase, and what
every move keeps (`Orderly`) every sequence keeps.
-/

set_option autoImplicit false

namespace BuildYard

namespace Session

/-- The names of the sidecars that run, in the order of their launch. -/
def sidecarNames (session : Session) : List String :=
  session.sidecars.map (·.1)

def withCheckout (session : Session) (handle : Handle) : Session :=
  { session with checkout := some handle }

def withWork (session : Session) (handle : Handle) : Session :=
  { session with work := some handle }

end Session

namespace Build

/-- The tag that a build knows for an image source. -/
def tag? (build : Build) (source : ImageSource) : Option String :=
  (build.resolved.find? (·.1.same source)).map (·.2)

/-- Every declared sidecar runs. -/
def Complete (build : Build) : Prop :=
  build.session.sidecarNames = build.declaredNames

/-- The sidecar `sidecar` is the one to be launched next. -/
structure Next (build : Build) (sidecar : Sidecar) : Prop where
  declared : build.declared.sidecars[build.session.sidecars.length]? = some sidecar
  new : sidecar.name ∉ build.session.sidecarNames

/-- A build that has taken in how the launch of a container came out. -/
def noting (build : Build) (answer : Except EngineError Handle)
    (change : Session → Handle → Session) : Build :=
  match answer with
  | .ok handle => { build with session := change build.session handle }
  | .error _ => build

/-- A build that keeps the tag of an image source. -/
def keepingTag (build : Build) (source : ImageSource) (tag : String) : Build :=
  { build with resolved := build.resolved ++ [(source, tag)] }

/-- What an operation is for. -/
inductive Aim where
  /-- that there is an agent -/
  | preparation
  /-- that the agent runs -/
  | attachment
  /-- that a process runs in the container of the phase -/
  | process

/-- **What a build may ask the engine for, and what it becomes by the answer.** -/
inductive Move (build : Build) : Aim → CallMade → Build → Prop where
  | findAgent {handle : Handle} (recorded : build.session.agent = some handle)
      (answer : Except EngineError Bool) :
      Move build .preparation ⟨.hasContainer handle.id, answer⟩ build
  | findVolume {volume : String} (recorded : build.session.volume = some volume)
      (answer : Except EngineError Bool) :
      Move build .preparation ⟨.hasVolume volume, answer⟩ build
  | createVolume (answer : Except EngineError String) :
      Move build .preparation ⟨.createVolume, answer⟩ build
  | giveUpVolume (volume : String) (answer : Except EngineError Unit) :
      Move build .preparation ⟨.removeVolume volume, answer⟩ build
  | launchAgent (volume : String) (answer : Except EngineError Handle) :
      Move build .preparation ⟨.launchAgent build.settings.images.agent volume, answer⟩
        (build.noting answer (·.withAgent · volume))
  | attachAgent {agent : Handle} (recorded : build.session.agent = some agent)
      (input : Option Host.Input) (answer : Except EngineError Running) :
      Move build .attachment ⟨.attachAgent agent input, answer⟩ build
  | askImage {source : ImageSource} {call : Call} (unresolved : build.tag? source = none)
      (asks : source.Asks call) (answer : Except EngineError call.Value) :
      Move build .process ⟨call, answer⟩ build
  | launchCheckout {agent : Handle} {image : String}
      (phase : build.session.phase = .preCheckout) (vacant : build.session.checkout = none)
      (recorded : build.session.agent = some agent)
      (resolved : build.tag? (.named build.settings.images.checkout false) = some image)
      (answer : Except EngineError Handle) :
      Move build .process ⟨.launchWork image agent {}, answer⟩
        (build.noting answer Session.withCheckout)
  | launchWork {agent : Handle} {image : String} (phase : build.session.phase = .build)
      (complete : build.Complete) (vacant : build.session.work = none)
      (recorded : build.session.agent = some agent)
      (resolved : build.tag? build.declared.work.image = some image)
      (answer : Except EngineError Handle) :
      Move build .process ⟨.launchWork image agent build.declared.work.effectiveHints, answer⟩
        (build.noting answer Session.withWork)
  | launchSidecar {agent : Handle} {image : String} {sidecar : Sidecar}
      (phase : build.session.phase = .build) (next : build.Next sidecar)
      (recorded : build.session.agent = some agent)
      (resolved : build.tag? sidecar.container.image = some image)
      (answer : Except EngineError Handle) :
      Move build .process ⟨.launchSidecar image agent sidecar.container.effectiveHints, answer⟩
        (build.noting answer (·.withSidecar sidecar.name ·))
  | exec {container : Handle} (current : build.session.current = some container)
      (complete : build.session.phase = .build → build.Complete) (starter : Starter)
      (answer : Except EngineError Running) :
      Move build .process ⟨.exec container.id starter, answer⟩ build

/-- What a build settles without a call. -/
inductive Settles (build : Build) : Build → Prop where
  | keepTag {source : ImageSource} (unresolved : build.tag? source = none) (tag : String) :
      Settles build (build.keepingTag source tag)
  | noteComplete (complete : build.Complete) :
      Settles build { build with sidecarsLaunched := true }

theorem Settles.session {build after : Build} (settles : Settles build after) :
    after.session = build.session := by
  cases settles <;> rfl

/-- Finitely many moves of one operation, and the calls made on the way. -/
inductive Moves (aim : Aim) : Build → List CallMade → Build → Prop where
  | refl (build : Build) : Moves aim build [] build
  | call {build middle last : Build} {call : CallMade} {calls : List CallMade} :
      Move build aim call middle → Moves aim middle calls last →
        Moves aim build (call :: calls) last
  | settle {build middle last : Build} {calls : List CallMade} :
      Settles build middle → Moves aim middle calls last → Moves aim build calls last

namespace Moves

variable {aim : Aim} {build middle last : Build} {calls more : List CallMade}

theorem single {call : CallMade} (move : Move build aim call last) :
    Moves aim build [call] last :=
  .call move (.refl last)

theorem trans (first : Moves aim build calls middle) (second : Moves aim middle more last) :
    Moves aim build (calls ++ more) last := by
  induction first with
  | refl => exact second
  | call move _ ih => exact .call move (ih second)
  | settle settles _ ih => exact .settle settles (ih second)

/-- **What single moves keep, sequences of moves keep.** -/
theorem keeps {holds : Build → Prop}
    (move : ∀ {build call after}, Move build aim call after → holds build → holds after)
    (settles : ∀ {build after}, Settles build after → holds build → holds after)
    (moves : Moves aim build calls last) (start : holds build) : holds last := by
  induction moves with
  | refl => exact start
  | call first _ ih => exact ih (move first start)
  | settle first _ ih => exact ih (settles first start)

end Moves

/-! ## What a build keeps -/

section Frame

variable {aim : Aim} {build after : Build} {call : CallMade} {calls : List CallMade}

/-- What no move changes: what is declared, the settings, the workspace and the phase. -/
structure SameFrame (build after : Build) : Prop where
  declared : after.declared = build.declared
  settings : after.settings = build.settings
  workspace : after.workspace = build.workspace
  phase : after.session.phase = build.session.phase

theorem noting_sameFrame {answer : Except EngineError Handle} {change : Session → Handle → Session}
    (keeps : ∀ session handle, (change session handle).phase = session.phase) :
    SameFrame build (build.noting answer change) := by
  cases answer with
  | error cause => exact ⟨rfl, rfl, rfl, rfl⟩
  | ok handle => exact ⟨rfl, rfl, rfl, keeps _ _⟩

theorem Move.sameFrame (move : Move build aim call after) : SameFrame build after := by
  cases move with
  | launchAgent => exact noting_sameFrame fun _ _ => rfl
  | launchCheckout => exact noting_sameFrame fun _ _ => rfl
  | launchWork => exact noting_sameFrame fun _ _ => rfl
  | launchSidecar => exact noting_sameFrame fun _ _ => rfl
  | _ => exact ⟨rfl, rfl, rfl, rfl⟩

theorem Settles.sameFrame (settles : Settles build after) : SameFrame build after := by
  cases settles with
  | keepTag => exact ⟨rfl, rfl, rfl, rfl⟩
  | noteComplete => exact ⟨rfl, rfl, rfl, rfl⟩

theorem SameFrame.trans {last : Build} (first : SameFrame build after)
    (second : SameFrame after last) : SameFrame build last :=
  ⟨second.declared.trans first.declared, second.settings.trans first.settings,
    second.workspace.trans first.workspace, second.phase.trans first.phase⟩

theorem Moves.sameFrame (moves : Moves aim build calls after) : SameFrame build after :=
  moves.keeps (fun move frame => frame.trans move.sameFrame)
    (fun settles frame => frame.trans settles.sameFrame) ⟨rfl, rfl, rfl, rfl⟩

/-! ## Sidecars in order -/

/-- The sidecars that run are the first of those declared, each once, and the build takes them
for complete only if they are. -/
structure Orderly (build : Build) : Prop where
  named : build.session.sidecarNames <+: build.declaredNames
  once : build.session.sidecarNames.Nodup
  latch : build.sidecarsLaunched = true → build.Complete

theorem Next.named {sidecar : Sidecar} (next : build.Next sidecar)
    (named : build.session.sidecarNames <+: build.declaredNames) :
    build.session.sidecarNames ++ [sidecar.name] <+: build.declaredNames := by
  obtain ⟨rest, equal⟩ := named
  have here : build.declaredNames[build.session.sidecarNames.length]? = some sidecar.name := by
    simp only [declaredNames, Session.sidecarNames, List.length_map, List.getElem?_map,
      next.declared, Option.map_some]
  rw [← equal, List.getElem?_append_right (Nat.le_refl _), Nat.sub_self] at here
  cases rest with
  | nil => cases here
  | cons name rest =>
    obtain rfl : name = sidecar.name := by simpa using here
    exact ⟨rest, by rw [← equal, List.append_assoc, List.singleton_append]⟩

/-- When all sidecars run, none is to be launched. -/
theorem Complete.not_next {sidecar : Sidecar} (complete : build.Complete) :
    ¬ build.Next sidecar := by
  intro next
  have lengths : build.session.sidecars.length = build.declared.sidecars.length := by
    simpa only [Session.sidecarNames, declaredNames, List.length_map] using
      congrArg List.length complete
  have beyond := next.declared
  rw [lengths, List.getElem?_eq_none (Nat.le_refl _)] at beyond
  cases beyond

theorem Move.complete (move : Move build aim call after) (complete : build.Complete) :
    after.Complete := by
  cases move with
  | launchAgent volume answer => cases answer <;> exact complete
  | launchCheckout _ _ _ _ answer => cases answer <;> exact complete
  | launchWork _ _ _ _ _ answer => cases answer <;> exact complete
  | launchSidecar _ next => exact absurd next complete.not_next
  | _ => exact complete

theorem Settles.complete (settles : Settles build after) (complete : build.Complete) :
    after.Complete := by
  cases settles <;> exact complete

theorem Moves.complete (moves : Moves aim build calls after) (complete : build.Complete) :
    after.Complete :=
  moves.keeps Move.complete Settles.complete complete

theorem Move.orderly (move : Move build aim call after) (orderly : build.Orderly) :
    after.Orderly := by
  cases move with
  | launchAgent volume answer =>
    cases answer <;> exact ⟨orderly.named, orderly.once, orderly.latch⟩
  | launchCheckout _ _ _ _ answer =>
    cases answer <;> exact ⟨orderly.named, orderly.once, orderly.latch⟩
  | launchWork _ _ _ _ _ answer =>
    cases answer <;> exact ⟨orderly.named, orderly.once, orderly.latch⟩
  | @launchSidecar agent image sidecar phase next recorded resolved answer =>
    cases answer with
    | error cause => exact orderly
    | ok handle =>
      have names : (build.session.withSidecar sidecar.name handle).sidecarNames =
          build.session.sidecarNames ++ [sidecar.name] := List.map_append
      refine ⟨names ▸ next.named orderly.named, ?_, fun latched => ?_⟩
      · refine names ▸ List.nodup_append.mpr ⟨orderly.once, List.nodup_singleton _, ?_⟩
        rintro name old _ fresh rfl
        obtain rfl := List.mem_singleton.mp fresh
        exact next.new old
      · exact absurd next (orderly.latch latched).not_next
  | _ => exact orderly

theorem Settles.orderly (settles : Settles build after) (orderly : build.Orderly) :
    after.Orderly := by
  cases settles with
  | keepTag => exact ⟨orderly.named, orderly.once, orderly.latch⟩
  | noteComplete complete => exact ⟨orderly.named, orderly.once, fun _ => complete⟩

theorem Moves.orderly (moves : Moves aim build calls after) (orderly : build.Orderly) :
    after.Orderly :=
  moves.keeps Move.orderly Settles.orderly orderly

end Frame

end Build

end BuildYard
