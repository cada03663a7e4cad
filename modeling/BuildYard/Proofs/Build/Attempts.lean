import BuildYard.Proofs.Build.Ledger
import BuildYard.Proofs.Build.Plays

/-!
# Clearing away attempts everything

What a build has is given up in one order: the sidecars as they are declared,
the work container, the checkout container, then the agent and its volume
unless the settings keep them, and at last the way to the engine. Every one of
these attempts is made, whatever became of those before it; what is reported
are the attempts that failed, and the session forgets all of them in any case.
How the session keeps its sidecars does not matter, and when a build was
cleared away there is nothing left to attempt but the last
(`clean_attempts_all`).
-/

set_option autoImplicit false

namespace BuildYard

/-! ## What there is to give up -/

/-- One thing that clearing away tries to give up. -/
inductive Release where
  | container (label : String) (handle : Handle)
  | volume (name : String)
  /-- what is kept for talking to the engine -/
  | driver

namespace Release

/-- The call that an attempt is, with how it came out. -/
def made : Release → Except EngineError Unit → CallMade
  | container _ handle, answer => ⟨.removeContainer handle, answer⟩
  | volume name, answer => ⟨.removeVolume name, answer⟩
  | driver, answer => ⟨.close, answer⟩

/-- What messages call the thing to be given up. -/
def label : Release → String
  | container label _ => label
  | volume _ => "volume"
  | driver => "driver"

/-- The id or the name of the thing to be given up. -/
def target : Release → String
  | container _ handle => handle.id
  | volume name => name
  | driver => "engine connection"

/-- The failure that an attempt comes to, if it fails. -/
def failure? (release : Release) : Except EngineError Unit → Option CleanupFailure
  | .ok () => none
  | .error cause => some { resource := release.label, target := release.target, cause }

end Release

/-- An attempt to give something up, and how it came out. -/
structure Tried where
  release : Release
  answer : Except EngineError Unit

namespace Tried

def call (tried : Tried) : CallMade :=
  tried.release.made tried.answer

def failure? (tried : Tried) : Option CleanupFailure :=
  tried.release.failure? tried.answer

theorem failure?_eq_none_iff {tried : Tried} : tried.failure? = none ↔ tried.answer = .ok () := by
  obtain ⟨release, answer⟩ := tried
  cases answer with
  | error cause => exact iff_of_false (Option.some_ne_none _) nofun
  | ok done => exact iff_of_true rfl rfl

end Tried

/-- The calls are these attempts, each made once and in this order, and the failures are those
of the attempts that failed. -/
def TriedAll (releases : List Release) (failures : List CleanupFailure)
    (calls : List CallMade) : Prop :=
  ∃ tried : List Tried, tried.map Tried.release = releases ∧ calls = tried.map Tried.call ∧
    failures = tried.filterMap Tried.failure?

section TriedAll

variable {releases others : List Release} {failures more : List CleanupFailure}
  {calls rest : List CallMade}

theorem triedAll_nil : TriedAll [] [] [] :=
  ⟨[], rfl, rfl, rfl⟩

theorem TriedAll.append (first : TriedAll releases failures calls)
    (second : TriedAll others more rest) :
    TriedAll (releases ++ others) (failures ++ more) (calls ++ rest) := by
  obtain ⟨tried, rfl, rfl, rfl⟩ := first
  obtain ⟨later, rfl, rfl, rfl⟩ := second
  exact ⟨tried ++ later, List.map_append, List.map_append.symm, List.filterMap_append.symm⟩

theorem triedAll_single (release : Release) (answer : Except EngineError Unit) :
    TriedAll [release] (release.failure? answer).toList [release.made answer] := by
  refine ⟨[⟨release, answer⟩], rfl, rfl, ?_⟩
  cases answer <;> rfl

end TriedAll

namespace Build

/-! ## What is attempted -/

/-- The label of a sidecar in messages, and the attempt to remove it. -/
def sidecarRelease (sidecar : String × Handle) : Release :=
  .container ("sidecar " ++ sidecar.1) sidecar.2

/-- **What clearing a build away attempts, in order**; sidecars as they were launched. -/
def releases (build : Build) : List Release :=
  build.session.sidecars.map sidecarRelease ++
    build.session.work.toList.map (.container "work container") ++
    build.session.checkout.toList.map (.container "checkout container") ++
    (if build.settings.agent.reuse then []
      else build.session.agent.toList.map (.container "agent container") ++
        build.session.volume.toList.map .volume) ++
    [.driver]

/-- A build whose session keeps its sidecars in another arrangement. -/
def arranged (build : Build) (sidecars : List (String × Handle)) : Build :=
  { build with session := { build.session with sidecars } }

theorem arranged_sidecars (build : Build) : build.arranged build.session.sidecars = build :=
  rfl

section Parts

variable {failures : List CleanupFailure} {calls : List CallMade}

theorem Removed.triedAll {removals : List (String × Handle)}
    (removed : Removed removals failures calls) :
    TriedAll (removals.map fun (label, handle) => .container label handle) failures calls := by
  induction removed with
  | nil => exact triedAll_nil
  | removed label handle _ ih =>
    exact (triedAll_single (.container label handle) (.ok ())).append ih
  | failed label handle cause _ ih =>
    exact (triedAll_single (.container label handle) (.error cause)).append ih

theorem VolumeRemoved.triedAll {volume : Option String}
    (removed : VolumeRemoved volume failures calls) :
    TriedAll (volume.toList.map .volume) failures calls := by
  cases removed with
  | none => exact triedAll_nil
  | removed volume => exact triedAll_single (.volume volume) (.ok ())
  | failed volume cause => exact triedAll_single (.volume volume) (.error cause)

theorem Closed.triedAll (closed : Closed failures calls) :
    TriedAll [.driver] failures calls := by
  cases closed with
  | ended => exact triedAll_single .driver (.ok ())
  | failed cause => exact triedAll_single .driver (.error cause)

end Parts

/-! ## The order of the sidecars -/

theorem eraseDups_eq_self {names : List String} (once : names.Nodup) : names.eraseDups = names := by
  induction names with
  | nil => rfl
  | cons name rest ih =>
    obtain ⟨new, once⟩ := List.nodup_cons.mp once
    have same : rest.filter (fun other => !other == name) = rest := by
      refine List.filter_eq_self.mpr fun other member => ?_
      have differ : other ≠ name := fun same => new (same ▸ member)
      simpa using differ
    rw [List.eraseDups_cons, same, ih once]

/-- Looking up the names of sidecars, each name once, gives the sidecars back. -/
theorem filterMap_sidecar?_names {session : Session} {sidecars : List (String × Handle)}
    (once : session.sidecarNames.Nodup) (arranged : sidecars ⊆ session.sidecars) :
    (sidecars.map (·.1)).filterMap (fun name => (session.sidecar? name).map (name, ·)) =
      sidecars := by
  rw [List.filterMap_map]
  refine (List.filterMap_congr (g := some) fun sidecar member => ?_).trans List.filterMap_some
  have found := (Session.sidecar?_eq_some_iff once).mpr (arranged member)
  simp [found]

/-- A name that no sidecar has is looked up in vain. -/
theorem sidecar?_eq_none {session : Session} {name : String}
    (unused : name ∉ session.sidecarNames) : session.sidecar? name = none := by
  refine Option.map_eq_none_iff.mpr (List.find?_eq_none.mpr fun sidecar member same => unused ?_)
  exact List.mem_map.mpr ⟨sidecar, member, by simpa using same⟩

/-- **Sidecars go in the order of their declaration**, however the session keeps them. -/
theorem sidecarsInOrder_arranged {build : Build} (orderly : build.Orderly)
    {sidecars : List (String × Handle)} (same : sidecars.Perm build.session.sidecars) :
    (build.arranged sidecars).session.sidecarsInOrder build.declaredNames =
      build.session.sidecars := by
  have names : sidecars.map (·.1) ⊆ build.session.sidecarNames := (same.map _).subset
  have once : (build.arranged sidecars).session.sidecarNames.Nodup :=
    (same.map _).nodup_iff.mpr orderly.once
  have others : sidecars.filter (fun sidecar => !build.declaredNames.contains sidecar.1) = [] := by
    refine List.filter_eq_nil_iff.mpr fun sidecar member => ?_
    have declared := orderly.named.subset (names (List.mem_map_of_mem member))
    simpa using declared
  obtain ⟨undone, split⟩ := orderly.named
  have missing : (undone.removeAll build.session.sidecarNames).eraseDups.filterMap
      (fun name => ((build.arranged sidecars).session.sidecar? name).map (name, ·)) = [] := by
    refine List.filterMap_eq_nil_iff.mpr fun name member => Option.map_eq_none_iff.mpr ?_
    obtain ⟨-, unused⟩ := List.mem_filter.mp (List.mem_eraseDups.mp member)
    refine sidecar?_eq_none fun running => ?_
    simp [names running] at unused
  -- what is declared are the names of the sidecars that run and then those still undone
  rw [Session.sidecarsInOrder, show (build.arranged sidecars).session.sidecars = sidecars from rfl,
    others, List.mergeSort_nil, List.append_nil, ← split, List.eraseDups_append,
    List.filterMap_append, missing, List.append_nil, eraseDups_eq_self orderly.once]
  exact filterMap_sidecar?_names once same.symm.subset

/-! ## Clearing away -/

section Clearing

variable {build : Build}

/-- **What a build removes is what it is to attempt**, however the session keeps its sidecars. -/
theorem releases_arranged (orderly : build.Orderly) {sidecars : List (String × Handle)}
    (same : sidecars.Perm build.session.sidecars) :
    ((build.arranged sidecars).removals.map fun (label, handle) =>
        Release.container label handle) ++
      ((build.session.volumeToRemove build.discardsAgent).toList.map .volume ++ [.driver]) =
        build.releases := by
  have order := sidecarsInOrder_arranged orderly same
  change ((build.arranged sidecars).session.removals build.declaredNames build.discardsAgent).map
    _ ++ _ = _
  rw [Session.removals, order, releases, Session.volumeToRemove, discardsAgent]
  simp only [List.map_append, List.map_map, ← Option.toList_map, Option.map_map,
    List.append_assoc]
  cases build.settings.agent.reuse with
  | false =>
    simp only [Bool.not_false, if_true, Bool.false_eq_true, if_false, ← Option.toList_map,
      Option.map_map, List.append_assoc]
    rfl
  | true => rfl

/-- What clearing away comes to says whether there are failures, and which. -/
theorem clearingResult_eq_ok_iff {failures : List CleanupFailure} :
    clearingResult failures = .ok () ↔ failures = [] := by
  cases failures with
  | nil => exact iff_of_true rfl rfl
  | cons failure more => exact iff_of_false nofun nofun

theorem eq_of_clearingResult_eq_error {failures : List CleanupFailure} {cause : ProvisionError}
    (failed : clearingResult failures = .error cause) : cause = .cleanupFailed failures := by
  cases failures with
  | nil => cases failed
  | cons failure more => exact (Except.error.inj failed).symm

/-- **Every attempt of a build is made, in order, whatever fails.** Success is when none fails,
and otherwise exactly those that failed are reported. The build that is left is the same in any
case. -/
def AttemptsAll (build : Build) : Outcome Unit := fun result calls after =>
  ∃ tried : List Tried, tried.map Tried.release = build.releases ∧
    calls = tried.map Tried.call ∧
    (result = .ok () ↔ ∀ one ∈ tried, one.answer = .ok ()) ∧
    (∀ cause, result = .error cause → cause = .cleanupFailed (tried.filterMap Tried.failure?)) ∧
    after = build.cleaned

theorem Cleared.attemptsAll {sidecars : List (String × Handle)} {after : Build}
    {result : Except ProvisionError Unit} {calls : List CallMade}
    (cleared : Cleared (build.arranged sidecars) result calls after) (orderly : build.Orderly)
    (same : sidecars.Perm build.session.sidecars) : AttemptsAll build result calls after := by
  cases cleared with
  | cleared removed volumeRemoved closed =>
    obtain ⟨tried, made, called, failed⟩ :=
      removed.triedAll.append (volumeRemoved.triedAll.append closed.triedAll)
    rw [← List.append_assoc] at failed
    refine ⟨tried, made.trans (releases_arranged orderly same), called, ?_, ?_, rfl⟩
    · rw [clearingResult_eq_ok_iff, failed, List.filterMap_eq_nil_iff]
      exact forall₂_congr fun _ _ => Tried.failure?_eq_none_iff
    · intro cause equal
      rw [eq_of_clearingResult_eq_error equal, failed]

theorem clean_attemptsAll (orderly : build.Orderly) {sidecars : List (String × Handle)}
    (same : sidecars.Perm build.session.sidecars) :
    Ensures clean (build.arranged sidecars) (AttemptsAll build) :=
  (clean_cleared _).mono fun _ _ _ cleared => cleared.attemptsAll orderly same

/-- A build that was cleared away has only the way to the engine to give up. -/
theorem releases_cleaned (build : Build) : build.cleaned.releases = [.driver] := by
  cases reuse : build.settings.agent.reuse <;> simp [releases, cleaned, Session.cleared, reuse]

end Clearing

section Runs

variable {declared : ContainerSet} {settings : Settings} {left : CarryOver} {workspace : String}
  {turns : List Turn} {build : Build}

/-- **Clearing a build away attempts everything once, in order, whatever fails**: the sidecars,
which are the first of those declared, in the order of their declaration and however the session
arranges them, then the containers and what goes with the agent. Clearing away once more only
closes. -/
theorem clean_attempts_all (run : Run (fresh declared settings left workspace) turns build) :
    (build.session.sidecarNames <+: declared.sidecars.map (·.name) ∧
      build.session.sidecarNames.Nodup) ∧
    (∀ sidecars : List (String × Handle), sidecars.Perm build.session.sidecars →
      Ensures clean (build.arranged sidecars) (AttemptsAll build)) ∧
    Ensures clean build.cleaned fun _ calls _ => calls.map (·.question) = [.close] := by
  refine ⟨⟨?_, run.orderly.once⟩, fun _ same => clean_attemptsAll run.orderly same, ?_⟩
  · rw [← run.declared_eq]
    exact run.orderly.named
  · refine (clean_attemptsAll (cleaned_orderly build) (.refl _)).mono ?_
    rintro _ _ _ ⟨tried, made, rfl, -⟩
    rw [releases_cleaned, List.map_eq_singleton_iff] at made
    obtain ⟨⟨_, answer⟩, rfl, rfl⟩ := made
    rfl

/-- Settings under which the agent goes with the rest. -/
def agentNotKept : Settings :=
  { agent := { reuse := false } }

/-- A build in which everything was launched, under these settings. -/
def retriedNotKept : List Turn × Build :=
  play InMemory.answer retried (fresh oneSidecar agentNotKept {} ".") {}

/-- A build that has one of everything attempts six things, whatever fails. -/
theorem clean_attempts_all_notKept :
    retriedNotKept.2.releases.map Release.label =
        ["sidecar db", "work container", "checkout container", "agent container", "volume",
          "driver"] ∧
      Ensures clean retriedNotKept.2 (AttemptsAll retriedNotKept.2) := by
  have attempted := (clean_attempts_all (run_play InMemory.answer retried
    (fresh oneSidecar agentNotKept {} ".") {})).2.1 _ (.refl _)
  rw [arranged_sidecars] at attempted
  exact ⟨by decide +kernel, attempted⟩

end Runs

end Build

end BuildYard
