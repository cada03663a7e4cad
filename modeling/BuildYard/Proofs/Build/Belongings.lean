import BuildYard.Proofs.Build.Handles
import BuildYard.Proofs.Build.Stock

/-!
# What belongs to a build

The containers and the volume that a session records belong to the build. What
belonged to it before a request and what the request created either was passed
to a removal, or belongs to the build afterwards, or the engine has said that
it does not exist (`Accounted`, `Went.accounted`). And a build asks only about
its own: whatever it looks for or removes it has got before (`OwnFirst`). So a
build that has been cleared away has passed all that it ever created to a
removal, if the engine never denied what is there.
-/

set_option autoImplicit false

namespace BuildYard

/-- The things that a session records. -/
def Session.things (session : Session) : List Thing :=
  session.handles.map (fun handle => .container handle.id) ++ session.volume.toList.map .volume

/-- The thing that a call looks for or removes, whatever comes of it. -/
def CallMade.about : CallMade → Option Thing
  | ⟨.hasContainer id, _⟩ => some (.container id)
  | ⟨.hasVolume name, _⟩ => some (.volume name)
  | call => call.gaveUp

theorem CallMade.about_of_gaveUp {call : CallMade} {thing : Thing}
    (gaveUp : call.gaveUp = some thing) : call.about = some thing := by
  obtain ⟨question, answer⟩ := call
  cases question with
  | hasContainer id => cases gaveUp
  | hasVolume name => cases gaveUp
  | _ => exact gaveUp

theorem CallMade.about_of_missed {call : CallMade} {thing : Thing}
    (missed : call.missed = some thing) : call.about = some thing := by
  obtain ⟨question, answer⟩ := call
  cases question with
  | hasContainer id =>
    obtain ⟨-, rfl⟩ := missed_hasContainer missed
    rfl
  | hasVolume name =>
    obtain ⟨-, rfl⟩ := missed_hasVolume missed
    rfl
  | _ => cases missed

/-! ## Accounts -/

section Accounted

variable {before middle after : List Thing} {calls more : List CallMade}

/-- All things there were before and all that were created have been passed to a removal, or are
there still, or have been missed. -/
def Accounted (before : List Thing) (calls : List CallMade) (after : List Thing) : Prop :=
  ∃ abandoned, (gaveUpBy calls ++ (after ++ abandoned)).Perm (before ++ gotBy calls) ∧
    ∀ thing ∈ abandoned, thing ∈ missedBy calls

theorem accounted_same (got : gotBy calls = []) (gaveUp : gaveUpBy calls = []) :
    Accounted before calls before := by
  refine ⟨[], ?_, List.forall_mem_nil _⟩
  rw [got, gaveUp, List.nil_append]

theorem Accounted.trans (first : Accounted before calls middle)
    (second : Accounted middle more after) : Accounted before (calls ++ more) after := by
  obtain ⟨abandoned, same, missed⟩ := first
  obtain ⟨abandoned', same', missed'⟩ := second
  refine ⟨abandoned ++ abandoned', List.perm_iff_count.mpr fun thing => ?_, ?_⟩
  · have count := same.count_eq thing
    have count' := same'.count_eq thing
    simp only [gaveUpBy_append, gotBy_append, List.count_append] at count count' ⊢
    omega
  · intro thing member
    rw [missedBy_append, List.mem_append]
    exact (List.mem_append.mp member).imp (missed thing) (missed' thing)

end Accounted

/-! ## Asking about one's own -/

/-- Whoever has `own` looks for and removes nothing but that and what is created on the way. -/
def OwnFirst : List Thing → List CallMade → Prop
  | _, [] => True
  | own, call :: calls =>
    (∀ thing, call.about = some thing → thing ∈ own) ∧ OwnFirst (own ++ call.got.toList) calls

namespace OwnFirst

variable {own more : List Thing} {calls rest : List CallMade}

theorem mono (first : OwnFirst own calls) (subset : own ⊆ more) : OwnFirst more calls := by
  induction calls generalizing own more with
  | nil => trivial
  | cons call calls ih =>
    obtain ⟨here, later⟩ := first
    exact ⟨fun thing about => subset (here thing about),
      ih later (List.append_subset.mpr
        ⟨List.subset_append_of_subset_left _ subset, List.subset_append_right _ _⟩)⟩

theorem append (first : OwnFirst own calls) (second : OwnFirst (own ++ gotBy calls) rest) :
    OwnFirst own (calls ++ rest) := by
  induction calls generalizing own with
  | nil => simpa [gotBy] using second
  | cons call calls ih =>
    obtain ⟨here, later⟩ := first
    refine ⟨here, ih later ?_⟩
    rw [List.append_assoc, ← gotBy_singleton, ← gotBy_append]
    exact second

/-- **What a call is about had been got before.** -/
theorem mem_of_about {call : CallMade} {thing : Thing}
    (first : OwnFirst own (calls ++ call :: rest)) (about : call.about = some thing) :
    thing ∈ own ++ gotBy calls := by
  induction calls generalizing own with
  | nil => exact List.mem_append_left _ (first.1 thing about)
  | cons earlier calls ih =>
    have member := ih first.2
    rwa [List.append_assoc, ← gotBy_singleton, ← gotBy_append] at member

end OwnFirst

/-- Calls that are about what one has. -/
theorem ownFirst_of_forall {own : List Thing} {calls : List CallMade}
    (here : ∀ call ∈ calls, ∀ thing, call.about = some thing → thing ∈ own) :
    OwnFirst own calls := by
  induction calls generalizing own with
  | nil => trivial
  | cons call calls ih =>
    rw [List.forall_mem_cons] at here
    exact ⟨here.1, ih fun other member thing about =>
      List.mem_append_left _ (here.2 other member thing about)⟩

namespace Build

variable {build after : Build} {calls : List CallMade} {result : Except ProvisionError Unit}

/-! ## Preparations -/

section Prepared

variable {session : Session}

theorem mem_things_of_agent {handle : Handle} (recorded : session.agent = some handle) :
    .container handle.id ∈ session.things := by
  simp [Session.things, Session.handles, recorded]

theorem mem_things_of_volume {volume : String} (recorded : session.volume = some volume) :
    .volume volume ∈ session.things := by
  simp [Session.things, recorded]

/-- What a search for the agent that finds none has to do with things. -/
theorem AgentMissing.things (missing : AgentMissing session calls) :
    gotBy calls = [] ∧ gaveUpBy calls = [] ∧ OwnFirst session.things calls ∧
      ∀ handle ∈ session.agent.toList, .container handle.id ∈ missedBy calls := by
  cases missing with
  | unrecorded none =>
    rw [none]
    exact ⟨rfl, rfl, trivial, List.forall_mem_nil _⟩
  | gone recorded =>
    rw [recorded]
    refine ⟨rfl, rfl, ⟨?_, trivial⟩, List.forall_mem_singleton.mpr (List.mem_singleton.mpr rfl)⟩
    rintro _ ⟨⟩
    exact mem_things_of_agent recorded

theorem VolumeMissing.things (missing : VolumeMissing session calls) :
    gotBy calls = [] ∧ gaveUpBy calls = [] ∧ OwnFirst session.things calls ∧
      ∀ volume ∈ session.volume.toList, .volume volume ∈ missedBy calls := by
  cases missing with
  | unrecorded none =>
    rw [none]
    exact ⟨rfl, rfl, trivial, List.forall_mem_nil _⟩
  | gone recorded =>
    rw [recorded]
    refine ⟨rfl, rfl, ⟨?_, trivial⟩, List.forall_mem_singleton.mpr (List.mem_singleton.mpr rfl)⟩
    rintro _ ⟨⟩
    exact mem_things_of_volume recorded

/-- What a search for a volume has to do with things: it creates the volume that it calls new,
and finds the one recorded or is told that it does not exist. -/
theorem VolumeSought.things {result : Except ProvisionError (String × Bool)}
    (sought : VolumeSought session result calls) :
    gotBy calls = (newVolume result).map .volume ∧ gaveUpBy calls = [] ∧
      OwnFirst session.things calls := by
  cases sought with
  | kept recorded =>
    refine ⟨rfl, rfl, ?_, trivial⟩
    rintro _ ⟨⟩
    exact mem_things_of_volume recorded
  | uncertain recorded cause =>
    refine ⟨rfl, rfl, ?_, trivial⟩
    rintro _ ⟨⟩
    exact mem_things_of_volume recorded
  | created missing volume =>
    obtain ⟨got, gaveUp, own, -⟩ := missing.things
    rw [gotBy_append, gaveUpBy_append, got, gaveUp]
    exact ⟨rfl, rfl, own.append ⟨nofun, trivial⟩⟩
  | notCreated missing cause =>
    obtain ⟨got, gaveUp, own, -⟩ := missing.things
    rw [gotBy_append, gaveUpBy_append, got, gaveUp]
    exact ⟨rfl, rfl, own.append ⟨nofun, trivial⟩⟩

/-- The volume found by a search takes the place of one that does not exist, if of any. -/
theorem VolumeSought.replaced {volume : String} {created : Bool}
    (sought : VolumeSought session (.ok (volume, created)) calls) :
    ∃ replaced, (volume :: replaced).Perm
        (session.volume.toList ++ newVolume (.ok (volume, created))) ∧
      ∀ old ∈ replaced, .volume old ∈ missedBy calls := by
  cases sought with
  | kept recorded =>
    refine ⟨[], ?_, List.forall_mem_nil _⟩
    rw [recorded]
    exact .refl _
  | created missing volume =>
    obtain ⟨-, -, -, missed⟩ := missing.things
    refine ⟨session.volume.toList, (List.perm_append_singleton _ _).symm, fun old member => ?_⟩
    rw [missedBy_append]
    exact List.mem_append_left _ (missed old member)

theorem GivenUp.things {volume : String} {created : Bool}
    (givenUp : GivenUp volume created calls) :
    gotBy calls = [] ∧ gaveUpBy calls = (newVolume (.ok (volume, created))).map .volume ∧
      OwnFirst ((newVolume (.ok (volume, created))).map .volume) calls := by
  cases givenUp with
  | kept => exact ⟨rfl, rfl, trivial⟩
  | removed answer =>
    refine ⟨rfl, rfl, ?_, trivial⟩
    rintro _ ⟨⟩
    exact List.mem_singleton.mpr rfl

theorem things_withAgent (session : Session) (handle : Handle) (volume : String) :
    (session.withAgent handle volume).things =
      session.slots.map (fun handle => .container handle.id) ++
        [.container handle.id, .volume volume] := by
  simp only [Session.things, Session.handles, Session.withAgent, List.map_append, List.append_assoc]
  rfl

/-- **A preparation accounts for its things**, and asks about its own only. -/
theorem Prepared.things (prepared : Prepared build result calls after) :
    Accounted build.session.things calls after.session.things ∧
      OwnFirst build.session.things calls := by
  cases prepared with
  | kept recorded =>
    refine ⟨accounted_same rfl rfl, ?_, trivial⟩
    rintro _ ⟨⟩
    exact mem_things_of_agent recorded
  | uncertain recorded cause =>
    refine ⟨accounted_same rfl rfl, ?_, trivial⟩
    rintro _ ⟨⟩
    exact mem_things_of_agent recorded
  | noVolume missing sought =>
    obtain ⟨got, gaveUp, own, -⟩ := missing.things
    obtain ⟨got', gaveUp', own'⟩ := sought.things
    refine ⟨accounted_same ?_ ?_, own.append ?_⟩
    · rw [gotBy_append, got, got']
      rfl
    · rw [gaveUpBy_append, gaveUp, gaveUp', List.append_nil]
    · rw [got, List.append_nil]
      exact own'
  | @launched checks search volume created missing sought handle =>
    obtain ⟨got, gaveUp, own, gone⟩ := missing.things
    obtain ⟨got', gaveUp', own'⟩ := sought.things
    obtain ⟨replaced, same, denied⟩ := sought.replaced
    have launch : gotBy [⟨.launchAgent build.settings.images.agent volume, .ok handle⟩] =
        [.container handle.id] := rfl
    -- the agent before and the volume before, if any, make room for those recorded now
    refine ⟨⟨build.session.agent.toList.map (fun handle => .container handle.id) ++
      replaced.map .volume, ?_, ?_⟩, own.append ?_⟩
    · have volumes := (same.map Thing.volume)
      rw [things_withAgent, Session.things, Session.handles]
      refine List.perm_iff_count.mpr fun thing => ?_
      have count := volumes.count_eq thing
      simp only [gaveUpBy_append, gotBy_append, gaveUp, got, gaveUp', got', launch,
        List.map_append, List.map_cons, List.count_append, List.count_cons, List.count_nil]
        at count ⊢
      change (0 + (0 + 0)) + _ = _
      omega
    · intro thing member
      simp only [missedBy_append, List.mem_append]
      rcases List.mem_append.mp member with agent | old
      · obtain ⟨handle, recorded, rfl⟩ := List.mem_map.mp agent
        exact .inl (gone handle recorded)
      · obtain ⟨volume, recorded, rfl⟩ := List.mem_map.mp old
        exact .inr (.inl (denied volume recorded))
    · rw [got, List.append_nil]
      exact own'.append ⟨by rintro _ ⟨⟩, trivial⟩
  | @notLaunched checks search cleanup volume created missing sought cause givenUp =>
    obtain ⟨got, gaveUp, own, -⟩ := missing.things
    obtain ⟨got', gaveUp', own'⟩ := sought.things
    obtain ⟨got'', gaveUp'', own''⟩ := givenUp.things
    have launch : gotBy [⟨.launchAgent build.settings.images.agent volume, .error cause⟩] = [] :=
      rfl
    rw [List.append_cons search]
    refine ⟨⟨[], ?_, List.forall_mem_nil _⟩, own.append ?_⟩
    · rw [List.append_nil]
      simp only [gaveUpBy_append, gotBy_append, gaveUp, got, gaveUp', got', gaveUp'', got'',
        launch, List.nil_append, List.append_nil]
      exact List.perm_append_comm
    · rw [got, List.append_nil]
      have launched : OwnFirst (build.session.things ++ gotBy search)
          [⟨.launchAgent build.settings.images.agent volume, .error cause⟩] :=
        ⟨by rintro _ ⟨⟩, trivial⟩
      refine (own'.append launched).append (own''.mono ?_)
      rw [gotBy_append, got', launch, List.append_nil]
      exact List.subset_append_right _ _

end Prepared

/-! ## Beside the agent -/

section Moves

variable {aim : Aim} {call : CallMade}

/-- Calls that have nothing to do with volumes and look for nothing and remove nothing. -/
structure Supplies (build : Build) (calls : List CallMade) (after : Build) : Prop where
  volume : after.session.volume = build.session.volume
  got : ∀ call ∈ calls, call.createdVolume = none
  about : ∀ call ∈ calls, call.about = none

theorem Move.supplies (move : Move build aim call after) (other : aim ≠ .preparation) :
    Supplies build [call] after := by
  have single {after : Build} {call : CallMade}
      (volume : after.session.volume = build.session.volume) (got : call.createdVolume = none)
      (about : call.about = none) : Supplies build [call] after :=
    ⟨volume, List.forall_mem_singleton.mpr got, List.forall_mem_singleton.mpr about⟩
  cases move with
  | attachAgent recorded input answer => exact single rfl rfl rfl
  | askImage unresolved asks answer => cases asks <;> exact single rfl rfl rfl
  | launchCheckout phase vacant recorded resolved answer =>
    exact single (by cases answer <;> rfl) rfl rfl
  | launchWork phase complete vacant recorded resolved answer =>
    exact single (by cases answer <;> rfl) rfl rfl
  | launchSidecar phase next recorded resolved answer =>
    exact single (by cases answer <;> rfl) rfl rfl
  | exec current complete starter answer => exact single rfl rfl rfl
  | _ => exact absurd rfl other

theorem Moves.supplies (moves : Moves aim build calls after) (other : aim ≠ .preparation) :
    Supplies build calls after := by
  induction moves with
  | refl => exact ⟨rfl, List.forall_mem_nil _, List.forall_mem_nil _⟩
  | call move _ ih =>
    obtain ⟨volume, got, about⟩ := move.supplies other
    refine ⟨ih.volume.trans volume, ?_, ?_⟩
    · exact List.forall_mem_cons.mpr ⟨got _ List.mem_cons_self, ih.got⟩
    · exact List.forall_mem_cons.mpr ⟨about _ List.mem_cons_self, ih.about⟩
  | settle settles _ ih =>
    exact ⟨ih.volume.trans (congrArg Session.volume settles.session), ih.got, ih.about⟩

theorem Went.supplies {request : Request} (went : Went build request result calls after)
    (unprepared : request ≠ .prepareAgent) (uncleared : request ≠ .clean) :
    Supplies build calls after := by
  cases went with
  | prepared => exact absurd rfl unprepared
  | attached attached => exact attached.moves.supplies (by simp)
  | held attached => exact attached.moves.supplies (by simp)
  | ran moves => exact moves.supplies (by simp)
  | advanced => exact ⟨rfl, List.forall_mem_nil _, List.forall_mem_nil _⟩
  | cleared => exact absurd rfl uncleared

theorem gaveUpBy_of_about (about : ∀ call ∈ calls, call.about = none) : gaveUpBy calls = [] := by
  refine List.filterMap_eq_nil_iff.mpr fun call member => ?_
  cases gaveUp : call.gaveUp with
  | none => rfl
  | some thing => cases (about call member).symm.trans (CallMade.about_of_gaveUp gaveUp)

/-- What is launched beside the agent is all that is created there. -/
theorem gotBy_beside (beside : Beside build calls after) (supplies : Supplies build calls after) :
    gotBy calls = (launchedBy calls).map fun handle => .container handle.id := by
  rw [launchedBy, List.map_filterMap]
  refine List.filterMap_congr fun call member => ?_
  have agent := List.filterMap_eq_nil_iff.mp beside.launched call member
  rw [CallMade.got, supplies.got call member, call.created_eq, agent]
  exact Option.or_none

/-- **What happens beside the agent accounts for its things.** -/
theorem things_beside (balanced : Balanced build calls after) (beside : Beside build calls after)
    (supplies : Supplies build calls after) :
    Accounted build.session.things calls after.session.things ∧
      OwnFirst build.session.things calls := by
  have slots : after.session.slots.Perm (build.session.slots ++ launchedBy calls) := by
    refine List.perm_iff_count.mpr fun handle => ?_
    rw [balanced.slots, List.count_append]
  refine ⟨⟨[], ?_, List.forall_mem_nil _⟩, ownFirst_of_forall fun call member thing about => ?_⟩
  · have containers := slots.map fun handle : Handle => Thing.container handle.id
    rw [gaveUpBy_of_about supplies.about, gotBy_beside beside supplies, Session.things,
      Session.things, Session.handles, Session.handles, supplies.volume, beside.agent]
    refine List.perm_iff_count.mpr fun thing => ?_
    have count := containers.count_eq thing
    simp only [List.map_append, List.count_append, List.count_nil] at count ⊢
    omega
  · cases (supplies.about call member).symm.trans about

end Moves

/-! ## Clearings -/

section Cleared

theorem Removed.gaveUpBy_eq {removals : List (String × Handle)} {failures : List CleanupFailure}
    (removed : Removed removals failures calls) :
    gaveUpBy calls = removals.map fun removal => .container removal.2.id := by
  induction removed with
  | nil => rfl
  | removed resource handle _ ih => exact congrArg (Thing.container handle.id :: ·) ih
  | failed resource handle cause _ ih => exact congrArg (Thing.container handle.id :: ·) ih

theorem VolumeRemoved.gaveUpBy_eq {volume : Option String} {failures : List CleanupFailure}
    (removed : VolumeRemoved volume failures calls) :
    gaveUpBy calls = volume.toList.map .volume := by
  cases removed <;> rfl

theorem Closed.gaveUpBy_eq {failures : List CleanupFailure} (closed : Closed failures calls) :
    gaveUpBy calls = [] := by
  cases closed <;> rfl

theorem CallMade.got_of_clears {call : CallMade} (clears : Clears call.question) :
    call.got = none := by
  obtain ⟨question, answer⟩ := call
  cases question with
  | removeContainer handle => rfl
  | removeVolume name => rfl
  | close => rfl
  | _ => exact clears.elim

theorem CallMade.about_of_clears {call : CallMade} (clears : Clears call.question) :
    call.about = call.gaveUp := by
  obtain ⟨question, answer⟩ := call
  cases question with
  | removeContainer handle => rfl
  | removeVolume name => rfl
  | close => rfl
  | _ => exact clears.elim

/-- What belonged to a build is what clearing it away removes and what is left to it. -/
theorem things_cleaned (build : Build) :
    build.session.things.Perm
      ((build.session.slots ++ build.discarded).map (fun handle => .container handle.id) ++
        (build.session.volumeToRemove build.discardsAgent).toList.map .volume ++
          build.cleaned.session.things) := by
  have kept : build.cleaned.session = build.session.cleared build.discardsAgent := rfl
  rw [kept, discarded, Session.things, Session.things, Session.handles, Session.handles,
    Session.slots_eq (build.session.cleared _)]
  cases build.discardsAgent <;>
    simp [Session.cleared, Session.volumeToRemove]

/-- **Clearing away accounts for its things**, and asks about its own only. -/
theorem Cleared.things (cleared : Cleared build result calls after) (orderly : build.Orderly) :
    Accounted build.session.things calls after.session.things ∧
      OwnFirst build.session.things calls := by
  have got : gotBy calls = [] := List.filterMap_eq_nil_iff.mpr fun call member =>
    CallMade.got_of_clears (cleared.clears call member)
  have same : (gaveUpBy calls ++ after.session.things).Perm build.session.things := by
    have removed := (cleared.removedBy_perm orderly).map fun handle : Handle =>
      Thing.container handle.id
    rw [cleared.removedBy_eq] at removed
    refine .trans ?_ (things_cleaned build).symm
    rw [cleared.after_eq]
    refine List.Perm.append_right _ ?_
    cases cleared with
    | cleared containers volume closed =>
      rw [gaveUpBy_append, gaveUpBy_append, containers.gaveUpBy_eq, volume.gaveUpBy_eq,
        closed.gaveUpBy_eq, List.append_nil]
      rw [List.map_map] at removed
      exact removed.append_right _
  refine ⟨⟨[], ?_, List.forall_mem_nil _⟩, ownFirst_of_forall fun call member thing about => ?_⟩
  · rw [got, List.append_nil, List.append_nil]
    exact same
  · rw [CallMade.about_of_clears (cleared.clears call member)] at about
    have gaveUp : thing ∈ gaveUpBy calls := List.mem_filterMap.mpr ⟨call, member, about⟩
    exact same.subset (List.mem_append_left _ gaveUp)

end Cleared

/-! ## Runs -/

/-- **Every request accounts for the things of its build, and asks about its own only.** -/
theorem Went.things {request : Request} (went : Went build request result calls after)
    (orderly : build.Orderly) :
    Accounted build.session.things calls after.session.things ∧
      OwnFirst build.session.things calls := by
  rcases went.cases_agent with ⟨-, prepared⟩ | ⟨unprepared, uncleared, beside⟩ | ⟨-, cleared⟩
  · exact prepared.things
  · exact things_beside (went.balanced uncleared) beside (went.supplies unprepared uncleared)
  · exact cleared.things orderly

section Run

variable {declared : ContainerSet} {settings : Settings} {left : CarryOver} {workspace : String}
  {turns : List Turn}

/-- What an earlier build left. -/
def leftThings (left : CarryOver) : List Thing :=
  (Session.ofCarryOver left).things

theorem Run.accounted (run : Run (fresh declared settings left workspace) turns build) :
    Accounted (leftThings left) (callsOf turns) build.session.things := by
  refine run.induction (fun turns build =>
    Accounted (leftThings left) (callsOf turns) build.session.things) ?_ ?_
  · exact accounted_same rfl rfl
  · intro turns turn run went accounted
    rw [callsOf_concat]
    exact accounted.trans (went.things run.orderly).1

theorem Run.ownFirst (run : Run (fresh declared settings left workspace) turns build) :
    OwnFirst (leftThings left) (callsOf turns) := by
  refine run.induction (fun turns _ => OwnFirst (leftThings left) (callsOf turns)) trivial ?_
  intro turns turn run went first
  obtain ⟨abandoned, same, -⟩ := run.accounted
  rw [callsOf_concat]
  refine first.append ((went.things run.orderly).2.mono fun thing member => ?_)
  exact same.subset (List.mem_append_right _ (List.mem_append_left _ member))

theorem things_cleaned_eq_nil (discards : build.settings.agent.reuse = false) :
    build.cleaned.session.things = [] := by
  simp [cleaned, Session.cleared, Session.things, Session.handles, Session.slots_eq, discards]

/-- **Nothing belongs any more to a build that keeps nothing and was cleared away last.** -/
theorem Run.things_eq_nil (run : Run (fresh declared settings {} workspace) turns build)
    (discards : settings.agent.reuse = false)
    (ended : ∀ turn ∈ turns.getLast?, turn.request = .clean) : build.session.things = [] := by
  cases run with
  | start => rfl
  | @turn turns turn run happens =>
    have clean := ended turn (by simp)
    have cleared := (happens.went run.orderly).cleared_of_clean clean
    rw [cleared.after_eq]
    refine things_cleaned_eq_nil ?_
    rw [run.settings_eq]
    exact discards

end Run

end Build

end BuildYard
