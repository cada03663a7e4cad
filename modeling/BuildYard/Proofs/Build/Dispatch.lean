import BuildYard.Proofs.Build.Moves

/-!
# Operations as moves

Preparing, attaching and running consist of moves: each call that they make is
one that the build may make as it is at that point, and the session takes in
what came of it (`Prepared.moves`, `runProcess_moves`). The sidecars need
an induction over those not looked at yet: the ones before them run.
-/

set_option autoImplicit false

namespace BuildYard

theorem ImageSource.same_self (source : ImageSource) : source.same source = true := by
  cases source <;> simp [same, Path.same]

namespace Build

/-! ## Images -/

/-- How a build comes by the tag of an image source. -/
inductive ImageKnown (build : Build) (source : ImageSource) : Outcome String where
  | known {tag : String} (known : build.tag? source = some tag) :
      ImageKnown build source (.ok tag) [] build
  | resolved {tag : String} {calls : List CallMade} (unresolved : build.tag? source = none)
      (resolved : source.Resolved (.ok tag) calls) :
      ImageKnown build source (.ok tag) calls (build.keepingTag source tag)
  | failed {cause : ResolutionError} {calls : List CallMade}
      (unresolved : build.tag? source = none) (resolved : source.Resolved (.error cause) calls) :
      ImageKnown build source (.error (.imageResolutionFailed source.describe cause)) calls build

theorem resolveImage_known (build : Build) (source : ImageSource) :
    Ensures (resolveImage source) build (ImageKnown build source) := by
  simp only [resolveImage, ensures_current_bind]
  cases found : build.resolved.find? (·.1.same source) with
  | some entry =>
    obtain ⟨known, tag⟩ := entry
    exact ensures_pure.mpr (.known (by rw [tag?, found, Option.map_some]))
  | none =>
    have unresolved : build.tag? source = none := by rw [tag?, found, Option.map_none]
    refine ensures_liftOr_bind.mpr ?_
    refine Work.Ensures.mono (source.resolve_resolved build.workspace) ?_
    intro answer calls resolved
    cases answer with
    | error cause => exact .failed unresolved resolved
    | ok tag =>
      refine ensures_modify_bind.mpr (ensures_pure.mpr ?_)
      rw [List.append_nil]
      exact .resolved unresolved resolved

/-- Calls about an image that has no tag yet. -/
theorem moves_of_asks {build : Build} {source : ImageSource}
    (unresolved : build.tag? source = none) :
    ∀ calls : List CallMade, (∀ call ∈ calls, source.Asks call.question) →
      Moves .process build calls build
  | [], _ => .refl build
  | call :: calls, asks =>
    .call (.askImage unresolved (asks call List.mem_cons_self) call.answer)
      (moves_of_asks unresolved calls fun more member => asks more (List.mem_cons_of_mem _ member))

namespace ImageKnown

variable {build after : Build} {source : ImageSource} {result : Except ProvisionError String}
  {calls : List CallMade}

theorem moves (known : ImageKnown build source result calls after) :
    Moves .process build calls after := by
  cases known with
  | known => exact .refl build
  | @resolved tag _ unresolved resolved =>
    have keep : Moves .process build [] (build.keepingTag source tag) :=
      .settle (.keepTag unresolved tag) (.refl _)
    simpa only [List.append_nil] using (moves_of_asks unresolved calls resolved.asks).trans keep
  | failed unresolved resolved => exact moves_of_asks unresolved calls resolved.asks

/-- Only the tags that a build knows change. -/
theorem after_eq (known : ImageKnown build source result calls after) :
    after = { build with resolved := after.resolved } := by
  cases known <;> rfl

theorem tag?_eq {tag : String} (known : ImageKnown build source (.ok tag) calls after) :
    after.tag? source = some tag := by
  cases known with
  | known known => exact known
  | resolved unresolved _ =>
    have missing : build.resolved.find? (·.1.same source) = none := by
      simpa only [tag?, Option.map_eq_none_iff] using unresolved
    simp only [tag?, keepingTag, List.find?_append, missing, Option.none_or, List.find?_cons,
      source.same_self, Option.map_some]

end ImageKnown

/-- An image is resolved by moves that leave all but the known tags as it is. -/
theorem resolveImage_bind_moves {α : Type} {build : Build} {source : ImageSource}
    {f : String → Operation α} {post : Outcome α}
    (known : ∀ image calls tags, Moves .process build calls { build with resolved := tags } →
      tag? { build with resolved := tags } source = some image →
      Ensures (f image) { build with resolved := tags } fun result more =>
        post result (calls ++ more))
    (failed : ∀ cause calls, Moves .process build calls build →
      post (.error (.imageResolutionFailed source.describe cause)) calls build) :
    Ensures (resolveImage source >>= f) build post := by
  refine (resolveImage_known build source).bind ?_ ?_
  · intro image calls middle outcome
    have same := outcome.after_eq
    have moves := outcome.moves
    have resolved := outcome.tag?_eq
    rw [same] at moves resolved ⊢
    exact known image calls middle.resolved moves resolved
  · intro cause calls middle outcome
    have moves := outcome.moves
    cases outcome with
    | failed => exact failed _ calls moves

/-! ## The checkout and the work container -/

/-- The build has a container in the slot that `slot` names if the operation yields it. -/
def Yielding (slot : Session → Option Handle) (build : Build) : Outcome Handle :=
  fun result calls after => Moves .process build calls after ∧
    ∀ container, result = .ok container → slot after.session = some container

theorem Yielding.failed {slot : Session → Option Handle} {build after : Build}
    {cause : ProvisionError} {calls : List CallMade} (moves : Moves .process build calls after) :
    Yielding slot build (.error cause) calls after := by
  refine ⟨moves, ?_⟩
  rintro _ ⟨⟩

theorem Yielding.ok {slot : Session → Option Handle} {build after : Build} {container : Handle}
    {calls : List CallMade} (moves : Moves .process build calls after)
    (there : slot after.session = some container) :
    Yielding slot build (.ok container) calls after := by
  refine ⟨moves, fun other equal => ?_⟩
  injection equal with equal
  rw [there, equal]

theorem ensureCheckout_moves {build : Build} (phase : build.session.phase = .preCheckout) :
    Ensures ensureCheckout build (Yielding Session.checkout build) := by
  simp only [ensureCheckout, ensures_current_bind]
  cases vacant : build.session.checkout with
  | some container => exact ensures_pure.mpr (.ok (.refl build) vacant)
  | none =>
    cases recorded : build.session.agent with
    | none => exact (ensures_agent_bind_none recorded).mpr (.failed (.refl build))
    | some beside =>
      refine (ensures_agent_bind recorded).mpr (ensures_current_bind.mpr ?_)
      refine resolveImage_bind_moves (fun image calls tags before resolved => ?_)
        fun cause calls before => .failed before
      have launch := @Move.launchCheckout { build with resolved := tags } _ _ phase vacant
        recorded resolved
      refine ensures_call_bind.mpr ⟨fun container => ?_, fun cause => ?_⟩
      · simp only [ensures_note_bind, ensures_changeSession_bind, ensures_pure]
        exact .ok (before.trans (.single (launch (.ok container)))) rfl
      · exact .failed (before.trans (.single (launch (.error cause))))

theorem ensureWork_moves {build : Build} (phase : build.session.phase = .build)
    (complete : build.Complete) :
    Ensures ensureWork build (Yielding Session.work build) := by
  simp only [ensureWork, ensures_current_bind]
  cases vacant : build.session.work with
  | some container => exact ensures_pure.mpr (.ok (.refl build) vacant)
  | none =>
    cases recorded : build.session.agent with
    | none => exact (ensures_agent_bind_none recorded).mpr (.failed (.refl build))
    | some beside =>
      refine (ensures_agent_bind recorded).mpr (ensures_current_bind.mpr ?_)
      simp only [launchDeclared, bind_assoc]
      refine resolveImage_bind_moves (fun image calls tags before resolved => ?_)
        fun cause calls before => .failed before
      have launch := @Move.launchWork { build with resolved := tags } _ _ phase complete vacant
        recorded resolved
      refine ensures_call_bind.mpr ⟨fun container => ?_, fun cause => ?_⟩
      · simp only [ensures_note_bind, ensures_changeSession_bind, ensures_pure]
        exact .ok (before.trans (.single (launch (.ok container)))) rfl
      · exact .failed (before.trans (.single (launch (.error cause))))

/-! ## Sidecars -/

section Sidecars

variable {build : Build} {done rest : List Sidecar} {sidecar : Sidecar}

theorem sidecar?_isSome_iff {session : Session} {name : String} :
    (session.sidecar? name).isSome = true ↔ name ∈ session.sidecarNames := by
  simp only [Session.sidecar?, Option.isSome_map, List.find?_isSome, Session.sidecarNames,
    List.mem_map, beq_iff_eq]

/-- The sidecars `done` run, and `rest` are declared after them. -/
structure Upto (build : Build) (done rest : List Sidecar) : Prop where
  orderly : build.Orderly
  phase : build.session.phase = .build
  declared : build.declared.sidecars = done ++ rest
  count : done.length ≤ build.session.sidecars.length

theorem Upto.complete (upto : build.Upto done []) : build.Complete := by
  refine upto.orderly.named.eq_of_length_le ?_
  simpa only [declaredNames, Session.sidecarNames, List.length_map, upto.declared,
    List.append_nil] using upto.count

/-- Of a name that is not among those done, the sidecar runs exactly if more run than are
done. -/
theorem Upto.running_iff (upto : build.Upto done (sidecar :: rest))
    (new : sidecar.name ∉ done.map (·.name)) :
    sidecar.name ∈ build.session.sidecarNames ↔ done.length < build.session.sidecars.length := by
  obtain ⟨more, count⟩ := Nat.exists_eq_add_of_le upto.count
  have names : build.session.sidecarNames =
      done.map (·.name) ++ ((sidecar :: rest).map (·.name)).take more := by
    have taken := List.prefix_iff_eq_take.mp upto.orderly.named
    rw [declaredNames, upto.declared, List.map_append, Session.sidecarNames, List.length_map,
      count, List.take_append, List.length_map, Nat.add_sub_cancel_left,
      List.take_of_length_le (by simp)] at taken
    exact taken
  rw [names, List.mem_append, count]
  cases more with
  | zero => simpa using new
  | succ more => simp

/-- A sidecar that does not run while those before it do is the next one. -/
theorem Upto.next (upto : build.Upto done (sidecar :: rest))
    (new : sidecar.name ∉ done.map (·.name))
    (absent : sidecar.name ∉ build.session.sidecarNames) : build.Next sidecar := by
  have count : build.session.sidecars.length = done.length :=
    Nat.le_antisymm (Nat.not_lt.mp (mt (upto.running_iff new).mpr absent)) upto.count
  refine ⟨?_, absent⟩
  rw [count, upto.declared, List.getElem?_append_right (Nat.le_refl _), Nat.sub_self,
    List.getElem?_cons_zero]

theorem Upto.step (upto : build.Upto done (sidecar :: rest))
    (running : done.length < build.session.sidecars.length) :
    build.Upto (done ++ [sidecar]) rest where
  orderly := upto.orderly
  phase := upto.phase
  declared := upto.declared.trans (List.append_cons ..)
  count := by
    rw [List.length_append, List.length_singleton]
    exact running

theorem Upto.launched {tags : List (ImageSource × String)} {container : Handle}
    (upto : build.Upto done (sidecar :: rest))
    (orderly : Orderly { build with
      resolved := tags, session := build.session.withSidecar sidecar.name container }) :
    Upto { build with
      resolved := tags, session := build.session.withSidecar sidecar.name container }
      (done ++ [sidecar]) rest where
  orderly := orderly
  phase := upto.phase
  declared := upto.declared.trans (List.append_cons ..)
  count := by
    simp only [Session.withSidecar, List.length_append, List.length_singleton]
    exact Nat.add_le_add_right upto.count 1

/-- What the launch of sidecars comes to: moves, and all of them run if it succeeds. -/
def Completing (build : Build) : Outcome Unit :=
  fun result calls after => Moves .process build calls after ∧ (result = .ok () → after.Complete)

theorem Completing.failed {after : Build} {cause : ProvisionError} {calls : List CallMade}
    (moves : Moves .process build calls after) : Completing build (.error cause) calls after := by
  refine ⟨moves, ?_⟩
  rintro ⟨⟩

theorem launchSidecars_moves {beside : Handle} (upto : build.Upto done rest)
    (recorded : build.session.agent = some beside) :
    Ensures (launchSidecars beside (done.map (·.name)).reverse rest) build
      (Completing build) := by
  -- what runs are the first sidecars: one that does not run comes after all that do
  induction rest generalizing done build with
  | nil => exact ensures_pure.mpr ⟨.refl build, fun _ => upto.complete⟩
  | cons sidecar rest ih =>
    have seen : (done.map (·.name)).reverse.contains sidecar.name = true ↔
        sidecar.name ∈ done.map (·.name) := by
      rw [List.contains_iff_mem, List.mem_reverse]
    have names : sidecar.name :: (done.map (·.name)).reverse =
        ((done ++ [sidecar]).map (·.name)).reverse := by simp
    rw [launchSidecars, names]
    by_cases old : sidecar.name ∈ done.map (·.name)
    · rw [if_pos (seen.mpr old), ensures_throw_bind]
      exact .failed (.refl build)
    · rw [if_neg (mt seen.mp old), ensures_current_bind]
      by_cases there : sidecar.name ∈ build.session.sidecarNames
      · rw [if_pos (sidecar?_isSome_iff.mpr there), ensures_note_bind]
        exact ih (upto.step ((upto.running_iff old).mp there)) recorded
      · rw [if_neg (mt sidecar?_isSome_iff.mp there)]
        have next := upto.next old there
        simp only [launchDeclared, bind_assoc]
        refine resolveImage_bind_moves (fun image calls tags before resolved => ?_)
          fun cause calls before => .failed before
        have launch := @Move.launchSidecar { build with resolved := tags } _ _ _ upto.phase
          ⟨next.declared, next.new⟩ recorded resolved
        refine ensures_call_bind.mpr ⟨fun container => ?_, fun cause => ?_⟩
        · simp only [ensures_note_bind, ensures_changeSession_bind]
          have moved := before.trans (.single (launch (.ok container)))
          refine (ih (upto.launched (moved.orderly upto.orderly)) recorded).mono ?_
          rintro result more last ⟨moves, complete⟩
          refine ⟨?_, complete⟩
          simpa only [List.append_assoc, List.singleton_append] using moved.trans moves
        · exact .failed (before.trans (.single (launch (.error cause))))

/-- When there is nothing to do about the sidecars, all of them run. -/
theorem Orderly.complete_of_idle (orderly : build.Orderly)
    (idle : (build.sidecarsLaunched || build.declared.sidecars.isEmpty) = true) :
    build.Complete := by
  rcases Bool.or_eq_true_iff.mp idle with latched | empty
  · exact orderly.latch latched
  · have none : build.declaredNames = [] := by
      rw [declaredNames, List.isEmpty_iff.mp empty, List.map_nil]
    have names := orderly.named
    rw [none, List.prefix_nil] at names
    rw [Complete, names, none]

theorem ensureSidecars_moves (orderly : build.Orderly) (phase : build.session.phase = .build) :
    Ensures ensureSidecars build (Completing build) := by
  simp only [ensureSidecars, ensures_current_bind]
  by_cases idle : (build.sidecarsLaunched || build.declared.sidecars.isEmpty) = true
  · rw [if_pos idle]
    exact ensures_pure.mpr ⟨.refl build, fun _ => orderly.complete_of_idle idle⟩
  · rw [if_neg idle]
    cases recorded : build.session.agent with
    | none =>
      exact (ensures_agent_bind_none recorded).mpr (.failed (.refl build))
    | some beside =>
      refine (ensures_agent_bind recorded).mpr ?_
      have upto : build.Upto [] build.declared.sidecars := ⟨orderly, phase, rfl, Nat.zero_le _⟩
      refine (launchSidecars_moves upto recorded).bind ?_ ?_
      · rintro ⟨⟩ calls after ⟨moves, complete⟩
        have latch : Moves .process after [] { after with sidecarsLaunched := true } :=
          .settle (.noteComplete (complete rfl)) (.refl _)
        exact ensures_modify.mpr ⟨moves.trans latch, fun _ => complete rfl⟩
      · rintro cause calls after ⟨moves, -⟩
        exact .failed moves

end Sidecars

/-! ## Processes -/

/-- The container that a process is given is the one of the phase, and it is ready. -/
def Placing (build : Build) : Outcome (Handle × Starter) :=
  fun result calls after => Moves .process build calls after ∧
    ∀ place, result = .ok place →
      after.session.current = some place.1 ∧ (after.session.phase = .build → after.Complete)

theorem Placing.failed {build after : Build} {cause : ProvisionError} {calls : List CallMade}
    (moves : Moves .process build calls after) : Placing build (.error cause) calls after := by
  refine ⟨moves, ?_⟩
  rintro _ ⟨⟩

theorem placeFor_moves {build : Build} (orderly : build.Orderly) (starter : Starter) :
    Ensures (placeFor starter) build (Placing build) := by
  simp only [placeFor, ensures_current_bind]
  cases phase : build.session.phase with
  | preCheckout =>
    refine (ensureCheckout_moves phase).bind ?_ ?_
    · rintro container calls after ⟨moves, there⟩
      have same := moves.sameFrame.phase.trans phase
      refine ensures_pure.mpr ⟨by simpa only [List.append_nil] using moves, ?_⟩
      rintro _ ⟨⟩
      refine ⟨?_, fun other => absurd (same.symm.trans other) (by decide)⟩
      rw [Session.current, same]
      exact there container rfl
    · rintro cause calls after ⟨moves, -⟩
      exact .failed moves
  | build =>
    refine (ensureSidecars_moves orderly phase).bind ?_ ?_
    · rintro ⟨⟩ calls middle ⟨moves, complete⟩
      have same := moves.sameFrame.phase.trans phase
      refine (ensureWork_moves same (complete rfl)).bind ?_ ?_
      · rintro container more after ⟨further, there⟩
        refine ensures_pure.mpr ⟨by simpa only [List.append_nil] using moves.trans further, ?_⟩
        rintro _ ⟨⟩
        refine ⟨?_, fun _ => further.complete (complete rfl)⟩
        rw [Session.current, further.sameFrame.phase.trans same]
        exact there container rfl
      · rintro cause more after ⟨further, -⟩
        exact .failed (moves.trans further)
    · rintro cause calls after ⟨moves, -⟩
      exact .failed moves

/-- **Running a process consists of moves.** -/
theorem runProcess_moves {build : Build} (orderly : build.Orderly) (starter : Starter) :
    Ensures (runProcess starter) build fun _ calls after => Moves .process build calls after := by
  rw [runProcess, ensures_within]
  refine (placeFor_moves orderly starter).bind ?_ ?_
  · rintro ⟨container, starter⟩ calls after ⟨moves, placed⟩
    obtain ⟨current, complete⟩ := placed _ rfl
    refine ensures_note_bind.mpr (ensures_call.mpr fun answer => ?_)
    exact moves.trans (.single (.exec current complete starter answer))
  · rintro cause calls after ⟨moves, -⟩
    exact moves

/-! ## The agent -/

section Agent

variable {build after : Build} {calls : List CallMade}

theorem AgentMissing.moves (missing : AgentMissing build.session calls) :
    Moves .preparation build calls build := by
  cases missing with
  | unrecorded => exact .refl build
  | gone recorded => exact .single (.findAgent recorded _)

theorem VolumeMissing.moves (missing : VolumeMissing build.session calls) :
    Moves .preparation build calls build := by
  cases missing with
  | unrecorded => exact .refl build
  | gone recorded => exact .single (.findVolume recorded _)

theorem VolumeSought.moves {result : Except ProvisionError (String × Bool)}
    (sought : VolumeSought build.session result calls) : Moves .preparation build calls build := by
  cases sought with
  | kept recorded => exact .single (.findVolume recorded _)
  | uncertain recorded cause => exact .single (.findVolume recorded _)
  | created missing volume => exact missing.moves.trans (.single (.createVolume _))
  | notCreated missing cause => exact missing.moves.trans (.single (.createVolume _))

theorem GivenUp.moves {volume : String} {created : Bool} (givenUp : GivenUp volume created calls) :
    Moves .preparation build calls build := by
  cases givenUp with
  | kept => exact .refl build
  | removed answer => exact .single (.giveUpVolume volume answer)

/-- **Preparing the agent consists of moves.** -/
theorem Prepared.moves {result : Except ProvisionError Unit}
    (prepared : Prepared build result calls after) : Moves .preparation build calls after := by
  cases prepared with
  | kept recorded => exact .single (.findAgent recorded _)
  | uncertain recorded cause => exact .single (.findAgent recorded _)
  | noVolume missing sought => exact missing.moves.trans sought.moves
  | launched missing sought handle =>
    exact missing.moves.trans (sought.moves.trans (.single (.launchAgent _ (.ok handle))))
  | notLaunched missing sought cause givenUp =>
    refine missing.moves.trans (sought.moves.trans (.call ?_ givenUp.moves))
    exact .launchAgent _ (.error cause)

theorem Attached.moves {α : Type} {input : Option Host.Input} {result : Except ProvisionError α}
    (attached : Attached build input result calls) : Moves .attachment build calls build := by
  cases attached with
  | notPrepared => exact .refl build
  | called recorded answer => exact .single (.attachAgent recorded input answer)

end Agent

end Build

end BuildYard
