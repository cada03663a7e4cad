import BuildYard.Build.Resolve
import BuildYard.Proofs.Build.Ensures

/-!
# How image sources are resolved

The resolution of an image source comes out in one of few ways, each with the
calls that it made (`Resolved`). A named image is its own tag, after the engine
has it or has pulled it; an image that is built has a new tag, and only that
tag is built; the image of the engine's socket needs no call.
-/

set_option autoImplicit false

namespace BuildYard.ImageSource

/-- The calls that the resolution of an image source may make. -/
inductive Asks : ImageSource → Call → Prop where
  | hasImage (image : String) (forcePull : Bool) :
      Asks (.named image forcePull) (.hasImage image)
  | pullImage (image : String) (forcePull : Bool) :
      Asks (.named image forcePull) (.pullImage image)
  | buildImage (context file : String) (forcePull : Bool) (archive : Bytes) (tag : String) :
      Asks (.dockerfile context file forcePull) (.buildImage archive tag forcePull)

/-- How the resolution of an image source comes out. -/
inductive Resolved : ImageSource → Except ResolutionError String → List CallMade → Prop where
  | present (image : String) :
      Resolved (.named image false) (.ok image) [⟨.hasImage image, .ok true⟩]
  | pulled (image : String) {forcePull found : Bool} (needed : (!found || forcePull) = true)
      (answer : Except EngineError Unit) :
      Resolved (.named image forcePull) ((answer.mapError .engine).map fun _ => image)
        [⟨.hasImage image, .ok found⟩, ⟨.pullImage image, answer⟩]
  | uncertain (image : String) (forcePull : Bool) (cause : EngineError) :
      Resolved (.named image forcePull) (.error (.engine cause))
        [⟨.hasImage image, .error cause⟩]
  | noContext (context file : String) (forcePull : Bool) (cause : ResolutionError) :
      Resolved (.dockerfile context file forcePull) (.error cause) []
  | built (context file : String) (forcePull : Bool) (archive : Bytes) (number : Nat)
      (answer : Except EngineError Unit) :
      Resolved (.dockerfile context file forcePull)
        ((answer.mapError .engine).map fun _ => builtTag number)
        [⟨.buildImage archive (builtTag number) forcePull, answer⟩]
  | socket : Resolved .engineSocket (.ok socketImage) []

theorem Resolved.asks {source : ImageSource} {result : Except ResolutionError String}
    {calls : List CallMade} (resolved : Resolved source result calls) :
    ∀ call ∈ calls, source.Asks call.question := by
  cases resolved with
  | present image => exact List.forall_mem_singleton.mpr (.hasImage image false)
  | pulled image _ _ =>
    exact List.forall_mem_cons.mpr
      ⟨.hasImage image _, List.forall_mem_singleton.mpr (.pullImage image _)⟩
  | uncertain image forcePull _ => exact List.forall_mem_singleton.mpr (.hasImage image forcePull)
  | noContext => exact List.forall_mem_nil _
  | built context file forcePull archive _ _ =>
    exact List.forall_mem_singleton.mpr (.buildImage context file forcePull archive _)
  | socket => exact List.forall_mem_nil _

/-! ## The parts of a resolution -/

section Rules

variable {α β : Type}

/-- Whatever the answers, `post` holds of the result of a resolution and of the calls that it
made. -/
def Resolution.Ensures (resolution : Resolution α)
    (post : Except ResolutionError α → List CallMade → Prop) : Prop :=
  Work.Ensures resolution.run post

theorem ensures_pure {a : α} {post : Except ResolutionError α → List CallMade → Prop} :
    Resolution.Ensures (pure a) post ↔ post (.ok a) [] :=
  Work.ensures_pure

theorem ensures_bind {x : Resolution α} {f : α → Resolution β}
    {post : Except ResolutionError β → List CallMade → Prop} :
    Resolution.Ensures (x >>= f) post ↔ Resolution.Ensures x fun result calls =>
      match result with
      | .ok a => Resolution.Ensures (f a) fun result more => post result (calls ++ more)
      | .error cause => post (.error cause) calls := by
  rw [Resolution.Ensures, ExceptT.run_bind, Work.ensures_bind]
  refine Work.ensures_congr fun result calls => ?_
  cases result with
  | error cause => simp only [Work.ensures_pure, List.append_nil]
  | ok a => exact Iff.rfl

theorem ensures_lift_bind {work : Work α} {f : α → Resolution β}
    {post : Except ResolutionError β → List CallMade → Prop} :
    Resolution.Ensures (ExceptT.lift work >>= f) post ↔ work.Ensures fun a calls =>
      Resolution.Ensures (f a) fun result more => post result (calls ++ more) := by
  rw [ensures_bind, Resolution.Ensures, ExceptT.run_lift, map_eq_pure_bind, Work.ensures_bind]
  simp only [Work.ensures_pure, List.append_nil]

theorem ensures_info_bind {text : String} {f : Unit → Resolution α}
    {post : Except ResolutionError α → List CallMade → Prop} :
    Resolution.Ensures (info text >>= f) post ↔ Resolution.Ensures (f ()) post :=
  ensures_lift_bind.trans Work.ensures_note

theorem ensures_call_bind {c : Call} {f : c.Value → Resolution α}
    {post : Except ResolutionError α → List CallMade → Prop} :
    Resolution.Ensures (call c >>= f) post ↔
      (∀ value, Resolution.Ensures (f value) fun result more =>
          post result (⟨c, .ok value⟩ :: more)) ∧
        ∀ cause, post (.error (.engine cause)) [⟨c, .error cause⟩] := by
  rw [call, bind_assoc, ensures_lift_bind, Work.ensures_call]
  constructor
  · intro h
    exact ⟨fun value => h (.ok value), fun cause => Work.ensures_pure.mp (h (.error cause))⟩
  · rintro ⟨succeeds, fails⟩ (cause | value)
    · exact Work.ensures_pure.mpr (fails cause)
    · exact succeeds value

end Rules

theorem resolveNamed_resolved (image : String) (forcePull : Bool) :
    Resolution.Ensures (resolveNamed image forcePull) (Resolved (.named image forcePull)) := by
  refine ensures_call_bind.mpr ⟨fun found => ?_, fun cause => .uncertain image forcePull cause⟩
  by_cases needed : (!found || forcePull) = true
  · simp only [needed, if_true, ensures_info_bind]
    refine ensures_call_bind.mpr ⟨fun _ => ensures_pure.mpr ?_, fun cause => ?_⟩
    · exact .pulled image needed (.ok ())
    · exact .pulled image needed (.error cause)
  · simp only [needed]
    obtain ⟨rfl, rfl⟩ : found = true ∧ forcePull = false := by simpa using needed
    exact ensures_pure.mpr (.present image)

theorem resolveDockerfile_resolved (workspace context file : String) (forcePull : Bool) :
    Resolution.Ensures (resolveDockerfile workspace context file forcePull)
      (Resolved (.dockerfile context file forcePull)) := by
  refine ensures_bind.mpr (Work.ensures_act.mpr fun answer => ?_)
  cases answer with
  | error cause => exact .noContext context file forcePull cause
  | ok archive =>
    refine ensures_lift_bind.mpr (Work.ensures_act.mpr fun number => ?_)
    simp only [ensures_info_bind]
    refine ensures_call_bind.mpr ⟨fun _ => ensures_pure.mpr ?_, fun cause => ?_⟩
    · exact .built context file forcePull archive number (.ok ())
    · exact .built context file forcePull archive number (.error cause)

/-- **The resolution of an image source comes out in one of the ways listed.** -/
theorem resolve_resolved (workspace : String) (source : ImageSource) :
    Resolution.Ensures (source.resolve workspace) (Resolved source) := by
  refine Work.ensures_within.mpr ?_
  cases source with
  | named image forcePull => exact resolveNamed_resolved image forcePull
  | dockerfile context file forcePull =>
    exact resolveDockerfile_resolved workspace context file forcePull
  | engineSocket =>
    refine ensures_lift_bind.mpr (Work.ensures_note.mpr (ensures_pure.mpr ?_))
    exact .socket

end BuildYard.ImageSource
