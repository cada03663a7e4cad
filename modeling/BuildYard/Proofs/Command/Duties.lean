import BuildYard.Command.Run
import BuildYard.Proofs.Build.Deeds

/-!
# What duties do

A duty is work that tells of its failure as a command does. What it does is
what its parts do, in order, up to the first that fails. On a build there are
the operations of the build and the duties that leave it alone, and both are
given the failure of a command.
-/

set_option autoImplicit false

namespace BuildYard.Command

open Build (Does)

/-! ## Results -/

section Results

variable {ε ε' α β : Type} {wrap : ε → ε'} {answer : Except ε α}

theorem eq_ok_of_bind {f : α → Except ε β} {b : β} (came : (answer >>= f) = .ok b) :
    ∃ a, answer = .ok a ∧ f a = .ok b := by
  cases answer with
  | ok value => exact ⟨value, rfl, came⟩
  | error cause => cases came

theorem eq_ok_of_map {f : α → β} {b : β} (came : answer.map f = .ok b) :
    ∃ a, answer = .ok a ∧ f a = b := by
  cases answer with
  | ok value => exact ⟨value, rfl, Except.ok.inj came⟩
  | error cause => cases came

theorem eq_ok_of_mapError {a : α} (came : .ok a = answer.mapError wrap) : answer = .ok a := by
  cases answer with
  | ok value => rw [Except.ok.inj came]
  | error cause => cases came

theorem eq_error_of_mapError {cause : ε'} (came : .error cause = answer.mapError wrap) :
    ∃ failure, answer = .error failure := by
  cases answer with
  | ok value => cases came
  | error failure => exact ⟨failure, rfl⟩

end Results

/-! ## Duties -/

section Duties

variable {ε α : Type}

theorem does_attempt {tell : ε → List String} {work : Work (Except ε α)}
    {post : Except Failure α → List Deed → Prop} :
    Work.Does (Duty.attempt tell work).run post ↔
      work.Does fun answer => post (answer.mapError fun cause => .ofChain (tell cause)) := by
  refine Program.ensures_lift_andThen.trans (Program.ensures_congr fun answer made => ?_)
  cases answer with
  | ok value => exact Program.ensures_ok.trans (by rw [List.append_nil]; rfl)
  | error cause => exact Program.ensures_throw.trans (by rw [List.append_nil]; rfl)

/-- What follows an attempt is done if it succeeds, and otherwise nothing. -/
theorem does_attempt_andThen {β : Type} {tell : ε → List String} {work : Work (Except ε α)}
    {f : α → Duty β} {between : Except ε α → List Deed → Prop}
    {post : Except Failure β → List Deed → Prop} (first : work.Does between)
    (next : ∀ value made, between (.ok value) made →
      Work.Does (f value).run fun result more => post result (made ++ more))
    (failed : ∀ cause made, between (.error cause) made →
      post (.error (.ofChain (tell cause))) made) :
    Work.Does (Duty.attempt tell work >>= f).run post := by
  refine Program.ensures_andThen.mpr (does_attempt.mpr (first.mono fun answer made h => ?_))
  cases answer with
  | ok value => exact next value made h
  | error cause => exact failed cause made h

theorem does_attemptTo {text : String} {tell : ε → List String} {work : Work (Except ε α)}
    {post : Except Failure α → List Deed → Prop} :
    Work.Does (Duty.attemptTo text tell work).run post ↔ work.Does fun answer =>
      post (answer.mapError fun cause => (Failure.ofChain (tell cause)).under text) := by
  refine Program.ensures_lift_andThen.trans (Program.ensures_congr fun answer made => ?_)
  cases answer with
  | ok value => exact Program.ensures_ok.trans (by rw [List.append_nil]; rfl)
  | error cause => exact Program.ensures_throw.trans (by rw [List.append_nil]; rfl)

theorem does_tell {level : Log.Level} {text : String}
    {post : Except Failure Unit → List Deed → Prop} :
    Work.Does (tell level text).run post ↔ post (.ok ()) [] := by
  refine (iff_of_eq (congrArg (Work.Does · post) (ExceptT.run_lift _))).trans ?_
  exact Program.ensures_map.trans Work.does_note

variable {build : Build} {post : Except Failure α → List Deed → Build → Prop}

theorem does_ofDuty {duty : Duty α} :
    Does (OnBuild.ofDuty duty) build post ↔
      Work.Does duty.run fun result made => post result made build :=
  Build.does_stateLift

theorem does_tell_bind {level : Log.Level} {text : String} {f : Unit → OnBuild α} :
    Does (OnBuild.ofDuty (tell level text) >>= f) build post ↔ Does (f ()) build post :=
  Build.does_bind.trans (does_ofDuty.trans does_tell)

theorem does_ofOperation {operation : Build.Operation α} :
    Does (OnBuild.ofOperation operation) build post ↔ Does operation build fun result =>
      post (result.mapError fun cause => .ofChain cause.chain) := by
  refine Program.ensures_bind.trans (Program.ensures_congr fun last made => ?_)
  obtain ⟨result, after⟩ := last
  cases result with
  | ok value => exact Program.ensures_pure.trans (by rw [List.append_nil]; rfl)
  | error cause => exact Program.ensures_pure.trans (by rw [List.append_nil]; rfl)

theorem does_ofOperation_bind {β : Type} {operation : Build.Operation β} {f : β → OnBuild α}
    {between : Except ProvisionError β → List Deed → Build → Prop}
    (first : Does operation build between)
    (next : ∀ value made after, between (.ok value) made after →
      Does (f value) after fun result more => post result (made ++ more))
    (failed : ∀ cause made after, between (.error cause) made after →
      post (.error (.ofChain cause.chain)) made after) :
    Does (OnBuild.ofOperation operation >>= f) build post := by
  refine Build.does_bind.mpr (does_ofOperation.mpr (first.mono fun result made after h => ?_))
  cases result with
  | ok value => exact next value made after h
  | error cause => exact failed cause made after h

end Duties

end BuildYard.Command
