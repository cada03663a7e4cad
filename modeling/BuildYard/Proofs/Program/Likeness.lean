import BuildYard.Proofs.Program.Traces

/-!
# Programs that ask alike

Two programs may ask the same questions and yet not do the same, because they
are answered differently, or because not all of a question or an answer matters.
A `Sight` is what is seen of questions and answers. Programs are `Alike` if what
they ask looks the same, and they go on alike whenever the answers look the same
too; then their traces look the same up to the first answer that does not
(`Alike.inStep`). There is one rule for each way to put programs together, also
for programs that may fail: of a failure it does not matter what it is.
-/

set_option autoImplicit false

namespace BuildYard.Program

variable {Q : Type} {R : Q → Type} {E : Type} {A : E → Type} {α β α' β' ε ε' : Type}

/-- What is seen of an exchange, if anything is. -/
abbrev Sight (Q : Type) (R : Q → Type) (E : Type) (A : E → Type) :=
  Exchange Q R → Option (Exchange E A)

/-- What is seen of a trace. -/
def Sight.view (sight : Sight Q R E A) (trace : List (Exchange Q R)) : List (Exchange E A) :=
  trace.filterMap sight

theorem Sight.view_cons (sight : Sight Q R E A) (exchange : Exchange Q R)
    (trace : List (Exchange Q R)) :
    sight.view (exchange :: trace) = (sight exchange).toList ++ sight.view trace := by
  rw [view]
  cases seen : sight exchange with
  | none => rw [List.filterMap_cons_none seen]; rfl
  | some shown => rw [List.filterMap_cons_some seen]; rfl

theorem Sight.view_append (sight : Sight Q R E A) (first second : List (Exchange Q R)) :
    sight.view (first ++ second) = sight.view first ++ sight.view second :=
  List.filterMap_append ..

/-- What two questions look like is the same, whatever their answers. -/
def Sight.SameQuestion (sight : Sight Q R E A) (q q' : Q) : Prop :=
  ∀ answer answer', (sight ⟨q, answer⟩).map (·.question) = (sight ⟨q', answer'⟩).map (·.question)

/-- Two traces in which the same is asked as long as it is answered the same; if they end so,
their values agree. -/
inductive InStep (agree : α → β → Prop) :
    List (Exchange E A) → α → List (Exchange E A) → β → Prop where
  | ended {a : α} {b : β} (same : agree a b) : InStep agree [] a [] b
  | same {exchange : Exchange E A} {rest rest' : List (Exchange E A)} {a : α} {b : β}
      (onward : InStep agree rest a rest' b) :
      InStep agree (exchange :: rest) a (exchange :: rest') b
  | parted {question : E} {answer answer' : A question} {rest rest' : List (Exchange E A)} {a : α}
      {b : β} (unlike : answer ≠ answer') :
      InStep agree (⟨question, answer⟩ :: rest) a (⟨question, answer'⟩ :: rest') b

/-- Programs whose questions look the same, and that go on alike after answers that do. -/
inductive Alike (sight : Sight Q R E A) (agree : α → β → Prop) :
    Program Q R α → Program Q R β → Prop where
  | done {a : α} {b : β} (same : agree a b) : Alike sight agree (.done a) (.done b)
  | ask {q q' : Q} {next : R q → Program Q R α} {next' : R q' → Program Q R β}
      (same : sight.SameQuestion q q')
      (onward : ∀ answer answer', sight ⟨q, answer⟩ = sight ⟨q', answer'⟩ →
        Alike sight agree (next answer) (next' answer')) :
      Alike sight agree (.ask q next) (.ask q' next')

variable {sight : Sight Q R E A} {agree : α → β → Prop} {agree' : α' → β' → Prop}

/-- **What follows has to be alike only after values that agree.** -/
theorem Alike.bind {p : Program Q R α} {p' : Program Q R β} {f : α → Program Q R α'}
    {f' : β → Program Q R β'} (first : Alike sight agree p p')
    (next : ∀ a b, agree a b → Alike sight agree' (f a) (f' b)) :
    Alike sight agree' (p >>= f) (p' >>= f') := by
  induction first with
  | done same => exact next _ _ same
  | ask same _ ih => exact .ask same ih

/-- **Alike programs stay in step** until they get answers that do not look the same. -/
theorem Alike.inStep {p : Program Q R α} {p' : Program Q R β} {trace trace' : List (Exchange Q R)}
    {a : α} {b : β} (alike : Alike sight agree p p') (yields : p.Yields trace a)
    (yields' : p'.Yields trace' b) :
    InStep agree (sight.view trace) a (sight.view trace') b := by
  induction alike generalizing trace trace' with
  | done same =>
    cases yields with
    | done => cases yields' with
      | done => exact .ended same
  | @ask q q' _ _ same _ ih =>
    cases yields with
    | @ask _ _ trace _ answer yields =>
      cases yields' with
      | @ask _ _ trace' _ answer' yields' =>
        rw [sight.view_cons, sight.view_cons]
        by_cases looks : sight ⟨q, answer⟩ = sight ⟨q', answer'⟩
        · have onward := ih answer answer' looks yields yields'
          rw [looks]
          cases sight ⟨q', answer'⟩ with
          | none => exact onward
          | some exchange => exact .same onward
        · -- what is seen of the questions is the same, so it is the answers that differ
          have asked := same answer answer'
          cases seen : sight ⟨q, answer⟩ with
          | none =>
            rw [seen] at asked looks
            exact absurd (Option.map_eq_none_iff.mp asked.symm).symm looks
          | some exchange =>
            rw [seen, Option.map_some] at asked
            obtain ⟨exchange', seen', question⟩ := Option.map_eq_some_iff.mp asked.symm
            rw [seen, seen'] at looks
            rw [seen']
            obtain ⟨shown, told⟩ := exchange
            obtain ⟨shown', told'⟩ := exchange'
            obtain rfl : shown' = shown := question
            exact .parted fun equal => looks (equal ▸ rfl)

/-! ## Programs that may fail -/

/-- Both succeed, with values that agree, or both fail. -/
inductive Both (agree : α → β → Prop) : Except ε α → Except ε' β → Prop where
  | ok {a : α} {b : β} (same : agree a b) : Both agree (.ok a) (.ok b)
  | error (cause : ε) (cause' : ε') : Both agree (.error cause) (.error cause')

theorem Both.mono {agree' : α → β → Prop} {result : Except ε α} {result' : Except ε' β}
    (both : Both agree result result') (weaker : ∀ a b, agree a b → agree' a b) :
    Both agree' result result' := by
  cases both with
  | ok same => exact .ok (weaker _ _ same)
  | error cause cause' => exact .error cause cause'

section Failing

variable {attempt : ExceptT ε (Program Q R) α} {attempt' : ExceptT ε' (Program Q R) β}
  {f : α → ExceptT ε (Program Q R) α'} {f' : β → ExceptT ε' (Program Q R) β'}

/-- Attempts that are alike and come to the same but for the failure. -/
def TryAlike (sight : Sight Q R E A) (agree : α → β → Prop) (attempt : ExceptT ε (Program Q R) α)
    (attempt' : ExceptT ε' (Program Q R) β) : Prop :=
  Alike sight (Both agree) attempt.run attempt'.run

theorem tryAlike_pure {a : α} {b : β} (same : agree a b) :
    TryAlike sight agree (pure a : ExceptT ε (Program Q R) α)
      (pure b : ExceptT ε' (Program Q R) β) :=
  .done (.ok same)

theorem tryAlike_throw (cause : ε) (cause' : ε') :
    TryAlike sight agree (throw cause : ExceptT ε (Program Q R) α)
      (throw cause' : ExceptT ε' (Program Q R) β) :=
  .done (.error cause cause')

/-- What follows a task that cannot fail. -/
theorem Alike.lift_andThen {p : Program Q R α} {p' : Program Q R β} (first : Alike sight agree p p')
    (next : ∀ a b, agree a b → TryAlike sight agree' (f a) (f' b)) :
    TryAlike sight agree' (ExceptT.lift p >>= f) (ExceptT.lift p' >>= f') := by
  rw [TryAlike, ExceptT.run_bind_lift, ExceptT.run_bind_lift]
  exact first.bind next

theorem TryAlike.andThen (first : TryAlike sight agree attempt attempt')
    (next : ∀ a b, agree a b → TryAlike sight agree' (f a) (f' b)) :
    TryAlike sight agree' (attempt >>= f) (attempt' >>= f') := by
  rw [TryAlike, ExceptT.run_bind, ExceptT.run_bind]
  refine Alike.bind first fun result result' same => ?_
  cases same with
  | ok same => exact next _ _ same
  | error cause cause' => exact .done (.error cause cause')

end Failing

end BuildYard.Program
