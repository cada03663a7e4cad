import BuildYard.Program

/-!
# The traces of a program

A trace is the list of the questions that a program asked, each with its
answer. `Yields` says which traces a program can have and with which value it
then ends; every answer counts, so what holds of all traces holds whoever
answers. Traces of one program after another are the traces of the first
followed by those of the second (`yields_bind_iff`). Whoever answers, a program
comes to an end by a trace with those answers (`yields_record`).
-/

set_option autoImplicit false

namespace BuildYard

/-- A question and the answer that it got. -/
structure Exchange (Q : Type) (R : Q → Type) where
  question : Q
  answer : R question

/-- An element of two lists in a row is one of the first, or one of the second after all of the
first. -/
theorem split_append {α : Type} {first second front back : List α} {x : α}
    (split : first ++ second = front ++ x :: back) :
    (∃ rest, first = front ++ x :: rest ∧ back = rest ++ second) ∨
      ∃ between, front = first ++ between ∧ second = between ++ x :: back := by
  obtain ⟨between, before, here⟩ | ⟨rest, before, here⟩ := List.append_eq_append_iff.mp split
  · exact .inr ⟨between, before, here⟩
  · cases rest with
    | nil => exact .inr ⟨[], by simpa using before.symm, here.symm⟩
    | cons head rest =>
      obtain ⟨rfl, rfl⟩ := List.cons.inj here
      exact .inl ⟨rest, before, rfl⟩

namespace Program

variable {Q : Type} {R : Q → Type} {α β : Type}

/-- A program with the trace `trace` ends with `value`. -/
inductive Yields : Program Q R α → List (Exchange Q R) → α → Prop where
  | done (value : α) : Yields (.done value) [] value
  | ask {question : Q} {next : R question → Program Q R α} {trace : List (Exchange Q R)}
      {value : α} (answer : R question) :
      Yields (next answer) trace value →
        Yields (.ask question next) (⟨question, answer⟩ :: trace) value

/-! ## Traces of the parts -/

theorem yields_pure_iff {a value : α} {trace : List (Exchange Q R)} :
    (pure a : Program Q R α).Yields trace value ↔ trace = [] ∧ value = a := by
  constructor
  · intro h
    cases h with
    | done => exact ⟨rfl, rfl⟩
  · rintro ⟨rfl, rfl⟩
    exact .done _

theorem yields_question_iff {q : Q} {trace : List (Exchange Q R)} {value : R q} :
    (question q : Program Q R (R q)).Yields trace value ↔ trace = [⟨q, value⟩] := by
  constructor
  · intro h
    cases h with
    | ask answer h =>
      cases h with
      | done => rfl
  · rintro rfl
    exact .ask value (.done value)

theorem Yields.andThen {p : Program Q R α} {f : α → Program Q R β}
    {first second : List (Exchange Q R)} {a : α} {b : β} (hp : p.Yields first a)
    (hf : (f a).Yields second b) : (p.andThen f).Yields (first ++ second) b := by
  induction hp with
  | done value => exact hf
  | ask answer _ ih => exact .ask answer (ih hf)

theorem Yields.of_andThen {p : Program Q R α} {f : α → Program Q R β}
    {trace : List (Exchange Q R)} {b : β} (h : (p.andThen f).Yields trace b) :
    ∃ first a second, trace = first ++ second ∧ p.Yields first a ∧ (f a).Yields second b := by
  induction p generalizing trace with
  | done value => exact ⟨[], value, trace, rfl, .done value, h⟩
  | ask q next ih =>
    cases h with
    | ask answer h =>
      obtain ⟨first, a, second, rfl, hp, hf⟩ := ih answer h
      exact ⟨_ :: first, a, second, rfl, .ask answer hp, hf⟩

/-- One program after another has the traces of the first followed by those of the second. -/
theorem yields_bind_iff {p : Program Q R α} {f : α → Program Q R β}
    {trace : List (Exchange Q R)} {b : β} :
    (p >>= f).Yields trace b ↔
      ∃ first a second, trace = first ++ second ∧ p.Yields first a ∧ (f a).Yields second b := by
  constructor
  · exact Yields.of_andThen
  · rintro ⟨first, a, second, rfl, hp, hf⟩
    exact hp.andThen hf

/-! ## Programs come to an end -/

/-- The trace of a program when a state answers its questions, with the value and the state
in the end. -/
def record {σ : Type} (answer : (q : Q) → σ → R q × σ) :
    Program Q R α → σ → List (Exchange Q R) × α × σ
  | .done value, state => ([], value, state)
  | .ask q next, state =>
    let (reply, state) := answer q state
    let (trace, value, state) := (next reply).record answer state
    (⟨q, reply⟩ :: trace, value, state)

/-- **Whoever answers, a program comes to an end, by the trace of those answers.** -/
theorem yields_record {σ : Type} (answer : (q : Q) → σ → R q × σ) (p : Program Q R α)
    (state : σ) : p.Yields (p.record answer state).1 (p.record answer state).2.1 := by
  induction p generalizing state with
  | done value => exact .done value
  | ask q next ih => exact .ask (answer q state).1 (ih _ (answer q state).2)

end Program

end BuildYard
