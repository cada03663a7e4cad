/-!
# Programs that ask

An operation of the yard is a program: it ends with a value, or it asks a
question and goes on with the answer, whatever that is. Who answers is left
open. `Program.run` lets a state answer; `Program.through` turns each question
into a program that asks others. What holds of a program for all answers holds
whoever answers, and the order of its questions is the order of its effects.
-/

set_option autoImplicit false

namespace BuildYard

/-- A program that asks questions of the type `Q`, each with its own type of answer. -/
inductive Program (Q : Type) (R : Q → Type) (α : Type) : Type where
  | done (value : α)
  | ask (question : Q) (next : R question → Program Q R α)

namespace Program

variable {Q : Type} {R : Q → Type}

/-- One program after another. -/
def andThen {α β : Type} : Program Q R α → (α → Program Q R β) → Program Q R β
  | done value, f => f value
  | ask question next, f => ask question fun answer => (next answer).andThen f

instance : Monad (Program Q R) where
  pure := done
  bind := andThen

/-- The program that asks one question and ends with its answer. -/
def question (q : Q) : Program Q R (R q) :=
  ask q done

theorem andThen_done {α : Type} (program : Program Q R α) : program.andThen done = program := by
  induction program with
  | done value => rfl
  | ask q next ih => simp only [andThen, ih]

theorem andThen_assoc {α β γ : Type} (program : Program Q R α) (f : α → Program Q R β)
    (g : β → Program Q R γ) :
    (program.andThen f).andThen g = program.andThen fun a => (f a).andThen g := by
  induction program with
  | done value => rfl
  | ask q next ih => simp only [andThen, ih]

instance : LawfulMonad (Program Q R) :=
  LawfulMonad.mk' _
    (fun x => andThen_done x)
    (fun _ _ => rfl)
    (fun x f g => andThen_assoc x f g)

/-- What a program ends with when a state answers its questions. -/
def run {σ α : Type} (answer : (q : Q) → σ → R q × σ) : Program Q R α → σ → α × σ
  | done value, state => (value, state)
  | ask q next, state =>
    let (reply, state) := answer q state
    (next reply).run answer state

/-- A program whose questions are answered by programs that ask others, a state in
between. -/
def through {Q' : Type} {R' : Q' → Type} {σ α : Type}
    (answer : (q : Q) → σ → Program Q' R' (R q × σ)) :
    Program Q R α → σ → Program Q' R' (α × σ)
  | done value, state => done (value, state)
  | ask q next, state => (answer q state).andThen fun (reply, state) =>
      (next reply).through answer state

end Program

end BuildYard
