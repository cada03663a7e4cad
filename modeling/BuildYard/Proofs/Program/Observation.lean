import BuildYard.Proofs.Program.Relays

/-!
# What programs ensure of the questions that count

Of the questions that a program asks often only some matter: a log entry is no
request. `Program.Ensures` speaks of the value that a program ends with and of
the exchanges that count, whatever the answers. There is one rule for each way
to put programs together, also for programs that may fail.
-/

set_option autoImplicit false

namespace BuildYard.Program

variable {Q : Type} {R : Q → Type} {ε α β : Type} {counts : Q → Bool}

/-- The exchanges of a trace whose questions count. -/
def counted (counts : Q → Bool) (trace : List (Exchange Q R)) : List (Exchange Q R) :=
  trace.filter fun exchange => counts exchange.question

theorem counted_append (first second : List (Exchange Q R)) :
    counted counts (first ++ second) = counted counts first ++ counted counts second :=
  List.filter_append ..

theorem counted_cons_of_pos {exchange : Exchange Q R} {trace : List (Exchange Q R)}
    (yes : counts exchange.question = true) :
    counted counts (exchange :: trace) = exchange :: counted counts trace :=
  List.filter_cons_of_pos yes

theorem counted_cons_of_neg {exchange : Exchange Q R} {trace : List (Exchange Q R)}
    (no : counts exchange.question = false) :
    counted counts (exchange :: trace) = counted counts trace :=
  List.filter_cons_of_neg (by simp [no])

/-- Whatever the answers, `post` holds of the value that a program ends with and of the exchanges
that count. -/
def Ensures (counts : Q → Bool) (program : Program Q R α)
    (post : α → List (Exchange Q R) → Prop) : Prop :=
  ∀ trace value, program.Yields trace value → post value (counted counts trace)

theorem Ensures.mono {program : Program Q R α} {post post' : α → List (Exchange Q R) → Prop}
    (ensures : program.Ensures counts post)
    (weaker : ∀ value made, post value made → post' value made) :
    program.Ensures counts post' :=
  fun trace value yields => weaker _ _ (ensures trace value yields)

theorem Ensures.and {program : Program Q R α} {post post' : α → List (Exchange Q R) → Prop}
    (ensures : program.Ensures counts post) (ensures' : program.Ensures counts post') :
    program.Ensures counts fun value made => post value made ∧ post' value made :=
  fun trace value yields => ⟨ensures trace value yields, ensures' trace value yields⟩

theorem ensures_congr {program : Program Q R α} {post post' : α → List (Exchange Q R) → Prop}
    (same : ∀ value made, post value made ↔ post' value made) :
    program.Ensures counts post ↔ program.Ensures counts post' :=
  ⟨fun h => h.mono fun value made => (same value made).mp,
    fun h => h.mono fun value made => (same value made).mpr⟩

theorem ensures_pure {a : α} {post : α → List (Exchange Q R) → Prop} :
    (pure a : Program Q R α).Ensures counts post ↔ post a [] := by
  constructor
  · intro h
    exact h [] a (yields_pure_iff.mpr ⟨rfl, rfl⟩)
  · intro h trace value yields
    obtain ⟨rfl, rfl⟩ := yields_pure_iff.mp yields
    exact h

theorem ensures_bind {program : Program Q R α} {f : α → Program Q R β}
    {post : β → List (Exchange Q R) → Prop} :
    (program >>= f).Ensures counts post ↔
      program.Ensures counts fun a made =>
        (f a).Ensures counts fun b more => post b (made ++ more) := by
  constructor
  · intro h first a program second b yields
    rw [← counted_append]
    exact h _ b (yields_bind_iff.mpr ⟨first, a, second, rfl, program, yields⟩)
  · intro h trace b yields
    obtain ⟨first, a, second, rfl, program, yields⟩ := yields_bind_iff.mp yields
    rw [counted_append]
    exact h first a program second b yields

theorem ensures_map {program : Program Q R α} {f : α → β}
    {post : β → List (Exchange Q R) → Prop} :
    (f <$> program).Ensures counts post ↔ program.Ensures counts fun a => post (f a) := by
  rw [map_eq_pure_bind, ensures_bind]
  refine ensures_congr fun a made => ?_
  rw [ensures_pure, List.append_nil]

/-- A question that counts. -/
theorem ensures_question {q : Q} (yes : counts q = true)
    {post : R q → List (Exchange Q R) → Prop} :
    (question q : Program Q R (R q)).Ensures counts post ↔ ∀ answer, post answer [⟨q, answer⟩] := by
  have here (answer : R q) : counted counts [⟨q, answer⟩] = [⟨q, answer⟩] :=
    counted_cons_of_pos yes
  constructor
  · intro h answer
    rw [← here answer]
    exact h _ answer (yields_question_iff.mpr rfl)
  · intro h trace answer yields
    obtain rfl := yields_question_iff.mp yields
    rw [here]
    exact h answer

/-- A question that does not count. -/
theorem ensures_quiet {q : Q} (no : counts q = false) {post : R q → List (Exchange Q R) → Prop} :
    (question q : Program Q R (R q)).Ensures counts post ↔ ∀ answer, post answer [] := by
  have none (answer : R q) : counted counts [(⟨q, answer⟩ : Exchange Q R)] = [] :=
    counted_cons_of_neg no
  constructor
  · intro h answer
    rw [← none answer]
    exact h _ answer (yields_question_iff.mpr rfl)
  · intro h trace answer yields
    obtain rfl := yields_question_iff.mp yields
    rw [none]
    exact h answer

/-! ## Programs that may fail -/

section Failing

variable {attempt : ExceptT ε (Program Q R) α} {f : α → ExceptT ε (Program Q R) β}
  {post : Except ε β → List (Exchange Q R) → Prop}

theorem ensures_ok {a : β} :
    Ensures counts (pure a : ExceptT ε (Program Q R) β).run post ↔ post (.ok a) [] :=
  ensures_pure

theorem ensures_throw {cause : ε} :
    Ensures counts (throw cause : ExceptT ε (Program Q R) β).run post ↔ post (.error cause) [] :=
  ensures_pure

/-- **What follows is done if what is in front succeeds, and otherwise nothing.** -/
theorem ensures_andThen :
    Ensures counts (attempt >>= f).run post ↔
      Ensures counts attempt.run fun result made =>
        match result with
        | .ok a => Ensures counts (f a).run fun result more => post result (made ++ more)
        | .error cause => post (.error cause) made := by
  rw [ExceptT.run_bind, ensures_bind]
  refine ensures_congr fun result made => ?_
  cases result with
  | ok a => exact Iff.rfl
  | error cause => rw [ensures_pure, List.append_nil]

theorem ensures_lift_andThen {program : Program Q R α} :
    Ensures counts ((ExceptT.lift program : ExceptT ε (Program Q R) α) >>= f).run post ↔
      program.Ensures counts fun a made =>
        Ensures counts (f a).run fun result more => post result (made ++ more) := by
  rw [ensures_andThen, ExceptT.run_lift, ensures_map]

end Failing

end BuildYard.Program
