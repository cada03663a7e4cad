import BuildYard.Build.Basic
import BuildYard.Proofs.Program.Traces

/-!
# What programs may ask

A program may ask only what is `allowed` if no answer ever leads it to ask
anything else. There is one rule for each way to put programs together, also
for programs that may fail and for operations of a build, and all questions in
a trace of such a program are allowed.
-/

set_option autoImplicit false

namespace BuildYard

namespace Program

variable {Q : Type} {R : Q → Type} {ε α β : Type} {allowed : Q → Prop}

/-- Whatever the answers, a program asks only what is allowed. -/
def Asks (allowed : Q → Prop) : Program Q R α → Prop
  | .done _ => True
  | .ask question next => allowed question ∧ ∀ answer, (next answer).Asks allowed

theorem asks_pure {a : α} : (pure a : Program Q R α).Asks allowed :=
  trivial

theorem asks_question {q : Q} (may : allowed q) :
    (question q : Program Q R (R q)).Asks allowed :=
  ⟨may, fun _ => trivial⟩

theorem Asks.bind {program : Program Q R α} {f : α → Program Q R β}
    (first : program.Asks allowed) (next : ∀ a, (f a).Asks allowed) :
    (program >>= f).Asks allowed := by
  induction program with
  | done value => exact next value
  | ask question continue_ ih => exact ⟨first.1, fun answer => ih answer (first.2 answer)⟩

theorem Asks.map {program : Program Q R α} (f : α → β) (first : program.Asks allowed) :
    (f <$> program).Asks allowed := by
  rw [map_eq_pure_bind]
  exact first.bind fun _ => asks_pure

theorem Asks.mono {program : Program Q R α} {allowed' : Q → Prop} (asks : program.Asks allowed)
    (more : ∀ q, allowed q → allowed' q) : program.Asks allowed' := by
  induction program with
  | done value => trivial
  | ask question continue_ ih =>
    exact ⟨more question asks.1, fun answer => ih answer (asks.2 answer)⟩

/-- **All questions in a trace are allowed.** -/
theorem Asks.forall_mem {program : Program Q R α} {trace : List (Exchange Q R)} {value : α}
    (asks : program.Asks allowed) (yields : program.Yields trace value) :
    ∀ exchange ∈ trace, allowed exchange.question := by
  induction yields with
  | done value => exact List.forall_mem_nil _
  | ask answer _ ih => exact List.forall_mem_cons.mpr ⟨asks.1, ih (asks.2 answer)⟩

/-- A program run through others asks what those ask. -/
theorem asks_through {Q' : Type} {R' : Q' → Type} {σ : Type} {allowed : Q' → Prop}
    {answer : (q : Q) → σ → Program Q' R' (R q × σ)}
    (each : ∀ q state, (answer q state).Asks allowed) (program : Program Q R α) (state : σ) :
    (program.through answer state).Asks allowed := by
  induction program generalizing state with
  | done value => trivial
  | ask question continue_ ih =>
    exact Asks.bind (each question state) fun last => ih last.1 last.2

section Failing

variable {attempt : ExceptT ε (Program Q R) α} {f : α → ExceptT ε (Program Q R) β}

theorem Asks.andThen (first : attempt.run.Asks allowed)
    (next : ∀ a, (f a).run.Asks allowed) : (attempt >>= f).run.Asks allowed := by
  rw [ExceptT.run_bind]
  refine Asks.bind first fun result => ?_
  cases result with
  | error cause => exact asks_pure
  | ok a => exact next a

theorem Asks.lift {program : Program Q R α} (asks : program.Asks allowed) :
    (ExceptT.lift program : ExceptT ε (Program Q R) α).run.Asks allowed := by
  rw [ExceptT.run_lift]
  exact asks.map _

end Failing

end Program

/-! ## Work -/

namespace Work

open Program (Asks)

variable {α : Type} {allowed : Action → Prop}

theorem asks_note {level : Log.Level} {part : Log.Part} {text : String}
    (logs : ∀ entry, allowed (.log entry)) : Asks allowed (note level part text) :=
  Program.asks_question (logs _)

theorem asks_within {span : Log.Span} {work : Work α} (logs : ∀ entry, allowed (.log entry))
    (asks : Asks allowed work) : Asks allowed (within span work) :=
  (Program.asks_question (logs _)).bind fun _ =>
    asks.bind fun _ => (Program.asks_question (logs _)).bind fun _ => Program.asks_pure

end Work

/-! ## Operations -/

namespace Build

variable {ε α β : Type} {allowed : Action → Prop}

/-- Whatever the build and the answers, an operation asks only what is allowed. -/
def Asks (allowed : Action → Prop) (operation : Operation α) : Prop :=
  ∀ build, (operation.runOn build).Asks allowed

theorem asks_pure {a : α} : Asks allowed (pure a) := fun _ =>
  trivial

theorem asks_throw {cause : ProvisionError} : Asks allowed (throw cause : Operation α) := fun _ =>
  trivial

theorem asks_current : Asks allowed current := fun _ =>
  trivial

theorem asks_modify {change : Build → Build} : Asks allowed (modify change) := fun _ =>
  trivial

theorem asks_changeSession {change : Session → Session} : Asks allowed (changeSession change) :=
  asks_modify

theorem Asks.bind {operation : Operation α} {f : α → Operation β} (first : Asks allowed operation)
    (next : ∀ a, Asks allowed (f a)) : Asks allowed (operation >>= f) := by
  intro build
  rw [Operation.runOn, ExceptT.run_bind, StateT.run_bind]
  refine Program.Asks.bind (first build) fun last => ?_
  obtain ⟨result, after⟩ := last
  cases result with
  | error cause => exact Program.asks_pure
  | ok a => exact next a after

theorem asks_liftWork {work : Work α} (asks : work.Asks allowed) :
    Asks allowed (liftWork work) := by
  intro build
  simp only [Operation.runOn, liftWork, ExceptT.run_lift, map_eq_pure_bind, StateT.run_bind]
  exact (asks.bind fun _ => Program.asks_pure).bind fun _ => Program.asks_pure

theorem asks_liftOr {wrap : ε → ProvisionError} {work : Work (Except ε α)}
    (asks : work.Asks allowed) : Asks allowed (liftOr wrap work) := by
  refine (asks_liftWork asks).bind fun answer => ?_
  cases answer with
  | error cause => exact asks_throw
  | ok value => exact asks_pure

theorem asks_call {wrap : EngineError → ProvisionError} {c : Call} (may : allowed (.engine c)) :
    Asks allowed (call wrap c) :=
  asks_liftOr (Program.asks_question may)

theorem asks_note {level : Log.Level} {text : String} (logs : ∀ entry, allowed (.log entry)) :
    Asks allowed (note level text) :=
  asks_liftWork (Work.asks_note logs)

theorem asks_within {name : String} {operation : Operation α}
    (logs : ∀ entry, allowed (.log entry)) (asks : Asks allowed operation) :
    Asks allowed (within name operation) := fun build =>
  Work.asks_within logs (asks build)

theorem asks_agent : Asks allowed agent := by
  refine asks_current.bind fun build => ?_
  cases build.session.agent with
  | none => exact asks_throw
  | some handle => exact asks_pure

end Build

end BuildYard
