import BuildYard.Proofs.Command.Duties

/-!
# Orders

Before a build begins its order is read: the file with the container set, the
checkout lines, the variables, and the record of the build before. Reading only
looks at files (`Looked`), and it succeeds only if everything is valid
(`Sound`).
-/

set_option autoImplicit false

namespace BuildYard

namespace Action

/-- Looking at files. -/
def Looks : Action → Prop
  | .present _ | .readFile _ => True
  | _ => False

/-- What may be asked before there is a build. -/
def Opens : Action → Prop
  | .connect _ _ | .engine .serverVersion => True
  | action => action.Looks

theorem Looks.opens {action : Action} (looks : action.Looks) : action.Opens := by
  cases action <;> trivial

end Action

namespace Command

open Build (Does)

/-! ## Files -/

/-- What a deed was told of a file is what `files` says; what is not there cannot be read. -/
def Agrees (files : String → Option (Except IoError Bytes)) : Deed → Prop
  | ⟨.present path, answer⟩ => answer = (files path).isSome
  | ⟨.readFile path, answer⟩ =>
    match files path with
    | some contents => answer = contents
    | none => ∃ cause, answer = .error cause
  | _ => True

/-- There is a file with a text. -/
def Holds (files : String → Option (Except IoError Bytes)) (path text : String) : Prop :=
  ∃ contents, files path = some (.ok contents) ∧ Bytes.text? contents = some text

/-- An order in which everything is valid: the file with the container set, every checkout line,
every variable, and the record of the build before, if there is one. -/
structure Sound (files : String → Option (Except IoError Bytes)) (order : BuildOrder) :
    Prop where
  spec : ∃ text declared, Holds files order.spec text ∧
    ContainerSet.ofText order.spec text = .ok declared
  checkout : ∀ line ∈ order.checkout, ∃ words, Text.Words.split? line = some words
  env : ∀ pair ∈ order.env, ∃ found, assignment? pair = some found
  state : ∀ path, order.state = some path → files path = none ∨
    ∃ text left, Holds files path text ∧ CarryOver.read? text = some left

section Looking

variable {ε α : Type} {files : String → Option (Except IoError Bytes)}

/-- Looking at files, by which something is learned if it succeeds. -/
structure Looked (files : String → Option (Except IoError Bytes)) (learned : α → Prop)
    (result : Except ε α) (made : List Deed) : Prop where
  looks : ∀ deed ∈ made, deed.question.Looks
  learned : ∀ value, result = .ok value → (∀ deed ∈ made, Agrees files deed) → learned value

theorem Looked.failed {learned : α → Prop} {cause : ε} {made : List Deed}
    (looks : ∀ deed ∈ made, deed.question.Looks) :
    Looked files learned (.error cause) made :=
  ⟨looks, nofun⟩

variable (files)

theorem readText_looked (path : String) :
    (Work.readText path).Does (Looked files (Holds files path)) := by
  refine Program.ensures_bind.mpr ((Program.ensures_question rfl).mpr fun answer => ?_)
  have looks : ∀ deed ∈ [(⟨.readFile path, answer⟩ : Deed)], deed.question.Looks :=
    List.forall_mem_singleton.mpr trivial
  cases answer with
  | error cause => exact Program.ensures_pure.mpr (.failed looks)
  | ok contents =>
    cases read : Bytes.text? contents with
    | none =>
      simp only [read]
      exact Program.ensures_pure.mpr (.failed looks)
    | some text =>
      simp only [read]
      refine Program.ensures_pure.mpr ⟨looks, ?_⟩
      rintro _ ⟨⟩ agrees
      have agrees := agrees _ List.mem_cons_self
      cases found : files path with
      | none =>
        simp only [Agrees, found] at agrees
        obtain ⟨cause, impossible⟩ := agrees
        cases impossible
      | some told =>
        simp only [Agrees, found] at agrees
        exact ⟨contents, by rw [found, ← agrees], read⟩

theorem ofFile_looked (path : String) :
    (ContainerSet.ofFile path).Does (Looked files fun declared =>
      ∃ text, Holds files path text ∧ ContainerSet.ofText path text = .ok declared) := by
  refine Program.ensures_bind.mpr ((readText_looked files path).mono fun result made looked => ?_)
  cases result with
  | error cause => exact Program.ensures_pure.mpr (.failed (by simpa using looked.looks))
  | ok text =>
    refine Program.ensures_pure.mpr ⟨by simpa using looked.looks, fun declared read agrees => ?_⟩
    exact ⟨text, looked.learned text rfl (by simpa using agrees), read⟩

theorem readLeft_looked (path : String) :
    Work.Does (readLeft path).run (Looked files fun _ => files path = none ∨
      ∃ text left, Holds files path text ∧ CarryOver.read? text = some left) := by
  refine Program.ensures_lift_andThen.mpr ((Program.ensures_question rfl).mpr fun there => ?_)
  have looks : Action.Looks (.present path) := trivial
  cases there with
  | false =>
    refine Program.ensures_andThen.mpr (does_tell.mpr (Program.ensures_ok.mpr ?_))
    refine ⟨List.forall_mem_singleton.mpr looks, fun _ _ agrees => .inl ?_⟩
    have absent : false = (files path).isSome := agrees _ List.mem_cons_self
    exact Option.isNone_iff_eq_none.mp (by rw [← Option.not_isSome, ← absent]; rfl)
  | true =>
    refine Program.ensures_andThen.mpr (does_attemptTo.mpr ((readText_looked files path).mono ?_))
    intro result made looked
    have looksOn : ∀ deed ∈ ⟨.present path, true⟩ :: made, deed.question.Looks :=
      List.forall_mem_cons.mpr ⟨looks, looked.looks⟩
    cases result with
    | error cause => exact .failed looksOn
    | ok text =>
      cases read : CarryOver.read? text with
      | none =>
        simp only [Except.mapError, read]
        exact Program.ensures_throw.mpr (.failed (by simpa using looksOn))
      | some left =>
        simp only [Except.mapError, read]
        refine Program.ensures_ok.mpr ⟨by simpa using looksOn, fun _ _ agrees => .inr ?_⟩
        refine ⟨text, left, looked.learned text rfl fun deed member => agrees deed ?_, read⟩
        simpa using .inr member

end Looking

/-- The words of all checkout lines can be told. -/
theorem checkoutWords_ok {lines : List String} {words : List (List String)}
    (ok : checkoutWords lines = .ok words) :
    ∀ line ∈ lines, ∃ words, Text.Words.split? line = some words := by
  induction lines generalizing words with
  | nil => exact List.forall_mem_nil _
  | cons line rest ih =>
    cases split : Text.Words.split? line with
    | none => simp [checkoutWords, split] at ok
    | some first =>
      simp only [checkoutWords, split] at ok
      obtain ⟨found, others, -⟩ := eq_ok_of_map ok
      exact List.forall_mem_cons.mpr ⟨⟨first, split⟩, ih others⟩

/-- Variables are taken apart one by one. -/
theorem assignments_cons_ok {pair : String} {rest : List String} {envs : List (String × String)}
    (ok : assignments (pair :: rest) = .ok envs) :
    ∃ first others, assignment? pair = some first ∧ assignments rest = .ok others ∧
      envs = first :: others := by
  cases read : assignment? pair with
  | none => simp [assignments, read] at ok
  | some first =>
    simp only [assignments, read] at ok
    obtain ⟨others, found, rfl⟩ := eq_ok_of_map ok
    exact ⟨first, others, rfl, found, rfl⟩

theorem assignments_ok {pairs : List String} {envs : List (String × String)}
    (ok : assignments pairs = .ok envs) :
    ∀ pair ∈ pairs, ∃ found, assignment? pair = some found := by
  induction pairs generalizing envs with
  | nil => exact List.forall_mem_nil _
  | cons pair rest ih =>
    obtain ⟨first, others, read, found, -⟩ := assignments_cons_ok ok
    exact List.forall_mem_cons.mpr ⟨⟨first, read⟩, ih found⟩

/-- A plan has the words of the checkout lines, the variables that are given and the command of its
order. -/
theorem ofOrder_ok {order : BuildOrder} {plan : Plan} (ok : Plan.ofOrder order = .ok plan) :
    checkoutWords order.checkout = .ok plan.checkout ∧ assignments order.env = .ok plan.envs ∧
      plan.command = order.command ∧ plan.workdir = order.workdir := by
  obtain ⟨checkout, words, ok⟩ := eq_ok_of_bind ok
  obtain ⟨envs, read, ok⟩ := eq_ok_of_bind ok
  obtain rfl := Except.ok.inj ok
  exact ⟨words, read, rfl, rfl⟩

end Command

end BuildYard
