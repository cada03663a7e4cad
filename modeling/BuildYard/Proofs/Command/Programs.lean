import BuildYard.Proofs.Command.Variables
import BuildYard.Proofs.Text.Words
import Mathlib.Data.List.Forall2

/-!
# Processes and the programs that they name

A call hands processes over to its build, one for each checkout line and then
one for the command of the build, from the first one on
(`runWithAgent_handsOver`). The command has a first word, since without one the
call is misused (`command_ne_nil`). A checkout line need not have any: a blank
line, a comment or the end of a line that is continued by nothing is split into
no words, and that is nothing against the order (`exists_plan_iff`).

So the processes name programs as long as the lines that are reached have words
(`processes_name_programs_iff`). One that names none is executed all the same,
and if there are variables to set, it succeeds (`wordless_command_executed`).
-/

set_option autoImplicit false

namespace BuildYard

namespace Arguments

variable {shape : Shape}

/-- When a command has been read, all of its words are there. -/
theorem Shape.finish_words {reading result : Reading} (finished : shape.finish reading = .ok result) :
    shape.singles.length + (if shape.tail.isSome then 1 else 0) ≤ result.words.length := by
  obtain ⟨settled, -, checked⟩ := Command.eq_ok_of_bind finished
  dsimp only at checked
  generalize shape.singles.length + (if shape.tail.isSome then 1 else 0) = expected at checked ⊢
  split at checked
  · cases checked
  · next complete =>
    obtain rfl := Except.ok.inj checked
    simp only [Bool.or_eq_true, decide_eq_true_eq, not_or, not_lt] at complete
    exact complete.2

/-- A command is taken with all the words that it needs. -/
theorem Grammar.read_words {grammar : Grammar} {arguments : List String} {order : Order}
    {name : String} {entry : String × Shape} (read : grammar.read arguments = .ok order)
    (named : order.command = some name)
    (found : grammar.commands.find? (·.1 == name) = some entry) :
    entry.2.singles.length + (if entry.2.tail.isSome then 1 else 0) ≤ order.words.length := by
  obtain ⟨⟨outer, rest⟩, -, read⟩ := Command.eq_ok_of_bind read
  cases rest with
  | none =>
    obtain ⟨last, -, read⟩ := Command.eq_ok_of_bind read
    split at read
    · cases read
    · obtain rfl := Except.ok.inj read
      cases named
  | some rest =>
    obtain ⟨inner, taken, read⟩ := Command.eq_ok_of_bind read
    obtain ⟨last, -, read⟩ := Command.eq_ok_of_bind read
    obtain rfl := Except.ok.inj read
    obtain rfl := Option.some.inj named
    rw [Grammar.readCommand, found] at taken
    obtain ⟨_, -, finished⟩ := Command.eq_ok_of_bind taken
    exact (grammar.widened entry.2).finish_words finished

end Arguments

/-- Adding variables leaves the command as it is. -/
theorem Starter.withMissing_cmds (starter : Starter) (more : List (String × String)) :
    (starter.withMissing more).cmds = starter.cmds := by
  rw [withMissing]
  induction more generalizing starter with
  | nil => rfl
  | cons pair more ih =>
    rw [List.foldl_cons, ih]
    split <;> rfl

namespace Build

/-- The process that a request hands over, if it hands one over. -/
def Request.starter? : Request → Option Starter
  | .runProcess starter => some starter
  | _ => none

end Build

namespace Command

open Build (Turn Request Run Does Operation)
open Text.Words (Idle)

/-- **A build that is asked for has a command.** -/
theorem command_ne_nil {arguments : List String} {options : Options} {order : BuildOrder}
    (read : Options.read arguments = .ok options) (job : options.job = .run order) :
    order.command ≠ [] := by
  obtain ⟨taken, parsed, rfl⟩ := eq_ok_of_map read
  obtain ⟨named, words⟩ : taken.command = some "run" ∧ order.command = taken.words := by
    change Options.jobOf taken = .run order at job
    rw [Options.jobOf] at job
    split at job
    · cases job
    · next named =>
      obtain rfl := Job.run.inj job
      exact ⟨named, rfl⟩
    · cases job
  have some : 1 ≤ taken.words.length := Arguments.Grammar.read_words parsed named rfl
  rw [words]
  exact List.ne_nil_of_length_pos some

/-! ## Words -/

section Lines

variable {order : BuildOrder} {lines : List String} {words cmds : List (List String)}
  {command : List String}

/-- Lines are split into words. -/
def Splits (lines : List String) (words : List (List String)) : Prop :=
  List.Forall₂ (fun line words => Text.Words.split? line = some words) lines words

theorem checkoutWords_eq_ok_iff : checkoutWords lines = .ok words ↔ Splits lines words := by
  induction lines generalizing words with
  | nil =>
    rw [Splits, List.forall₂_nil_left_iff]
    exact ⟨fun same => (Except.ok.inj same).symm, fun none => none ▸ rfl⟩
  | cons line rest ih =>
    rw [Splits, List.forall₂_cons_left_iff]
    cases split : Text.Words.split? line with
    | none =>
      refine iff_of_false ?_ nofun
      simp [checkoutWords, split]
    | some first =>
      simp only [checkoutWords, split]
      constructor
      · intro read
        obtain ⟨others, found, rfl⟩ := eq_ok_of_map read
        exact ⟨first, others, rfl, ih.mp found, rfl⟩
      · rintro ⟨_, others, ⟨⟩, found, rfl⟩
        rw [ih.mpr found]
        rfl

/-- Lines that can each be split are split all together. -/
theorem exists_splits (each : ∀ line ∈ lines, ∃ words, Text.Words.split? line = some words) :
    ∃ words, Splits lines words := by
  induction lines with
  | nil => exact ⟨[], .nil⟩
  | cons line rest ih =>
    obtain ⟨⟨first, here⟩, later⟩ := List.forall_mem_cons.mp each
    obtain ⟨others, split⟩ := ih later
    exact ⟨first :: others, .cons here split⟩

/-- **An order has a plan if its lines can be split and its variables named.** That a line has no
words is nothing against it. -/
theorem exists_plan_iff :
    (∃ plan, Plan.ofOrder order = .ok plan) ↔
      (∀ line ∈ order.checkout, ∃ words, Text.Words.split? line = some words) ∧
        ∀ given ∈ order.env, NamesVariable given := by
  rw [← exists_assignments_iff]
  constructor
  · rintro ⟨plan, planned⟩
    obtain ⟨words, envs, -⟩ := ofOrder_ok planned
    exact ⟨checkoutWords_ok words, plan.envs, envs⟩
  · rintro ⟨each, envs, read⟩
    obtain ⟨words, split⟩ := exists_splits each
    exact ⟨_, by rw [Plan.ofOrder, checkoutWords_eq_ok_iff.mpr split, read]; rfl⟩

theorem Splits.named_iff (splits : Splits lines words) :
    (∀ cmds ∈ words, cmds ≠ []) ↔ ∀ line ∈ lines, ¬ Idle line.toList := by
  induction splits with
  | nil => exact iff_of_true (List.forall_mem_nil _) (List.forall_mem_nil _)
  | cons here _ ih =>
    rw [List.forall_mem_cons, List.forall_mem_cons, ih, ← Text.Words.split?_eq_nil_iff, here,
      Option.some_inj]

/-- **Commands up to one of them name programs if their lines have words**, for there is always a
command behind the lines. -/
theorem Splits.named_upTo_iff (splits : Splits lines words) (nonempty : command ≠ [])
    (upTo : cmds <+: words ++ [command]) :
    (∀ words ∈ cmds, words ≠ []) ↔ ∀ line ∈ lines.take cmds.length, ¬ Idle line.toList := by
  have first : Splits (lines.take cmds.length) (words.take cmds.length) :=
    List.forall₂_take cmds.length splits
  have last : ∀ behind ∈ [command].take (cmds.length - words.length), behind ≠ [] := by
    intro behind member
    rwa [List.mem_singleton.mp (List.mem_of_mem_take member)]
  rw [← first.named_iff]
  refine Iff.trans ?_ (and_iff_left last)
  rw [← List.forall_mem_append, ← List.take_append, ← List.prefix_iff_eq_take.mp upTo]

end Lines

/-! ## Handing processes over -/

/-- The processes that are handed over in events. -/
def startersIn (events : List Event) : List Starter :=
  (turnsIn events).filterMap fun turn => turn.request.starter?

/-- Events by which a build became another, with what was done in them and the processes that were
handed over; it was not cleared away. -/
def HandsOver (build : Build) (made : List Deed) (starters : List Starter) (after : Build) : Prop :=
  ∃ events, doneIn events = made ∧ startersIn events = starters ∧
    Run build (turnsIn events) after ∧ ∀ turn ∈ turnsIn events, turn.request ≠ .clean

namespace HandsOver

variable {build middle after : Build} {made more : List Deed} {starters further : List Starter}

theorem refl (build : Build) : HandsOver build [] [] build :=
  ⟨[], rfl, rfl, .start, List.forall_mem_nil _⟩

theorem trans (first : HandsOver build made starters middle)
    (second : HandsOver middle more further after) :
    HandsOver build (made ++ more) (starters ++ further) after := by
  obtain ⟨events, rfl, rfl, run, kept⟩ := first
  obtain ⟨later, rfl, rfl, ran, kept'⟩ := second
  have turns : turnsIn (events ++ later) = turnsIn events ++ turnsIn later :=
    List.filterMap_append
  refine ⟨events ++ later, List.flatMap_append, ?_, ?_, ?_⟩
  · rw [startersIn, turns, List.filterMap_append]
    rfl
  · rw [turns]
    exact run.append ran
  · rw [turns]
    exact List.forall_mem_append.mpr ⟨kept, kept'⟩

theorem waited (build : Build) (process : Running) (answer : Except EngineError Int) :
    HandsOver build [⟨.wait process, answer⟩] [] build :=
  ⟨[.waited process answer], rfl, rfl, .start, List.forall_mem_nil _⟩

theorem stopped (build : Build) (process : Running) (answer : Bool × Running) :
    HandsOver build [⟨.stop process, answer⟩] [] build :=
  ⟨[.stopped process answer], rfl, rfl, .start, List.forall_mem_nil _⟩

end HandsOver

section Commands

variable {α : Type} {build : Build}

/-- An operation hands over what its request does. -/
theorem does_handsOver {operation : Operation α} (request : Request)
    (same : request.operation = (fun _ => ()) <$> operation) (other : request ≠ .clean) :
    Does operation build fun _ made after =>
      HandsOver build made request.starter?.toList after := by
  refine (Build.does_turn same).mono ?_
  rintro _ _ _ ⟨turn, happens, rfl, rfl, rfl, rfl⟩
  refine ⟨[.turn turn], List.flatMap_singleton .., ?_, .turn .start happens,
    List.forall_mem_singleton.mpr other⟩
  cases starter : turn.request.starter? <;> simp [startersIn, turnsIn, Event.turn?, starter]

/-- **A command is one process that is handed over.** -/
theorem runCommand_handsOver (plan : Plan) (cmds : List String) (build : Build) :
    Does (runCommand plan cmds) build fun _ made after =>
      HandsOver build made [plan.starter cmds] after := by
  refine Build.does_get_bind.mpr (does_tell_bind.mpr ?_)
  have hands : Does (Build.runProcess (plan.starter cmds)) build fun _ made after =>
      HandsOver build made [plan.starter cmds] after :=
    does_handsOver (.runProcess (plan.starter cmds)) rfl nofun
  refine does_ofOperation_bind hands ?_ fun _ _ _ handed => handed
  intro process made after handed
  refine (does_wait process _ after).mono ?_
  rintro _ _ _ ⟨rfl, answer, rfl, -⟩
  exact handed.trans (.waited _ process answer)

/-- Of commands those are handed over up to the last that is undertaken, all of them if all are
successful. -/
theorem runCheckout_handsOver (plan : Plan) (commands : List (List String)) (build : Build) :
    Does (runCheckout plan commands) build fun result made after => ∃ done rest,
      done ++ rest = commands ∧ (result = .ok none → rest = []) ∧
        HandsOver build made (done.map plan.starter) after := by
  induction commands generalizing build with
  | nil => exact Build.does_pure.mpr ⟨[], [], rfl, fun _ => rfl, .refl build⟩
  | cons cmds rest ih =>
    refine (runCommand_handsOver plan cmds build).bind ?_ ?_
    · intro code made after handed
      split
      · refine (ih after).mono ?_
        rintro result more last ⟨done, left, rfl, all, further⟩
        exact ⟨cmds :: done, left, rfl, all, handed.trans further⟩
      · refine does_tell_bind.mpr (Build.does_pure.mpr ?_)
        rw [List.append_nil]
        exact ⟨[cmds], rest, rfl, nofun, handed⟩
    · exact fun cause made after handed => ⟨[cmds], rest, rfl, nofun, handed⟩

/-- The words of the processes of a plan in their order. -/
def Plan.lines (plan : Plan) : List (List String) :=
  plan.checkout ++ [plan.command]

/-- The processes of a plan are handed over, from the first one on. -/
def HandsPlan : Attending := fun plan start _ made after =>
  ∃ done, done <+: plan.lines ∧ HandsOver start made (done.map plan.starter) after

theorem runPhases_handsOver (plan : Plan) (build : Build) :
    Does (runPhases plan) build (HandsPlan plan build) := by
  have checkout {done rest : List (List String)} (split : done ++ rest = plan.checkout) :
      done <+: plan.lines := ⟨rest ++ [plan.command], by rw [Plan.lines, ← split, List.append_assoc]⟩
  refine (runCheckout_handsOver plan plan.checkout build).bind ?_ ?_
  · rintro outcome made after ⟨done, rest, split, all, handed⟩
    cases outcome with
    | some code =>
      refine Build.does_pure.mpr ⟨done, checkout split, ?_⟩
      rwa [List.append_nil]
    | none =>
      obtain rfl := all rfl
      have prefixed := checkout split
      rw [List.append_nil] at split
      have advances : Does Build.advancePhase after fun _ made last => HandsOver after made [] last :=
        does_handsOver .advancePhase (id_map _).symm nofun
      refine does_ofOperation_bind advances ?_ ?_
      · intro _ more middle advanced
        refine (runCommand_handsOver plan plan.command middle).mono fun _ _ last further => ?_
        refine ⟨plan.lines, List.prefix_rfl, ?_⟩
        have whole := handed.trans (advanced.trans further)
        rwa [split, List.nil_append, ← List.map_singleton, ← List.map_append] at whole
      · intro _ more middle advanced
        have whole := handed.trans advanced
        rw [List.append_nil] at whole
        exact ⟨done, prefixed, whole⟩
  · exact fun cause made after ⟨done, rest, split, _, handed⟩ => ⟨done, checkout split, handed⟩

/-- **Beside an agent the processes of a plan are handed over in their order**, from the first one
on. -/
theorem runWithAgent_handsOver (plan : Plan) (build : Build) :
    Does (runWithAgent plan) build (HandsPlan plan build) := by
  have nothing {result : Except Failure Int} {made : List Deed} {after : Build}
      (handed : HandsOver build made [] after) : HandsPlan plan build result made after :=
    ⟨[], List.nil_prefix, handed⟩
  have prepares : Does Build.prepareAgent build fun _ made after => HandsOver build made [] after :=
    does_handsOver .prepareAgent (id_map _).symm nofun
  refine does_ofOperation_bind prepares ?_ fun _ _ _ handed => nothing handed
  intro _ made prepared first
  have attaches : Does (Build.attachAgent none) prepared fun _ made after =>
      HandsOver prepared made [] after := does_handsOver (.attachAgent none) rfl nofun
  refine does_ofOperation_bind attaches ?_ fun _ _ _ handed => nothing (first.trans handed)
  intro process more attached second
  have phases : Work.Does ((runPhases plan).run.run attached) fun last made =>
      HandsPlan plan attached last.1 made last.2 := runPhases_handsOver plan attached
  refine Build.does_bind.mpr (Build.does_lift.mpr (phases.mono ?_))
  rintro ⟨outcome, last⟩ ran ⟨done, prefixed, third⟩
  refine Build.does_bind.mpr (does_ofDuty.mpr ((does_detach process).mono ?_))
  rintro _ _ ⟨rfl, stopped, left, answer, rfl⟩
  have released := (HandsOver.stopped last process (stopped, left)).trans (.waited last left answer)
  have whole := (first.trans second).trans (third.trans released)
  simp only [List.append_nil, List.nil_append, List.append_assoc] at whole
  cases outcome with
  | ok code => exact Build.does_pure.mpr ⟨done, prefixed, by simpa using whole⟩
  | error failure => exact Build.does_throw.mpr ⟨done, prefixed, by simpa using whole⟩

end Commands

/-! ## Calls -/

/-- What was handed over in all that was done: nothing if no build began, and otherwise what the
build was asked to run until it was cleared away. -/
inductive Handed : List Deed → List Starter → Prop where
  | unbegun {made : List Deed} (opens : ∀ deed ∈ made, deed.question.Opens) : Handed made []
  | begun (conduct : Conduct) (opens : ∀ deed ∈ conduct.front, deed.question.Opens)
      (run : Run conduct.start (turnsIn conduct.events ++ [conduct.clearing])
        conduct.clearing.after)
      (once : ∀ turn ∈ turnsIn conduct.events, turn.request ≠ .clean)
      (clean : conduct.clearing.request = .clean)
      (apart : ∀ deed ∈ conduct.back, deed.question.Apart) :
      Handed conduct.deeds (startersIn conduct.events)

section Calls

variable {arguments : List String} {environment : Environment} {options : Options}
  {order : BuildOrder} {plan : Plan} {trace : List Deed} {code : Nat}

theorem Undergone.handed {result : Except Failure Nat} {made : List Deed}
    (undergone : Undergone HandsPlan order result made)
    (planned : Plan.ofOrder order = .ok plan) :
    ∃ starters, Handed made starters ∧ starters.map (·.cmds) <+: plan.lines := by
  cases undergone with
  | unbegun opens => exact ⟨[], .unbegun opens, List.nil_prefix⟩
  | begun planned' opens _ attended happens request _ apart _ =>
    obtain rfl := Except.ok.inj (planned.symm.trans planned')
    obtain ⟨done, prefixed, events, rfl, starters, run, once⟩ := attended
    refine ⟨startersIn events, .begun ⟨_, _, events, _, _⟩ opens (run.turn happens) once request
      apart, ?_⟩
    have same : (done.map plan.starter).map (·.cmds) = done := by
      rw [List.map_map]
      exact List.map_id done
    rwa [starters, same]

theorem commands_cmds (plan : Plan) (environment : List (String × String)) :
    ((plan.commands environment).map (·.2)).map (·.cmds) = plan.lines := by
  rw [Plan.commands, List.map_append, List.map_append, List.map_map, List.map_map]
  exact congrArg₂ (· ++ ·) (List.map_id _) (congrArg (· :: []) (Starter.withMissing_cmds _ _))

/-- A call without a plan is refused when only files have been looked at. -/
theorem invoke_refused (read : Options.read arguments = .ok options) (job : options.job = .run order)
    (yields : (invoke arguments environment).Yields trace code)
    (unplanned : ¬ ∃ plan, Plan.ofOrder order = .ok plan) :
    code = 1 ∧ ∀ deed ∈ deedsOf trace, deed.question.Looks ∨ Tells deed := by
  rw [invoke, read] at yields
  cases planned : Plan.ofOrder order with
  | ok plan => exact absurd ⟨plan, planned⟩ unplanned
  | error failure =>
    obtain ⟨_, done, told, made, ⟨⟨_, rfl⟩, looks⟩, rfl, tells⟩ :=
      ended_does (perform_refused environment job planned) trace code yields
    refine ⟨rfl, ?_⟩
    rw [deedsOf, made]
    exact List.forall_mem_append.mpr ⟨fun deed member => .inl (looks deed member),
      fun deed member => .inr (tells deed member)⟩

/-- What is executed has the words of the plan, from the first ones on. -/
theorem invoke_executed (read : Options.read arguments = .ok options)
    (job : options.job = .run order) (yields : (invoke arguments environment).Yields trace code)
    (planned : Plan.ofOrder order = .ok plan) :
    (execsOf (deedsOf trace)).map (·.starter.cmds) <+: plan.lines := by
  rw [invoke, read] at yields
  obtain ⟨_, done, told, made, concluded, -, tells⟩ :=
    ended_does (perform_concluded environment job) trace code yields
  rw [deedsOf, made]
  rcases concluded.supplied tells with none | ⟨plan', declared, planned', -, prefixed⟩
  · rw [none]
    exact List.nil_prefix
  · obtain rfl := Except.ok.inj (planned.symm.trans planned')
    have cmds := prefixed.map (·.cmds)
    rwa [commands_cmds, List.map_map] at cmds

/-- **What is handed over has the words of the plan**, from the first ones on. -/
theorem invoke_handed (read : Options.read arguments = .ok options) (job : options.job = .run order)
    (yields : (invoke arguments environment).Yields trace code)
    (planned : Plan.ofOrder order = .ok plan) :
    ∃ done told starters, deedsOf trace = done ++ told ∧ (∀ deed ∈ told, Tells deed) ∧
      Handed done starters ∧ starters.map (·.cmds) <+: plan.lines := by
  rw [invoke, read] at yields
  have undergoes : Work.Does (options.perform environment).run (Undergone HandsPlan order) :=
    perform_undergone (fun plan build _ _ => runWithAgent_handsOver plan build) environment job
  obtain ⟨_, done, told, made, undergone, -, tells⟩ := ended_does undergoes trace code yields
  obtain ⟨starters, handed, prefixed⟩ := undergone.handed planned
  exact ⟨done, told, starters, made, tells, handed, prefixed⟩

/-- **Processes name programs exactly if the lines that are reached have words.** An order is refused
for a line that cannot be split or a variable without a name, when only files have been looked at;
otherwise the processes that are handed over, and those that are executed, have the words of its
lines and then of its command, from the first one on. -/
theorem processes_name_programs_iff (read : Options.read arguments = .ok options)
    (job : options.job = .run order) (yields : (invoke arguments environment).Yields trace code) :
    order.command ≠ [] ∧
    ((∃ plan, Plan.ofOrder order = .ok plan) ↔
      (∀ line ∈ order.checkout, ∃ words, Text.Words.split? line = some words) ∧
        ∀ given ∈ order.env, NamesVariable given) ∧
    ((¬ ∃ plan, Plan.ofOrder order = .ok plan) →
      code = 1 ∧ ∀ deed ∈ deedsOf trace, deed.question.Looks ∨ Tells deed) ∧
    ∀ plan, Plan.ofOrder order = .ok plan →
      Splits order.checkout plan.checkout ∧
      (execsOf (deedsOf trace)).map (·.starter.cmds) <+: plan.checkout ++ [order.command] ∧
      ∃ done told starters, deedsOf trace = done ++ told ∧ (∀ deed ∈ told, Tells deed) ∧
        Handed done starters ∧ starters.map (·.cmds) <+: plan.checkout ++ [order.command] ∧
        ((∀ starter ∈ starters, starter.cmds ≠ []) ↔
          ∀ line ∈ order.checkout.take starters.length, ¬ Idle line.toList) := by
  have nonempty := command_ne_nil read job
  refine ⟨nonempty, exists_plan_iff, invoke_refused read job yields, fun plan planned => ?_⟩
  obtain ⟨words, -, command, -⟩ := ofOrder_ok planned
  have splits := checkoutWords_eq_ok_iff.mp words
  have executed := invoke_executed read job yields planned
  obtain ⟨done, told, starters, made, tells, handed, prefixed⟩ :=
    invoke_handed read job yields planned
  rw [Plan.lines, command] at executed prefixed
  have named := splits.named_upTo_iff nonempty prefixed
  rw [List.length_map, List.forall_mem_map] at named
  exact ⟨splits, executed, done, told, starters, made, tells, handed, prefixed, named⟩

end Calls

/-- A call with a checkout line that is blank, and a variable. -/
def blankArguments : List String :=
  ["run", "--spec", "build.toml", "--checkout", " ", "-e", "A=b", "mvn"]

/-- What that call asks for. -/
def blankOrder : BuildOrder :=
  { spec := "build.toml", checkout := [" "], env := ["A=b"], command := ["mvn"] }

/-- What comes of that call. -/
def blankDone : List Deed × Nat × InMemory :=
  (invoke blankArguments fun _ => none).record (answerBeside oneFile) {}

theorem processes_name_programs_iff_blank :
    ∃ done told starters, deedsOf blankDone.1 = done ++ told ∧ (∀ deed ∈ told, Tells deed) ∧
      Handed done starters ∧ starters.map (·.cmds) <+: [[], ["mvn"]] ∧
      ((∀ starter ∈ starters, starter.cmds ≠ []) ↔
        ∀ line ∈ [" "].take starters.length, ¬ Idle line.toList) := by
  have read : ∃ options, Options.read blankArguments = .ok options ∧
      options.job = .run blankOrder := ⟨_, rfl, by decide +kernel⟩
  obtain ⟨options, read, job⟩ := read
  have planned : Plan.ofOrder blankOrder = .ok
      { checkout := [[]], command := ["mvn"], envs := [("A", "b")], workdir := none } := by
    decide +kernel
  have yields : (invoke blankArguments fun _ => none).Yields blankDone.1 blankDone.2.1 :=
    Program.yields_record _ _ _
  exact ((processes_name_programs_iff read job yields).2.2.2 _ planned).2.2

/-- **A command without words is executed and succeeds**, since `env` sets the variables and has
nothing to run. -/
theorem wordless_command_executed :
    Idle " ".toList ∧
      (∃ options, Options.read blankArguments = .ok options ∧ options.job = .run blankOrder) ∧
      (execsOf (deedsOf blankDone.1)).map (·.starter.cmds) = [[], ["mvn"]] ∧
      (execsOf (deedsOf blankDone.1)).map (·.starter.argv false) =
        [["env", "A=b"], ["env", "A=b", "mvn"]] ∧ blankDone.2.1 = 0 :=
  ⟨.separator rfl .nil, ⟨_, rfl, by decide +kernel⟩, by decide +kernel, by decide +kernel,
    by decide +kernel⟩

end Command

end BuildYard
