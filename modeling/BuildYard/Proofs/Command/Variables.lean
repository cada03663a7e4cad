import BuildYard.Proofs.Command.Reckoning
import BuildYard.Proofs.Engine.Interchange

/-!
# Variables from the command line to the container

A variable is given as one text and taken apart at its first equals sign
(`assignment?_eq_some_iff`), so that joined again it is the same text
(`joined_assignments`). The images of a container set add one variable or none,
however many of them open the engine's socket (`environment_eq`), and it is left
out if it is given already.

What is executed for a call are commands of its plan in their order
(`Concluded.supplied`). So the words that run in a container are, in front of
the command, exactly the texts that were given, and in the build phase what the
images add (`variables_reach_commands`).
-/

set_option autoImplicit false

namespace BuildYard

namespace Text

/-- **A text is split at the first mark**, and joined again it is the same text. -/
theorem splitFirst?_eq_some_iff {mark : Char} {cs before after : List Char} :
    splitFirst? mark cs = some (before, after) ↔ mark ∉ before ∧ cs = before ++ mark :: after := by
  induction cs generalizing before with
  | nil => simp [splitFirst?]
  | cons c cs ih =>
    rw [splitFirst?]
    by_cases here : c = mark
    · subst here
      rw [if_pos rfl]
      constructor
      · rintro ⟨⟩
        exact ⟨List.not_mem_nil, rfl⟩
      · rintro ⟨absent, split⟩
        cases before with
        | nil => rw [(List.cons.inj split).2]
        | cons d before => exact absurd (List.cons.inj split).1 fun same => absent (same ▸ .head _)
    · rw [if_neg here]
      simp only [Option.map_eq_some_iff, Prod.exists, Prod.mk.injEq]
      constructor
      · rintro ⟨front, back, found, rfl, rfl⟩
        obtain ⟨absent, rfl⟩ := ih.mp found
        exact ⟨List.not_mem_cons_of_ne_of_not_mem (Ne.symm here) absent, rfl⟩
      · rintro ⟨absent, split⟩
        cases before with
        | nil => exact absurd (List.cons.inj split).1 here
        | cons d before =>
          obtain rfl := (List.cons.inj split).1
          have found := ih.mpr ⟨fun member => absent (.tail _ member), (List.cons.inj split).2⟩
          exact ⟨before, after, found, rfl, rfl⟩

end Text

namespace Command

/-! ## Given variables -/

/-- A text that names a variable: it has an equals sign and does not begin with one. -/
def NamesVariable (given : String) : Prop :=
  '=' ∈ given.toList ∧ given.toList.head? ≠ some '='

/-- A variable as it is given. -/
def joined (variable_ : String × String) : String :=
  variable_.1 ++ "=" ++ variable_.2

theorem toList_joined (variable_ : String × String) :
    (joined variable_).toList = variable_.1.toList ++ '=' :: variable_.2.toList := by
  simp [joined]

theorem assignment?_of_split {given : String} {name value : List Char} (some : name ≠ [])
    (split : Text.splitFirst? '=' given.toList = .some (name, value)) :
    assignment? given = .some (String.ofList name, String.ofList value) := by
  rw [assignment?, split]
  cases name with
  | nil => exact absurd rfl some
  | cons c name => rfl

/-- **A variable is taken apart at its first equals sign.** -/
theorem assignment?_eq_some_iff {given name value : String} :
    assignment? given = some (name, value) ↔
      name ≠ "" ∧ '=' ∉ name.toList ∧ joined (name, value) = given := by
  constructor
  · intro read
    cases split : Text.splitFirst? '=' given.toList with
    | none => simp [assignment?, split] at read
    | some parts =>
      obtain ⟨front, back⟩ := parts
      obtain ⟨absent, whole⟩ := Text.splitFirst?_eq_some_iff.mp split
      by_cases empty : front = []
      · simp [assignment?, split, empty] at read
      · rw [assignment?_of_split empty split] at read
        obtain ⟨rfl, rfl⟩ := Prod.mk.inj (Option.some.inj read)
        refine ⟨by simpa using empty, by simpa using absent, ?_⟩
        exact String.toList_inj.mp (by rw [toList_joined, whole]; simp)
  · rintro ⟨nonempty, absent, rfl⟩
    have split := Text.splitFirst?_eq_some_iff.mpr ⟨absent, toList_joined (name, value)⟩
    rw [assignment?_of_split (by simpa using nonempty) split, String.ofList_toList,
      String.ofList_toList]

/-- **Which texts are taken for variables.** -/
theorem exists_assignment_iff {given : String} :
    (∃ found, assignment? given = some found) ↔ NamesVariable given := by
  constructor
  · rintro ⟨⟨name, value⟩, read⟩
    obtain ⟨nonempty, absent, rfl⟩ := assignment?_eq_some_iff.mp read
    rw [NamesVariable, toList_joined]
    refine ⟨by simp, ?_⟩
    cases chars : name.toList with
    | nil => exact absurd (by simpa using chars) nonempty
    | cons c rest =>
      rintro ⟨⟩
      exact absent (chars ▸ .head _)
  · rintro ⟨member, other⟩
    obtain ⟨front, back, whole, absent⟩ := List.eq_append_cons_of_mem member
    have nonempty : front ≠ [] := by
      rintro rfl
      exact other (by rw [whole]; rfl)
    exact ⟨_, assignment?_of_split nonempty (Text.splitFirst?_eq_some_iff.mpr ⟨absent, whole⟩)⟩

theorem exists_assignments_iff {given : List String} :
    (∃ envs, assignments given = .ok envs) ↔ ∀ pair ∈ given, NamesVariable pair := by
  constructor
  · rintro ⟨envs, read⟩ pair member
    exact exists_assignment_iff.mp (assignments_ok read pair member)
  · intro all
    induction given with
    | nil => exact ⟨[], rfl⟩
    | cons pair rest ih =>
      obtain ⟨first, others⟩ := List.forall_mem_cons.mp all
      obtain ⟨found, read⟩ := exists_assignment_iff.mpr first
      obtain ⟨envs, reads⟩ := ih others
      exact ⟨found :: envs, by rw [assignments, read, reads]; rfl⟩

/-- **Joined again the variables are the given texts**, in their order. -/
theorem joined_assignments {given : List String} {envs : List (String × String)}
    (read : assignments given = .ok envs) : envs.map joined = given := by
  induction given generalizing envs with
  | nil =>
    obtain rfl := Except.ok.inj read
    rfl
  | cons pair rest ih =>
    obtain ⟨⟨name, value⟩, found, first, others, rfl⟩ := assignments_cons_ok read
    rw [List.map_cons, ih others, (assignment?_eq_some_iff.mp first).2.2]

/-- A text that sets the variable with a name. -/
def Sets (name given : String) : Prop :=
  (name ++ "=").toList <+: given.toList

instance (name given : String) : Decidable (Sets name given) :=
  inferInstanceAs (Decidable (_ <+: _))

theorem sets_iff {given name value key : String} (read : assignment? given = some (name, value))
    (plain : '=' ∉ key.toList) (nonempty : key ≠ "") : Sets key given ↔ name = key := by
  constructor
  · rintro ⟨rest, whole⟩
    have split : assignment? given = some (key, String.ofList rest) := by
      refine assignment?_eq_some_iff.mpr ⟨nonempty, plain, String.toList_inj.mp ?_⟩
      rw [toList_joined, ← whole]
      simp
    exact (Prod.mk.inj (Option.some.inj (read.symm.trans split))).1
  · rintro rfl
    obtain ⟨-, -, rfl⟩ := assignment?_eq_some_iff.mp read
    exact ⟨value.toList, by rw [toList_joined]; simp⟩

/-- **A variable is set among those that were taken apart if a text sets it.** -/
theorem any_name_iff {given : List String} {envs : List (String × String)} {key : String}
    (read : assignments given = .ok envs) (plain : '=' ∉ key.toList) (nonempty : key ≠ "") :
    envs.any (·.1 == key) = true ↔ ∃ pair ∈ given, Sets key pair := by
  induction given generalizing envs with
  | nil =>
    obtain rfl := Except.ok.inj read
    simp
  | cons pair rest ih =>
    obtain ⟨⟨name, value⟩, found, first, others, rfl⟩ := assignments_cons_ok read
    rw [List.any_cons, Bool.or_eq_true, ih others, List.exists_mem_cons_iff,
      sets_iff first plain nonempty, beq_iff_eq]

end Command

/-! ## What images add -/

/-- The work container or a sidecar opens the engine's socket to the build. -/
def ContainerSet.OpensSocket (declared : ContainerSet) : Prop :=
  declared.work.image = .engineSocket ∨
    ∃ sidecar ∈ declared.sidecars, sidecar.container.image = .engineSocket

instance (declared : ContainerSet) : Decidable declared.OpensSocket :=
  inferInstanceAs (Decidable (_ ∨ _))

theorem ImageSource.environment_eq (image : ImageSource) :
    image.environment = if image = .engineSocket then [socketVariable] else [] := by
  cases image <;> rfl

/-- What is there already is not added again. -/
theorem addMissing_socketVariable (first second : Prop) [Decidable first] [Decidable second] :
    addMissing (if first then [ImageSource.socketVariable] else [])
      (if second then [ImageSource.socketVariable] else []) =
        if first ∨ second then [ImageSource.socketVariable] else [] := by
  by_cases one : first <;> by_cases other : second <;> simp [one, other, addMissing]

theorem foldl_environment (sidecars : List Sidecar) : ∀ (first : Prop) [Decidable first],
    sidecars.foldl (fun env sidecar => addMissing env sidecar.container.image.environment)
        (if first then [ImageSource.socketVariable] else []) =
      if first ∨ ∃ sidecar ∈ sidecars, sidecar.container.image = .engineSocket then
        [ImageSource.socketVariable] else [] := by
  induction sidecars with
  | nil => exact fun first _ => if_congr (by simp) rfl rfl
  | cons sidecar rest ih =>
    intro first _
    rw [List.foldl_cons, ImageSource.environment_eq, addMissing_socketVariable, ih]
    exact if_congr (by rw [List.exists_mem_cons_iff, or_assoc]) rfl rfl

/-- **The images add one variable or none**, however many of them open the socket. -/
theorem ContainerSet.environment_eq (declared : ContainerSet) :
    declared.environment = if declared.OpensSocket then [ImageSource.socketVariable] else [] := by
  rw [environment, ImageSource.environment_eq]
  exact foldl_environment declared.sidecars _

namespace Command

/-! ## Argument vectors -/

/-- What the images of a container set add to given variables. -/
def contribution (declared : ContainerSet) (given : List String) : List String :=
  if declared.OpensSocket ∧ ∀ pair ∈ given, ¬ Sets "DOCKER_HOST" pair then
    ["DOCKER_HOST=tcp://localhost:2375"] else []

/-- The words that run a command of an order: the helper enters the directory, `env` sets the given
variables and those that are added, if there are any, and then comes the command. -/
def argumentVector (order : BuildOrder) (useHelper : Bool) (added cmds : List String) :
    List String :=
  (match useHelper, order.workdir with
    | true, some dir => ["/trampoline", "cdexec", dir]
    | _, _ => []) ++
  (if order.env ++ added = [] then [] else "env" :: (order.env ++ added)) ++ cmds

/-- The words of a starter whose variables are these. -/
theorem argv_eq {order : BuildOrder} {starter : Starter} {added : List String}
    (given : starter.envs.map joined = order.env ++ added) (pwd : starter.pwd = order.workdir)
    (useHelper : Bool) :
    starter.argv useHelper = argumentVector order useHelper added starter.cmds := by
  have words : starter.settingWords (fun pair => pair.1 ++ "=" ++ pair.2) =
      if order.env ++ added = [] then [] else "env" :: (order.env ++ added) := by
    rw [Starter.settingWords, ← given]
    cases starter.envs <;> rfl
  have entered : starter.entering useHelper = match useHelper, order.workdir with
      | true, some dir => ["/trampoline", "cdexec", dir]
      | _, _ => [] := by
    rw [← pwd]
    rfl
  rw [Starter.argv, words, entered]
  rfl

section Planned

variable {order : BuildOrder} {plan : Plan}

/-- A checkout command runs with the given variables. -/
theorem fetch_argv (planned : Plan.ofOrder order = .ok plan) (useHelper : Bool)
    (cmds : List String) :
    (plan.starter cmds).argv useHelper = argumentVector order useHelper [] cmds := by
  obtain ⟨-, read, -, workdir⟩ := ofOrder_ok planned
  refine argv_eq ?_ workdir useHelper
  rw [List.append_nil]
  exact joined_assignments read

/-- The command of the build runs with the given variables and what the images add. -/
theorem build_argv (planned : Plan.ofOrder order = .ok plan) (useHelper : Bool)
    (declared : ContainerSet) :
    ((plan.starter plan.command).withMissing declared.environment).argv useHelper =
      argumentVector order useHelper (contribution declared order.env) order.command := by
  obtain ⟨-, read, command, workdir⟩ := ofOrder_ok planned
  have given := joined_assignments read
  have known : plan.envs.any (·.1 == "DOCKER_HOST") = true ↔
      ∃ pair ∈ order.env, Sets "DOCKER_HOST" pair := any_name_iff read (by decide) (by decide)
  have unchanged (none : contribution declared order.env = []) :
      (plan.starter plan.command).argv useHelper =
        argumentVector order useHelper (contribution declared order.env) order.command := by
    rw [none, ← command]
    exact fetch_argv planned useHelper plan.command
  rw [declared.environment_eq]
  by_cases opens : declared.OpensSocket
  · rw [if_pos opens]
    by_cases set : ∃ pair ∈ order.env, Sets "DOCKER_HOST" pair
    · have same : (plan.starter plan.command).withMissing [ImageSource.socketVariable] =
          plan.starter plan.command := if_pos (known.mpr set)
      rw [same]
      refine unchanged (if_neg ?_)
      rintro ⟨-, unset⟩
      obtain ⟨pair, member, sets⟩ := set
      exact unset pair member sets
    · have added : (plan.starter plan.command).withMissing [ImageSource.socketVariable] =
          { plan.starter plan.command with envs := plan.envs ++ [ImageSource.socketVariable] } :=
        if_neg fun there => set (known.mp there)
      have contributes : contribution declared order.env = [joined ImageSource.socketVariable] :=
        if_pos ⟨opens, fun pair member sets => set ⟨pair, member, sets⟩⟩
      rw [added, contributes, ← command]
      refine argv_eq ?_ workdir useHelper
      rw [List.map_append, given, List.map_singleton]
  · rw [if_neg opens]
    exact unchanged (if_neg fun both => opens both.1)

end Planned

/-! ## What is executed -/

/-- What is executed are commands, from the first one on. -/
theorem Followed.starters {build : Build} {commands : List Plan.Item} {execs : List Exec}
    {outcome : Except Failure Int} (followed : Followed build commands execs outcome) :
    execs.map (·.starter) <+: commands.map (·.2) := by
  cases followed with
  | @upTo done rest command before last _ succeeded undertaken _ =>
    have first : before.map (·.starter) = done.map (·.2) := by
      induction succeeded with
      | nil => rfl
      | cons here _ ih => rw [List.map_cons, List.map_cons, here.starter, ih]
    have next {exec : Exec} (performed : Performed build.session command exec) :
        [exec].map (·.starter) <+: command.2 :: rest.map (·.2) := by
      rw [List.map_singleton, performed.starter]
      exact ⟨rest.map (·.2), rfl⟩
    rw [List.map_append, List.map_append, first, List.prefix_append_right_inj, List.map_cons]
    cases undertaken with
    | unplaced => exact List.nil_prefix
    | failed performed => exact next performed
    | exited performed => exact next performed

section Calls

variable {order : BuildOrder} {result : Except Failure Nat} {made told : List Deed}

/-- **What is executed for an order are the commands of its plan**, for the container set that its
file declares. -/
theorem Concluded.supplied (concluded : Concluded order result made)
    (tells : ∀ deed ∈ told, Tells deed) :
    execsOf (made ++ told) = [] ∨ ∃ plan declared, Plan.ofOrder order = .ok plan ∧
      Declares order (made ++ told) declared ∧
      (execsOf (made ++ told)).map (·.starter) <+:
        (plan.commands declared.environment).map (·.2) := by
  have apart : ∀ deed ∈ told, deed.question.Apart := fun deed member => (tells deed member).apart
  cases concluded with
  | unbegun early =>
    refine .inl (execsOf_of_none ?_)
    exact fun deed member => (List.forall_mem_append.mpr ⟨early, apart⟩ deed member).not_executes
  | @begun plan outcome clearing front ran back _ planned opens declares awaited _ attended _ _ clears
      later _ =>
    have before : ∀ deed ∈ front, ¬ deed.question.Executes := fun deed member =>
      (opens deed member).apart.not_executes
    have after : ∀ deed ∈ deedsOf clearing.trace ++ (back ++ told), ¬ deed.question.Executes := by
      refine List.forall_mem_append.mpr ⟨fun deed member => ?_, List.forall_mem_append.mpr ⟨?_, ?_⟩⟩
      · exact (clears deed member).apart.not_executes
      · exact fun deed member => (later deed member).not_executes
      · exact fun deed member => (apart deed member).not_executes
    have execs := execsOf_around before awaited after
    have whole : front ++ (ran ++ (deedsOf clearing.trace ++ back)) ++ told =
        front ++ (ran ++ (deedsOf clearing.trace ++ (back ++ told))) := by
      simp only [List.append_assoc]
    rw [whole, execs]
    cases attended with
    | alone _ unexecuted => exact .inl unexecuted
    | beside _ _ followed =>
      refine .inr ⟨plan, clearing.before.declared, planned, ?_, followed.starters⟩
      exact declares.mono fun deed member => List.mem_append_left _ member

/-- An order without a plan is refused when only files have been looked at. -/
theorem runBuild_refused (context : Context) {failure : Failure}
    (refused : Plan.ofOrder order = .error failure) :
    Work.Does (runBuild context order).run fun result made =>
      (∃ failure, result = .error failure) ∧ ∀ deed ∈ made, deed.question.Looks := by
  refine Work.does_within.mpr (does_attempt_andThen
    (ofFile_looked (fun _ => none) order.spec) (fun declared spec looked => ?_) ?_)
  · rw [refused]
    refine Program.ensures_andThen.mpr (Program.ensures_throw.mpr ⟨⟨failure, rfl⟩, ?_⟩)
    rw [List.append_nil]
    exact looked.looks
  · exact fun cause made looked => ⟨⟨_, rfl⟩, looked.looks⟩

theorem perform_refused {options : Options} (environment : Environment) {failure : Failure}
    (job : options.job = .run order) (refused : Plan.ofOrder order = .error failure) :
    Work.Does (options.perform environment).run fun result made =>
      (∃ failure, result = .error failure) ∧ ∀ deed ∈ made, deed.question.Looks := by
  refine perform_does job (fun context front looks => ?_) fun failure made looks => ⟨⟨_, rfl⟩, looks⟩
  refine (runBuild_refused context refused).mono fun result made holds => ⟨holds.1, ?_⟩
  exact List.forall_mem_append.mpr ⟨looks, holds.2⟩

/-- The argument vectors of all commands of an order, in their order. -/
def argumentVectors (order : BuildOrder) (useHelper : Bool) (lines : List (List String))
    (declared : ContainerSet) : List (List String) :=
  lines.map (argumentVector order useHelper []) ++
    [argumentVector order useHelper (contribution declared order.env) order.command]

theorem commands_argv {plan : Plan} (planned : Plan.ofOrder order = .ok plan)
    (declared : ContainerSet) (useHelper : Bool) :
    (plan.commands declared.environment).map (·.2.argv useHelper) =
      argumentVectors order useHelper plan.checkout declared := by
  rw [Plan.commands, List.map_append, List.map_map, List.map_singleton, argumentVectors]
  congr 1
  · exact List.map_congr_left fun cmds _ => fetch_argv planned useHelper cmds
  · exact congrArg (· :: []) (build_argv planned useHelper declared)

/-- **The given variables reach the commands as they are.** -/
theorem variables_reach_commands {arguments : List String} {environment : Environment}
    {options : Options} {trace : List Deed} {code : Nat}
    (read : Options.read arguments = .ok options) (job : options.job = .run order)
    (yields : (invoke arguments environment).Yields trace code) :
    ((∃ envs, assignments order.env = .ok envs) ↔ ∀ given ∈ order.env, NamesVariable given) ∧
    ((∃ given ∈ order.env, ¬ NamesVariable given) →
      code = 1 ∧ ∀ deed ∈ deedsOf trace, deed.question.Looks ∨ Tells deed) ∧
    (execsOf (deedsOf trace) = [] ∨ ∃ declared lines,
      Declares order (deedsOf trace) declared ∧ checkoutWords order.checkout = .ok lines ∧
      ∀ settings : AgentSettings,
        (execsOf (deedsOf trace)).map
            (fun exec => (Commission.ofStarter settings exec.container exec.starter).argv) <+:
          argumentVectors order settings.helper.isSome lines declared) ∧
    ∀ exec ∈ execsOf (deedsOf trace),
      (∀ driver : ByCommand, Attempt.Ensures (driver.attempt (.exec exec.container exec.starter))
        (Executed (.ofStarter driver.agent exec.container exec.starter))) ∧
      ∀ driver : ByApi, Attempt.Ensures (driver.attempt (.exec exec.container exec.starter))
        (Executed (.ofStarter driver.agent exec.container exec.starter)) := by
  rw [invoke, read] at yields
  refine ⟨exists_assignments_iff, ?_, ?_, fun exec _ => ⟨fun driver => ?_, fun driver => ?_⟩⟩
  · rintro ⟨given, member, unnamed⟩
    cases planned : Plan.ofOrder order with
    | ok plan =>
      obtain ⟨-, given', -⟩ := ofOrder_ok planned
      exact absurd (exists_assignments_iff.mp ⟨_, given'⟩ given member) unnamed
    | error failure =>
      obtain ⟨_, done, told, made, ⟨⟨_, rfl⟩, looks⟩, rfl, tells⟩ :=
        ended_does (perform_refused environment job planned) trace code yields
      refine ⟨rfl, ?_⟩
      rw [deedsOf, made]
      exact List.forall_mem_append.mpr ⟨fun deed member => .inl (looks deed member),
        fun deed member => .inr (tells deed member)⟩
  · obtain ⟨_, done, told, made, concluded, -, tells⟩ :=
      ended_does (perform_concluded environment job) trace code yields
    rw [deedsOf, made]
    rcases concluded.supplied tells with none | ⟨plan, declared, planned, declares, prefixed⟩
    · exact .inl none
    · refine .inr ⟨declared, plan.checkout, declares, (ofOrder_ok planned).1, fun settings => ?_⟩
      rw [← commands_argv planned]
      have vectors := prefixed.map (·.argv settings.helper.isSome)
      rwa [List.map_map, List.map_map] at vectors
  · exact driver.exec_executed exec.container exec.starter
  · exact driver.exec_executed exec.container exec.starter

end Calls

/-- A container set whose work container opens the engine's socket. -/
def socketFile : String → Option (Except IoError Bytes)
  | "build.toml" => some (.ok (Bytes.ofString "[work]\nimage = [\"docker_socket\"]\n"))
  | _ => none

/-- A call with a checkout command and the same variable twice, once with an equals sign in its value
and once without a value. -/
def settingArguments : List String :=
  ["run", "--spec", "build.toml", "--checkout", "git fetch", "-e", "A=b=c", "-e", "A=", "mvn"]

/-- What that call asks for. -/
def setting : BuildOrder :=
  { spec := "build.toml", checkout := ["git fetch"], env := ["A=b=c", "A="], command := ["mvn"] }

/-- What comes of that call. -/
def settingDone : List Deed × Nat × InMemory :=
  (invoke settingArguments fun _ => none).record (answerBeside socketFile) {}

theorem variables_reach_commands_setting :
    (execsOf (deedsOf settingDone.1)).map (·.starter.argv false) =
      [["env", "A=b=c", "A=", "git", "fetch"],
        ["env", "A=b=c", "A=", "DOCKER_HOST=tcp://localhost:2375", "mvn"]] ∧
    ∃ declared lines, Declares setting (deedsOf settingDone.1) declared ∧
      checkoutWords setting.checkout = .ok lines ∧ ∀ settings : AgentSettings,
        (execsOf (deedsOf settingDone.1)).map
            (fun exec => (Commission.ofStarter settings exec.container exec.starter).argv) <+:
          argumentVectors setting settings.helper.isSome lines declared := by
  have read : ∃ options, Options.read settingArguments = .ok options ∧
      options.job = .run setting := ⟨_, rfl, by decide +kernel⟩
  obtain ⟨options, read, job⟩ := read
  have argv : (execsOf (deedsOf settingDone.1)).map (·.starter.argv false) =
      [["env", "A=b=c", "A=", "git", "fetch"],
        ["env", "A=b=c", "A=", "DOCKER_HOST=tcp://localhost:2375", "mvn"]] := by
    decide +kernel
  have yields : (invoke settingArguments fun _ => none).Yields settingDone.1 settingDone.2.1 :=
    Program.yields_record _ _ _
  refine ⟨argv, ?_⟩
  rcases (variables_reach_commands read job yields).2.2.1 with none | reach
  · rw [none] at argv
    cases argv
  · exact reach

/-- **A text that begins with an equals sign is refused**, though another one follows that is not its
first character. -/
theorem equals_sign_in_front_refused :
    ¬ ((∃ envs, assignments ["=a=b"] = .ok envs) ↔
      ∀ given ∈ ["=a=b"], ∃ front back, given.toList = front ++ '=' :: back ∧ front ≠ []) := by
  intro same
  have second : ∃ front back, "=a=b".toList = front ++ '=' :: back ∧ front ≠ [] :=
    ⟨['=', 'a'], ['b'], by decide, by decide⟩
  obtain ⟨envs, read⟩ := same.mpr (List.forall_mem_singleton.mpr second)
  have refused : (assignments ["=a=b"]).toOption = none := by decide
  rw [read] at refused
  cases refused

end Command

end BuildYard
