import BuildYard.Engine.Driver
import BuildYard.Proofs.Engine.Interchange

/-!
# Secrets of a process stay with it

An argument that is marked and the value of a variable are handed to the process
and shown nowhere. Two starters that differ in nothing else (`SameButSecrets`)
are shown alike, and whichever driver runs them reports the same, asks the host
the same but for what it hands over, and comes to the same process
(`secrets_stay_hidden`). What is shown of the arguments hides nothing more than
secrets, place by place.
-/

set_option autoImplicit false

namespace BuildYard

namespace Starter

/-- Two starters that differ at most in arguments that are marked and in the values of
variables. -/
structure SameButSecrets (first second : Starter) : Prop where
  count : first.cmds.length = second.cmds.length
  masks : first.masks = second.masks
  unmasked : ∀ index, first.isMasked index = false → first.cmds[index]? = second.cmds[index]?
  names : first.envs.map (·.1) = second.envs.map (·.1)
  pwd : first.pwd = second.pwd
  stdout : first.stdout = second.stdout
  stderr : first.stderr = second.stderr

/-- The number of words in front of the command. -/
def wordsBefore (starter : Starter) (useHelper : Bool) : Nat :=
  (starter.entering useHelper).length + if starter.envs.isEmpty then 0 else starter.envs.length + 1

/-- Where the arguments that run inside the container hold a secret: at the words that set
variables, which stand behind `env`, and at the arguments of the command that are marked. -/
def SecretAt (starter : Starter) (useHelper : Bool) (index : Nat) : Prop :=
  (starter.entering useHelper).length < index ∧ index < starter.wordsBefore useHelper ∨
    ∃ argument, index = starter.wordsBefore useHelper + argument ∧ starter.isMasked argument = true

section Redaction

variable {starter first second : Starter} {useHelper : Bool}

theorem getElem?_redact (args : List String) (masks : List Bool) (index : Nat) :
    (redact args masks)[index]? =
      args[index]?.map fun arg => if masks[index]?.getD false then maskText else arg := by
  induction args generalizing masks index with
  | nil => cases masks <;> rfl
  | cons arg args ih =>
    cases masks with
    | nil => cases index with
      | zero => rfl
      | succ index => simpa only [redact, List.getElem?_cons_succ, List.getElem?_nil] using ih [] index
    | cons mask masks => cases index with
      | zero => rfl
      | succ index => exact ih masks index

theorem getElem?_redactedCmds (starter : Starter) (index : Nat) :
    starter.redactedCmds[index]? =
      starter.cmds[index]?.map fun arg => if starter.isMasked index then maskText else arg :=
  getElem?_redact _ _ _

theorem length_redact (args : List String) (masks : List Bool) :
    (redact args masks).length = args.length := by
  induction args generalizing masks with
  | nil => cases masks <;> rfl
  | cons arg args ih => cases masks <;> exact congrArg (· + 1) (ih _)

theorem length_settingWords (starter : Starter) (write : String × String → String) :
    (starter.settingWords write).length =
      if starter.envs.isEmpty then 0 else starter.envs.length + 1 := by
  rw [settingWords]
  split
  · rfl
  · rw [List.length_cons, List.length_map]

/-! ## What is hidden -/

/-- What is shown is as long as what runs. -/
theorem length_redactedArgv (starter : Starter) (useHelper : Bool) :
    (starter.redactedArgv useHelper).length = (starter.argv useHelper).length := by
  simp only [redactedArgv, argv, redactedCmds, List.length_append, length_settingWords,
    length_redact]

/-- **Only secrets are hidden**: everywhere else what is shown is what runs. -/
theorem getElem?_redactedArgv {index : Nat} (shown : ¬ starter.SecretAt useHelper index) :
    (starter.redactedArgv useHelper)[index]? = (starter.argv useHelper)[index]? := by
  obtain ⟨setting, masked⟩ := not_or.mp shown
  by_cases before : index < starter.wordsBefore useHelper
  · -- up to `env` both have the same words
    have entering : index ≤ (starter.entering useHelper).length :=
      Nat.not_lt.mp fun beyond => setting ⟨beyond, before⟩
    rw [redactedArgv, argv, List.append_assoc, List.append_assoc]
    rcases Nat.lt_or_eq_of_le entering with inside | behind
    · rw [List.getElem?_append_left inside, List.getElem?_append_left inside]
    · subst behind
      rw [List.getElem?_append_right (Nat.le_refl _), List.getElem?_append_right (Nat.le_refl _),
        Nat.sub_self, settingWords, settingWords]
      cases none : starter.envs.isEmpty with
      | false => rfl
      | true =>
        rw [wordsBefore, none] at before
        exact absurd before (Nat.lt_irrefl _)
  · obtain ⟨argument, rfl⟩ := Nat.exists_eq_add_of_le (Nat.not_lt.mp before)
    have open' : starter.isMasked argument = false :=
      Bool.eq_false_iff.mpr fun marked => masked ⟨argument, rfl, marked⟩
    have front (write : String × String → String) :
        (starter.entering useHelper ++ starter.settingWords write).length =
          starter.wordsBefore useHelper := by
      rw [List.length_append, length_settingWords, wordsBefore]
    have behind (write : String × String → String) (command : List String) :
        (starter.entering useHelper ++ starter.settingWords write ++ command)[
          starter.wordsBefore useHelper + argument]? = command[argument]? := by
      rw [List.getElem?_append_right (by rw [front]; exact Nat.le_add_right _ _), front,
        Nat.add_sub_cancel_left]
    rw [redactedArgv, argv, behind, behind, getElem?_redactedCmds, open']
    exact Option.map_id'

/-! ## Starters that differ only in secrets -/

namespace SameButSecrets

variable (same : SameButSecrets first second)

include same

theorem redactedCmds_eq : first.redactedCmds = second.redactedCmds := by
  refine List.ext_getElem? fun index => ?_
  have marked : second.isMasked index = first.isMasked index := by
    rw [isMasked, isMasked, same.masks]
  rw [getElem?_redactedCmds, getElem?_redactedCmds, marked]
  cases masked : first.isMasked index with
  | false => rw [same.unmasked index masked]
  | true =>
    -- both have an argument there, or neither has
    simp only [if_true]
    by_cases inside : index < first.cmds.length
    · rw [List.getElem?_eq_getElem inside, List.getElem?_eq_getElem (same.count ▸ inside)]
      rfl
    · rw [List.getElem?_eq_none (Nat.not_lt.mp inside),
        List.getElem?_eq_none (same.count ▸ Nat.not_lt.mp inside)]

theorem entering_eq (useHelper : Bool) : first.entering useHelper = second.entering useHelper := by
  simp only [entering, same.pwd]

/-- Words of which each shows the name of its variable only are the same. -/
theorem settingWords_eq (shown : String → String) :
    first.settingWords (fun pair => shown pair.1) =
      second.settingWords fun pair => shown pair.1 := by
  have words : first.envs.map (fun pair => shown pair.1) =
      second.envs.map fun pair => shown pair.1 := by
    have named := congrArg (List.map shown) same.names
    rwa [List.map_map, List.map_map] at named
  have none : first.envs.isEmpty = second.envs.isEmpty := by
    have both := congrArg List.isEmpty same.names
    rwa [List.isEmpty_map, List.isEmpty_map] at both
  rw [settingWords, settingWords, none, words]

theorem redactedArgv_eq (useHelper : Bool) :
    first.redactedArgv useHelper = second.redactedArgv useHelper := by
  have words : first.settingWords (fun pair => pair.1 ++ "=" ++ maskText) =
      second.settingWords fun pair => pair.1 ++ "=" ++ maskText :=
    same.settingWords_eq (· ++ "=" ++ maskText)
  rw [redactedArgv, redactedArgv, same.entering_eq, same.redactedCmds_eq, words]

theorem display_eq : first.display = second.display := by
  unfold display
  rw [same.redactedCmds_eq, same.names, same.pwd, same.stdout, same.stderr]

theorem sinks_eq : first.sinks = second.sinks := by
  rw [sinks, sinks, same.stdout, same.stderr]

end SameButSecrets

end Redaction

/-! ## Arguments that are added as secrets -/

section MaskedArg

variable (starter : Starter) (arg : String)

theorem length_marks : starter.marks.length = starter.cmds.length := by
  rw [marks, List.length_append, List.length_take, List.length_replicate]
  omega

theorem getElem?_marks {index : Nat} (inside : index < starter.cmds.length) :
    starter.marks[index]? = some (starter.isMasked index) := by
  rw [marks, isMasked]
  by_cases marked : index < starter.masks.length
  · rw [List.getElem?_append_left (by rw [List.length_take]; omega),
      List.getElem?_take_of_lt inside, List.getElem?_eq_getElem marked]
    rfl
  · rw [List.getElem?_append_right (by rw [List.length_take]; omega), List.getElem?_replicate,
      List.getElem?_eq_none (Nat.not_lt.mp marked), if_pos (by rw [List.length_take]; omega)]
    rfl

/-- **An argument that is added as a secret is marked**, and the marks of those before it stay. -/
theorem isMasked_maskedArg :
    (starter.maskedArg arg).cmds = starter.cmds ++ [arg] ∧
      (starter.maskedArg arg).isMasked starter.cmds.length = true ∧
      ∀ index < starter.cmds.length,
        (starter.maskedArg arg).isMasked index = starter.isMasked index := by
  refine ⟨rfl, ?_, fun index inside => ?_⟩
  · rw [maskedArg, isMasked, List.getElem?_append_right (Nat.le_of_eq starter.length_marks),
      starter.length_marks, Nat.sub_self]
    rfl
  · rw [maskedArg, isMasked, List.getElem?_append_left (starter.length_marks.symm ▸ inside),
      starter.getElem?_marks inside]
    rfl

end MaskedArg

end Starter

/-! ## What a driver shows of a process -/

/-- What is seen of what the host is asked when it is not seen what is handed to a process: neither
the arguments of a program that is started nor what a request carries. -/
def discreet : Program.Sight Host.Ask Host.Ask.Answer Host.Ask Host.Ask.Answer
  | ⟨.start invocation input, answer⟩ =>
    some ⟨.start { invocation with arguments := [] } input, answer⟩
  | ⟨.send host request, answer⟩ => some ⟨.send host { request with body := .none }, answer⟩
  | exchange => some exchange

/-- **Two attempts that are not told apart**: they ask the same as far as is seen discreetly, and if
they are answered the same they end the same. -/
def Indistinct {α : Type} (first second : Attempt α) : Prop :=
  Program.Alike discreet (· = ·) first.run second.run

section Indistinct

variable {α β : Type} {first second : Attempt α}

theorem discreet_injective {question : Host.Ask} {answer answer' : question.Answer}
    (looks : discreet ⟨question, answer⟩ = discreet ⟨question, answer'⟩) : answer = answer' := by
  cases question <;> exact eq_of_heq (Exchange.mk.inj (Option.some.inj looks)).2

theorem alike_refl (task : Host.Task α) : Program.Alike discreet (· = ·) task task := by
  induction task with
  | done value => exact .done rfl
  | ask question next ih =>
    refine .ask (fun answer answer' => by cases question <;> rfl) fun answer answer' looks => ?_
    obtain rfl := discreet_injective looks
    exact ih answer

theorem Indistinct.andThen {next next' : α → Attempt β} (same : Indistinct first second)
    (onward : ∀ value, Indistinct (next value) (next' value)) :
    Indistinct (first >>= next) (second >>= next') := by
  rw [Indistinct, ExceptT.run_bind, ExceptT.run_bind]
  refine same.bind fun result result' equal => ?_
  subst equal
  cases result with
  | ok value => exact onward value
  | error cause => exact .done rfl

theorem Indistinct.lift_andThen {task task' : Host.Task α} {next next' : α → Attempt β}
    (same : Program.Alike discreet (· = ·) task task')
    (onward : ∀ value, Indistinct (next value) (next' value)) :
    Indistinct (ExceptT.lift task >>= next) (ExceptT.lift task' >>= next') := by
  rw [Indistinct, ExceptT.run_bind_lift, ExceptT.run_bind_lift]
  exact same.bind fun value value' equal => equal ▸ onward value

theorem indistinct_refl (attempt : Attempt α) : Indistinct attempt attempt :=
  alike_refl attempt.run

/-- The arguments of a program that is started are not seen. -/
theorem ByCommand.indistinct_start (driver : ByCommand) (arguments arguments' : List String) :
    Indistinct (driver.start arguments none) (driver.start arguments' none) := by
  refine Indistinct.lift_andThen ?_ fun answer => ?_
  · exact .ask (fun _ _ => rfl) fun answer answer' looks => .done (discreet_injective looks)
  · cases answer <;> exact indistinct_refl _

/-- What a request carries is not seen. -/
theorem ByApi.indistinct_send (driver : ByApi) (method path : String) (body body' : Host.Body)
    (read : Host.Reply → Except ApiError α) :
    Indistinct (driver.send (request method path [] body) read)
      (driver.send (request method path [] body') read) := by
  refine Indistinct.lift_andThen ?_ fun answer => indistinct_refl _
  exact .ask (fun _ _ => rfl) fun answer answer' looks => .done (discreet_injective looks)

end Indistinct

section Exec

variable {first second : Starter} (same : first.SameButSecrets second) (container : String)

include same

/-- By the command line nothing tells the two apart. -/
theorem ByCommand.exec_indistinct (driver : ByCommand) :
    Indistinct (driver.exec container first) (driver.exec container second) := by
  have front : driver.execArguments container first = driver.execArguments container second := by
    rw [execArguments, execArguments, same.pwd]
  simp only [exec, front, same.redactedArgv_eq, same.sinks_eq]
  refine (indistinct_refl _).andThen fun _ => ?_
  exact (driver.indistinct_start _ _).andThen fun child => indistinct_refl _

/-- By the API nothing tells the two apart. -/
theorem ByApi.exec_indistinct (driver : ByApi) :
    Indistinct (driver.exec container first) (driver.exec container second) := by
  simp only [exec, same.redactedArgv_eq, same.sinks_eq]
  refine (indistinct_refl _).andThen fun _ => ?_
  exact (driver.indistinct_send _ _ _ _ _).andThen fun id => indistinct_refl _

end Exec

/-! ## The drivers together -/

/-- What a process that comes of an attempt is called. -/
def Describes (attempt : Attempt Running) (text : String) : Prop :=
  Attempt.Ensures attempt fun result _ => ∀ running, result = .ok running → running.description = text

theorem ByCommand.exec_describes (driver : ByCommand) (container : String) (starter : Starter) :
    Describes (driver.exec container starter)
      (Text.join " " (starter.redactedArgv driver.agent.helper.isSome)) := by
  rw [Describes, exec]
  refine ensures_debug_andThen.mpr (Program.ensures_andThen.mpr ?_)
  refine Program.ensures_lift_andThen.mpr ((Program.ensures_question rfl).mpr fun answer => ?_)
  cases answer with
  | error cause => exact Program.ensures_throw.mpr nofun
  | ok child =>
    refine Program.ensures_ok.mpr (Program.ensures_ok.mpr ?_)
    rintro _ ⟨⟩
    rfl

theorem ByApi.exec_describes (driver : ByApi) (container : String) (starter : Starter) :
    Describes (driver.exec container starter)
      (Text.join " " (starter.redactedArgv driver.agent.helper.isSome)) := by
  rw [Describes, exec]
  refine ensures_debug_andThen.mpr (Program.ensures_andThen.mpr (ensures_send.mpr fun answer => ?_))
  cases resultOf (Replies.decoded Replies.execId?) answer with
  | error cause => exact nofun
  | ok id =>
    refine Program.ensures_andThen.mpr (ensures_connect.mpr fun answer => ?_)
    cases streamOf answer with
    | error cause => exact nofun
    | ok stream =>
      refine Program.ensures_ok.mpr ?_
      rintro _ ⟨⟩
      rfl

/-- **Two attempts to run a process that show the same**: whatever they are answered, the processes
that come of them are called the same, and if they are answered the same nothing tells them
apart. -/
structure RunAlike (first second : Attempt Running) : Prop where
  described : ∀ trace running trace' running', first.run.Yields trace (.ok running) →
    second.run.Yields trace' (.ok running') → running.description = running'.description
  indistinct : Indistinct first second

theorem Describes.runAlike {first second : Attempt Running} {text : String}
    (describes : Describes first text) (describes' : Describes second text)
    (indistinct : Indistinct first second) : RunAlike first second where
  described trace running trace' running' yields yields' :=
    (describes trace _ yields running rfl).trans (describes' trace' _ yields' running' rfl).symm
  indistinct := indistinct

/-- Two starters that are shown alike, by whatever shows a starter. -/
structure Starter.ShownAlike (first second : Starter) : Prop where
  display : first.display = second.display
  redactedCmds : first.redactedCmds = second.redactedCmds
  redactedArgv : ∀ useHelper, first.redactedArgv useHelper = second.redactedArgv useHelper
  byCommand : ∀ (driver : ByCommand) container,
    RunAlike (driver.attempt (.exec container first)) (driver.attempt (.exec container second))
  byApi : ∀ (driver : ByApi) container,
    RunAlike (driver.attempt (.exec container first)) (driver.attempt (.exec container second))

/-- **Secrets stay hidden.** Starters that differ only in secrets are shown alike. Of what runs, all
but the secrets is shown, at its own place. And an argument that is added as a secret is one, from
whatever marks, while those before it stay secret or not. -/
theorem secrets_stay_hidden :
    (∀ first second : Starter, first.SameButSecrets second → first.ShownAlike second) ∧
      (∀ (starter : Starter) (useHelper : Bool),
        (starter.redactedArgv useHelper).length = (starter.argv useHelper).length ∧
          ∀ index, ¬ starter.SecretAt useHelper index →
            (starter.redactedArgv useHelper)[index]? = (starter.argv useHelper)[index]?) ∧
      ∀ (starter : Starter) (arg : String),
        (starter.maskedArg arg).cmds = starter.cmds ++ [arg] ∧
          (starter.maskedArg arg).isMasked starter.cmds.length = true ∧
          ∀ index < starter.cmds.length,
            (starter.maskedArg arg).isMasked index = starter.isMasked index := by
  refine ⟨fun first second same => ⟨same.display_eq, same.redactedCmds_eq, same.redactedArgv_eq,
    fun driver container => ?_, fun driver container => ?_⟩, fun starter useHelper => ?_,
    Starter.isMasked_maskedArg⟩
  · have described := driver.exec_describes container second
    rw [← same.redactedArgv_eq] at described
    exact (driver.exec_describes container first).runAlike described
      (driver.exec_indistinct same container)
  · have described := driver.exec_describes container second
    rw [← same.redactedArgv_eq] at described
    exact (driver.exec_describes container first).runAlike described
      (driver.exec_indistinct same container)
  · exact ⟨starter.length_redactedArgv useHelper, fun index => Starter.getElem?_redactedArgv⟩

/-- Two passwords behind the helper and a variable, and more marks than arguments. -/
theorem secrets_stay_hidden_password :
    let first : Starter :=
      { cmds := ["mysql", "-p", "swordfish"], masks := [false, false, true, true]
        envs := [("TOKEN", "a")], pwd := some "/src" }
    let second : Starter :=
      { first with cmds := ["mysql", "-p", "open sesame"], envs := [("TOKEN", "b=c")] }
    first.argv true ≠ second.argv true ∧
      first.redactedArgv true =
        ["/trampoline", "cdexec", "/src", "env", "TOKEN=****", "mysql", "-p", "****"] ∧
      first.ShownAlike second := by
  refine ⟨by decide, by decide, secrets_stay_hidden.1 _ _ ⟨rfl, rfl, ?_, rfl, rfl, rfl, rfl⟩⟩
  intro index open'
  match index with
  | 0 | 1 => rfl
  | 2 => cases open'
  | index + 3 => rfl

end BuildYard
