import BuildYard.Proofs.Build.Environment
import BuildYard.Proofs.Command.Reckoning
import BuildYard.Proofs.Engine.Interchange
import BuildYard.Proofs.Engine.Stopping
import Mathlib.Data.List.Infix

/-!
# The exit codes that the API tells

The API tells the exit code of a process as a number of 64 bits. Of these the
way to the engine keeps the lowest 32 as a signed number, and of that the call
keeps what is a byte; everything else becomes 1. Both steps together are right
for a number unless its lowest 32 bits are those of another byte than 1
(`exitCode_low32_iff`). Zero is such a byte.

Waiting for a process of the API asks for its exit code once, and waiting for
any other asks the API nothing (`perform_exec_waited`). So the number that was
told when the last command was waited for decides the exit code of the call,
and decides it wrongly exactly for those numbers (`told_exit_code_kept_iff`).
-/

set_option autoImplicit false

namespace BuildYard

/-! ## Two conversions -/

namespace Command

open Replies (low32)

variable {n : Int}

theorem low32_of_byte (byte : 0 ≤ n ∧ n ≤ 255) : low32 n = n := by
  apply Int.bmod_eq_of_le_mul_two
  · simp only [UInt32.size]
    omega
  · simp only [UInt32.size]
    omega

/-- **An exit code survives both conversions** unless its lowest 32 bits are another byte, and not
the one that stands for all that is none. -/
theorem exitCode_low32_iff :
    exitCode (low32 n) = exitCode n ↔ (0 ≤ low32 n ∧ low32 n ≤ 255 → low32 n = 1 ∨ low32 n = n) := by
  by_cases byte : 0 ≤ n ∧ n ≤ 255
  · rw [low32_of_byte byte]
    exact iff_of_true rfl fun _ => .inr rfl
  · rw [exitCode_of_other byte]
    by_cases low : 0 ≤ low32 n ∧ low32 n ≤ 255
    · have other : low32 n ≠ n := by
        intro same
        rw [same] at low
        exact byte low
      have kept := exitCode_of_byte low
      omega
    · rw [exitCode_of_other low]
      exact iff_of_true rfl fun within => absurd within low

end Command

/-! ## What the API tells -/

namespace Replies

/-- The exit code that a reply tells of a process, if it tells one. -/
def exitTold? (reply : Host.Reply) : Option Int :=
  (decoded (fieldOf? execFields "ExitCode") reply).toOption.bind fun code =>
    code.bind Json.int64?

/-- A body is parsed before it is read. -/
theorem decoded_eq_ok_iff {α : Type} {read : Json → Option α} {reply : Host.Reply} {found : α} :
    decoded read reply = .ok found ↔
      ∃ value, accepted reply >>= jsonOf = .ok value ∧ read value = some found := by
  rw [decoded]
  cases accepted reply with
  | error cause => simp [bind, Except.bind]
  | ok body =>
    dsimp only [bind, Except.bind]
    cases jsonOf body with
    | error cause => simp
    | ok value =>
      simp only [Except.ok.injEq, exists_eq_left']
      cases read value with
      | none => simp [unexpected]
      | some result => simp

/-- What a reply tells is taken by its lowest 32 bits. -/
theorem decoded_of_exitTold? {reply : Host.Reply} {n : Int} (told : exitTold? reply = some n) :
    decoded exitCode? reply = .ok (low32 n) := by
  obtain ⟨code, read, told⟩ := Option.bind_eq_some_iff.mp told
  cases came : decoded (fieldOf? execFields "ExitCode") reply with
  | error cause =>
    rw [came] at read
    cases read
  | ok found =>
    rw [came] at read
    obtain rfl := Option.some.inj read
    obtain ⟨value, parsed, field⟩ := decoded_eq_ok_iff.mp came
    refine decoded_eq_ok_iff.mpr ⟨value, parsed, ?_⟩
    rw [exitCode?, field, Option.bind_eq_bind, Option.bind_some, told]
    rfl

end Replies

/-- The exit code that the API told by the answer to a request, if it told one. -/
def codeTold? : HostExchange → Option Int
  | ⟨.send _ _, .ok reply⟩ => Replies.exitTold? reply
  | _ => none

/-- The request for how a process came out that the API gave an id. -/
def Host.Request.inspectionOf (id : String) : Host.Request :=
  ByApi.request "GET" ("/exec/" ++ id ++ "/json") [] .none

/-- What is asked of the API when a process is waited for: nothing, or once how it came out; and
then it came out as the reply says. -/
inductive Waited : Option (Except EngineError Int) → List HostExchange → Prop where
  | unasked (answer : Option (Except EngineError Int)) : Waited answer []
  | inspected (host id : String) (given : Except ApiError Host.Reply) :
      Waited (some (ByApi.resultOf (Replies.decoded Replies.exitCode?) given))
        [⟨.send host (.inspectionOf id), given⟩]

theorem Asks.ensures_silent {α : Type} {task : Host.Task α}
    (asks : Program.Asks Host.Ask.PassesOn task) : Host.Ensures task fun _ made => made = [] := by
  intro trace value yields
  refine List.filter_eq_nil_iff.mpr fun exchange member => ?_
  have passes := asks.forall_mem yields exchange member
  obtain ⟨question, answer⟩ := exchange
  cases question with
  | log entry => exact Bool.false_ne_true
  | write sink data => exact Bool.false_ne_true
  | _ => exact passes.elim

/-- Waiting for a process asks the API what `Waited` says. -/
def Running.Inspected (process : Running) : Prop :=
  Host.Ensures process.wait Waited

/-- A process that only passes on what it has is waited for without a request. -/
theorem Running.inspected_of_asks {process : Running}
    (asks : process.course.Asks Host.Ask.PassesOn) : process.Inspected :=
  (Asks.ensures_silent (Running.wait_asks asks)).mono fun answer _ silent => silent ▸ .unasked answer

/-! ### By each driver -/

/-- What comes of asking for a process: if it starts, it is inspected when it is waited for. -/
abbrev Attempt.StartsInspected (attempt : Attempt Running) : Prop :=
  attempt.ComesTo fun result => ∀ process, result = .ok process → process.Inspected

theorem ByCommand.exec_inspected (driver : ByCommand) (container : String) (starter : Starter) :
    (driver.exec container starter).StartsInspected := by
  refine Attempt.comesTo_andThen (fun _ _ => nofun) fun _ => ?_
  refine Attempt.comesTo_andThen (fun _ _ => nofun) fun child => Attempt.comesTo_pure ?_
  rintro _ ⟨⟩
  exact Running.inspected_of_asks (course_asks _ _ child)

theorem ByApi.passFrame_asks (description : String) (sinks : Sinks) (frame : Frames.Frame) :
    Program.Asks Host.Ask.PassesOn (passFrame description sinks frame) := by
  have remarks (lines : List String) : Program.Asks Host.Ask.PassesOn (lines.forM fun line =>
      Host.remark .warn .apiDriver line (some description)) := by
    induction lines with
    | nil => exact Program.asks_pure
    | cons line rest ih => exact (Program.asks_question trivial).bind fun _ => ih
  rw [passFrame]
  split
  · exact Program.asks_pure
  · split
    · exact Program.asks_question trivial
    · exact Program.asks_pure
  · split
    · exact Program.asks_question trivial
    · exact Program.asks_pure
  · split
    · exact Program.asks_question trivial
    · exact remarks _

theorem ByApi.pump_asks (description : String) (sinks : Sinks)
    (pieces : List (Except ApiError Frames.Frame)) :
    Program.Asks Host.Ask.PassesOn (pump description sinks pieces).run := by
  induction pieces with
  | nil => exact Program.asks_pure
  | cons piece rest ih =>
    cases piece with
    | error cause => exact Program.asks_pure
    | ok frame => exact (Program.Asks.lift (passFrame_asks description sinks frame)).andThen fun _ => ih

/-- **A process of the API is inspected once**, when its connection has ended. -/
theorem ByApi.exec_inspected (driver : ByApi) (container : String) (starter : Starter) :
    (driver.exec container starter).StartsInspected := by
  refine Attempt.comesTo_andThen (fun _ _ => nofun) fun _ => ?_
  refine Attempt.comesTo_andThen (fun _ _ => nofun) fun id => ?_
  refine Attempt.comesTo_andThen (fun _ _ => nofun) fun stream => Attempt.comesTo_pure ?_
  rintro _ ⟨⟩
  refine Running.ensures_wait.mpr ?_
  change Host.Ensures (Course.advance false true (course _ _ _ _ _)) _
  rw [course, Course.advance_after]
  refine Program.ensures_bind.mpr ((Asks.ensures_silent (pump_asks _ _ _)).mono ?_)
  rintro (cause | ⟨⟩) _ rfl
  · exact Program.ensures_pure.mpr (.unasked _)
  · dsimp only
    split
    · exact Program.ensures_pure.mpr (.unasked _)
    · rw [Course.advance_after]
      refine Program.ensures_bind.mpr (ensures_send.mpr fun given => ?_)
      exact Program.ensures_pure.mpr (.inspected _ id given)

theorem InMemory.commandCourse_asks (exitCode : Int) (starter : Starter) :
    (commandCourse exitCode starter).Asks Host.Ask.PassesOn := by
  rw [commandCourse]
  split
  · exact ⟨trivial, fun _ => trivial⟩
  · trivial

theorem InMemory.exec_inspected (engine : InMemory) (container : String) (starter : Starter)
    (process : Running) (started : (engine.perform (.exec container starter)).1 = .ok process) :
    process.Inspected := by
  rw [perform] at started
  split at started
  · next void _ => cases void
  · split at started
    · cases started
    · rw [effect] at started
      split at started
      · obtain rfl := Except.ok.inj started
        exact Running.inspected_of_asks (commandCourse_asks _ starter)
      · cases started

theorem Driver.exec_inspected (driver : Driver) (container : String) (starter : Starter) :
    Host.Ensures (driver.perform (.exec container starter)) fun answer _ =>
      ∀ process, answer.1 = .ok process → process.Inspected := by
  cases driver with
  | byCommand driver =>
    refine Program.ensures_bind.mpr ?_
    refine (ensures_spanned.mpr (driver.exec_inspected container starter)).mono ?_
    exact fun _ _ inspected => Program.ensures_pure.mpr inspected
  | byApi driver =>
    refine Program.ensures_bind.mpr ?_
    refine (ensures_spanned.mpr (driver.exec_inspected container starter)).mono ?_
    exact fun _ _ inspected => Program.ensures_pure.mpr inspected
  | inMemory engine =>
    refine Program.ensures_bind.mpr fun _ _ _ => ?_
    exact Program.ensures_pure.mpr (engine.exec_inspected container starter)

/-! ## From the API to the call -/

namespace Command

open Replies (low32)

variable {relays : List BuildYard.Carried} {first last : Option Driver} {n : Int}

/-- What was carried out, log entries aside. -/
abbrev doings (relays : List BuildYard.Carried) : List BuildYard.Carried :=
  relays.filter fun carried => carried.exchange.question.isDeed

/-- `n` was told when the first of these, a command that started, was waited for, and no command
was executed after it. -/
def ToldFirst (n : Int) : List BuildYard.Carried → Prop
  | started :: waited :: later =>
    (Deed.started? started.exchange).isSome ∧ (waited.asked.filterMap codeTold?).contains n ∧
      execsOf (later.map (·.exchange)) = []
  | _ => False

instance (n : Int) (relays : List BuildYard.Carried) : Decidable (ToldFirst n relays) :=
  match relays with
  | started :: waited :: later =>
    inferInstanceAs (Decidable ((Deed.started? started.exchange).isSome ∧
      (waited.asked.filterMap codeTold?).contains n ∧ execsOf (later.map (·.exchange)) = []))
  | [] | [_] => .isFalse id

/-- The API told `n` when the command that was executed last was waited for. -/
def ToldLast (n : Int) (relays : List BuildYard.Carried) : Prop :=
  ∃ rest, rest <:+ doings relays ∧ ToldFirst n rest

theorem execsOf_suffix (front rest : List Deed) :
    ∃ before, execsOf (front ++ rest) = before ++ execsOf rest := by
  induction front with
  | nil => exact ⟨[], rfl⟩
  | cons deed front ih =>
    obtain ⟨before, same⟩ := ih
    by_cases executes : deed.question.Executes
    · obtain ⟨action, answer⟩ := deed
      cases action with
      | engine call =>
        cases call with
        | exec container starter => exact ⟨_ :: before, congrArg (List.cons _) same⟩
        | _ => exact executes.elim
      | _ => exact executes.elim
    · exact ⟨before, (execsOf_cons_of_not executes).trans same⟩

theorem eq_of_started? {deed : Deed} {process : Running}
    (started : Deed.started? deed = some process) :
    ∃ container starter, deed = ⟨.engine (.exec container starter), .ok process⟩ := by
  obtain ⟨action, answer⟩ := deed
  cases action with
  | engine call =>
    cases call with
    | exec container starter =>
      cases answer with
      | error cause => cases started
      | ok value => exact ⟨container, starter, by rw [Option.some.inj started]⟩
    | _ => cases started
  | _ => cases started

theorem awaited_of_execsOf_eq_nil {made : List Deed} (unexecuted : execsOf made = []) :
    Awaited made := by
  rintro earlier deed later process rfl started
  obtain ⟨container, starter, rfl⟩ := eq_of_started? started
  obtain ⟨before, execs⟩ := execsOf_suffix earlier
    (⟨.engine (.exec container starter), .ok process⟩ :: later)
  have some := List.append_ne_nil_of_right_ne_nil before (List.cons_ne_nil
    ⟨container, starter, Deed.reported (.ok process) later⟩ (execsOf later))
  exact absurd (execs.symm.trans unexecuted) some

/-- A process that a driver started is inspected when it is waited for. -/
theorem perform_exec_inspected (driver : Option Driver) (container : String) (starter : Starter) :
    Host.Ensures (Yard.perform (.engine (.exec container starter)) driver) fun answer _ =>
      ∀ process, answer.1 = .ok process → process.Inspected := by
  cases driver with
  | none => exact Program.ensures_pure.mpr nofun
  | some driver =>
    refine Program.ensures_bind.mpr ((driver.exec_inspected container starter).mono ?_)
    exact fun _ _ inspected => Program.ensures_pure.mpr inspected

/-- What was told when a process was waited for is what waiting for it came to. -/
theorem perform_wait_told {process : Running} (inspected : process.Inspected)
    (driver : Option Driver) {asked : List HostExchange} {answer : Except EngineError Int}
    {after : Option Driver}
    (yields : (Yard.perform (.wait process) driver).Yields asked (answer, after))
    (told : (asked.filterMap codeTold?).contains n) : answer = .ok (low32 n) := by
  obtain ⟨asking, result, rest, rfl, waited, ended⟩ := Program.yields_bind_iff.mp yields
  obtain ⟨rfl, same⟩ := Program.yields_pure_iff.mp ended
  obtain ⟨rfl, -⟩ := Prod.mk.inj same
  rw [List.append_nil, List.contains_iff_mem] at told
  obtain ⟨exchange, member, tells⟩ := List.mem_filterMap.mp told
  obtain ⟨ask, given⟩ := exchange
  cases ask with
  | send host request =>
    have among : (⟨.send host request, given⟩ : HostExchange) ∈ requests asking :=
      List.mem_filter.mpr ⟨member, rfl⟩
    have shape : Waited result (requests asking) := inspected asking result waited
    generalize requests asking = made at among shape
    cases shape with
    | unasked => cases among
    | inspected host id given =>
      cases List.mem_singleton.mp among
      cases given with
      | error cause => cases tells
      | ok reply =>
        change ((Replies.decoded Replies.exitCode? reply).mapError EngineError.api) = _
        rw [Replies.decoded_of_exitTold? tells]
        rfl
  | _ => cases tells

/-- **What was told last is the report of the last execution**, by its lowest 32 bits. -/
theorem ToldLast.reported (told : ToldLast n relays)
    (relayed : Program.Relayed Yard.perform first relays last)
    (awaited : Awaited (deedsOf (relays.map (·.exchange)))) :
    ∃ before exec, execsOf (deedsOf (relays.map (·.exchange))) = before ++ [exec] ∧
      exec.report = some (.ok (low32 n)) := by
  have deeds : deedsOf (relays.map (·.exchange)) = (doings relays).map (·.exchange) :=
    List.filter_map
  rw [deeds] at awaited ⊢
  obtain ⟨rest, ⟨front, split⟩, told⟩ := told
  have carriedOut (carried : BuildYard.Carried) (member : carried ∈ doings relays) :
      ∃ before after, (Yard.perform carried.exchange.question before).Yields carried.asked
        (carried.exchange.answer, after) := by
    have each := (relayed.keeps (fun _ => True) (fun _ _ _ _ _ _ _ => trivial) trivial).2
    obtain ⟨before, after, -, yields⟩ := each carried (List.mem_of_mem_filter member)
    exact ⟨before, after, yields⟩
  match rest, told with
  | ⟨asking, starting⟩ :: ⟨waiting, waited⟩ :: later, ⟨starts, tells, quiet⟩ =>
    rw [← split, List.map_append, List.map_cons, List.map_cons] at awaited ⊢
    rw [← split] at carriedOut
    obtain ⟨process, starts⟩ := Option.isSome_iff_exists.mp starts
    obtain ⟨answer, others, next⟩ := awaited _ _ _ process rfl starts
    obtain ⟨container, starter, rfl⟩ := eq_of_started? starts
    obtain ⟨rfl, -⟩ := List.cons.inj next
    obtain ⟨driver, after, started⟩ := carriedOut ⟨_, starting⟩
      (List.mem_append_right _ List.mem_cons_self)
    obtain ⟨driver', after', ended⟩ := carriedOut ⟨_, waited⟩
      (List.mem_append_right _ (List.mem_cons_of_mem _ List.mem_cons_self))
    have inspected := perform_exec_inspected driver container starter _ _ started process rfl
    obtain rfl := perform_wait_told inspected driver' ended tells
    obtain ⟨before, execs⟩ := execsOf_suffix (front.map (·.exchange))
      (⟨.engine (.exec container starter), .ok process⟩ ::
        ⟨.wait process, .ok (low32 n)⟩ :: later.map (·.exchange))
    refine ⟨before, ⟨container, starter, some (.ok (low32 n))⟩, execs.trans ?_, rfl⟩
    rw [execsOf, execsOf_cons_of_not id, quiet]
    rfl

/-- What is told of the execution that was the last is what the commands come to, unless it is the
exit code 0 and something was missing for the command after it. -/
theorem Followed.last_reported {build : Build} {commands : List Plan.Item} {before : List Exec}
    {exec : Exec} {outcome : Except Failure Int} {code : Int}
    (followed : Followed build commands (before ++ [exec]) outcome)
    (report : exec.report = some (.ok code)) :
    outcome = .ok code ∨ code = 0 ∧ (∃ failure, outcome = .error failure) ∧
      (before ++ [exec]).length < commands.length := by
  generalize equal : before ++ [exec] = execs at followed
  cases followed with
  | @upTo done rest command before' ended _ succeeded undertaken whole =>
    cases undertaken with
    | unplaced needed =>
      rw [List.append_nil] at equal
      subst equal
      have many := succeeded.length_eq
      have each : List.Forall₂ (fun exec _ => exec.report = some (.ok 0) ∧ True) (before ++ [exec])
          done := (succeeded.imp fun _ _ successful => ⟨successful.report, trivial⟩).flip
      have successful := ((List.forall₂_and_left _ _).mp each).1 exec
        (List.mem_append_right _ (List.mem_singleton_self _))
      cases report.symm.trans successful
      refine .inr ⟨rfl, ⟨_, rfl⟩, ?_⟩
      rw [List.append_nil, ← many, List.length_append, List.length_cons]
      omega
    | failed performed failed =>
      obtain ⟨-, same⟩ := List.append_inj' equal rfl
      cases same
      cases report.symm.trans failed
    | exited performed exited =>
      obtain ⟨-, same⟩ := List.append_inj' equal rfl
      cases same
      cases report.symm.trans exited
      exact .inl rfl

section Calls

variable {arguments : List String} {environment : Environment} {options : Options}
  {order : BuildOrder} {code : Nat}

/-- **The exit code that the API tells, and that of the call.** Let `n` be told when the last command
was waited for. Unless that is followed by a command for which something was missing, the commands
come to the lowest 32 bits of `n`; and if the build could be cleared away and written down, the
call ends with `n` itself, or with 1 if `n` is no byte, unless those bits are another byte. -/
theorem told_exit_code_kept_iff (read : Options.read arguments = .ok options)
    (job : options.job = .run order)
    (relayed : Program.Relayed Yard.perform first relays last)
    (yields : (invoke arguments environment).Yields (relays.map (·.exchange)) code)
    (told : ToldLast n relays) :
    ∃ plan clearing outcome,
      Reckoned order plan clearing outcome (deedsOf (relays.map (·.exchange))) code ∧
        (outcome = .ok (low32 n) ∨ low32 n = 0 ∧ (∃ failure, outcome = .error failure) ∧
          (execsOf (deedsOf (relays.map (·.exchange)))).length <
            (plan.commands clearing.before.declared.environment).length) ∧
        (outcome = .ok (low32 n) → clearing.result = .ok () →
          Wrote order.state (deedsOf (relays.map (·.exchange))) →
            (code = exitCode n ↔
              (0 ≤ low32 n ∧ low32 n ≤ 255 → low32 n = 1 ∨ low32 n = n))) := by
  rcases invoke_reckoned read job yields with
    ⟨unattached, unexecuted, failed⟩ | ⟨plan, clearing, outcome, reckoned⟩
  · obtain ⟨before, exec, execs, -⟩ :=
      told.reported relayed (awaited_of_execsOf_eq_nil unexecuted)
    rw [unexecuted] at execs
    cases List.append_ne_nil_of_right_ne_nil before (List.cons_ne_nil exec []) execs.symm
  · obtain ⟨before, exec, execs, report⟩ := told.reported relayed reckoned.awaited
    have followed := reckoned.followed
    rw [execs] at followed
    have shape := followed.last_reported report
    rw [← execs] at shape
    refine ⟨plan, clearing, outcome, reckoned, shape, fun exited cleared wrote => ?_⟩
    obtain ⟨byte, other⟩ := reckoned.exits _ exited cleared wrote
    rw [← exitCode_low32_iff]
    have kept : code = exitCode (low32 n) := by
      by_cases low : 0 ≤ low32 n ∧ low32 n ≤ 255
      · have same := byte low
        have same' := exitCode_of_byte low
        omega
      · rw [other low, exitCode_of_other low]
    rw [kept]

end Calls

/-! ### A number of more than 32 bits -/

/-- What an engine replies that creates whatever it is asked for, and tells `n` as the exit code of
every process. -/
def replyTelling (n : Int) (request : Host.Request) : Host.Reply :=
  let reply (members : List (String × Json)) : Host.Reply :=
    { status := 200, body := Bytes.ofString (Json.record members).compact }
  match request.path with
  | "/volumes/create" =>
    reply [("Name", .text "v"), ("Driver", .text "local"), ("Mountpoint", .text "/m"),
      ("Labels", .record []), ("Scope", .text "local"), ("Options", .record [])]
  | "/containers/create" => reply [("Id", .text "c"), ("Warnings", .array [])]
  | "/containers/c/archive" =>
    { status := 200, body := ((Archive.singleFile "list" [] 0o644).toOption).getD [] }
  | "/containers/c/exec" => reply [("Id", .text "e")]
  | "/exec/e/json" => reply [("ExitCode", .ofInt n)]
  | _ => reply []

/-- A host with such an engine, and with one file. -/
def hostTelling (n : Int) (ask : Host.Ask) (now : Unit) : ask.Answer × Unit :=
  match ask with
  | .read path => ((oneFile path).getD (.error .notFound), now)
  | .writeFile _ _ => (.ok (), now)
  | .send _ request => (.ok (replyTelling n request), now)
  | .connect _ _ _ => (.ok (.inr { data := [] }), now)
  | ask => (Relay.answer ask .null, now)

/-- A call that is to run one command through the API. -/
def makingArguments : List String :=
  ["--driver", "native", "run", "--spec", "build.toml", "--state", "state.json", "mvn"]

/-- What comes of the call when the API tells `n`. -/
def makeTold (n : Int) : List BuildYard.Carried × Nat × Option Driver × Unit :=
  (invoke makingArguments fun _ => none).relay Yard.perform (hostTelling n) none ()

/-- The order of that call. -/
def making : BuildOrder :=
  { spec := "build.toml", state := some "state.json", command := ["mvn"] }

theorem read_making : ∃ options, Options.read makingArguments = .ok options ∧
    options.job = .run making :=
  ⟨_, rfl, by decide +kernel⟩

/-- Whether the API told `n` last, and the call ended with `code`. -/
def endsTold (n : Int) (code : Nat) : Bool :=
  let told := makeTold n
  told.2.1 == code && (doings told.1).tails.any fun rest => decide (ToldFirst n rest)

/-- The call is carried out, and `n` is told last. -/
theorem carried_of_endsTold {n : Int} {code : Nat} (ends : endsTold n code = true) :
    Program.Relayed Yard.perform none (makeTold n).1 (makeTold n).2.2.1 ∧
      (invoke makingArguments fun _ => none).Yields ((makeTold n).1.map (·.exchange)) code ∧
        ToldLast n (makeTold n).1 := by
  obtain ⟨relayed, yields⟩ := Program.relayed_relay Yard.perform (hostTelling n)
    (invoke makingArguments fun _ => none) none ()
  obtain ⟨same, told⟩ := Bool.and_eq_true_iff.mp ends
  obtain ⟨rest, suffix, first⟩ := List.any_eq_true.mp told
  refine ⟨relayed, ?_, rest, (List.mem_tails _ _).mp suffix, of_decide_eq_true first⟩
  exact eq_of_beq same ▸ yields

theorem told_exit_code_kept_iff_seven :
    ToldLast 7 (makeTold 7).1 ∧ ∃ plan clearing,
      Reckoned making plan clearing (.ok 7) (deedsOf ((makeTold 7).1.map (·.exchange))) 7 := by
  have ends : endsTold 7 7 = true := by decide +kernel
  obtain ⟨relayed, yields, told⟩ := carried_of_endsTold ends
  obtain ⟨options, read, job⟩ := read_making
  obtain ⟨plan, clearing, outcome, reckoned, shape, -⟩ :=
    told_exit_code_kept_iff read job relayed yields told
  refine ⟨told, plan, clearing, ?_⟩
  rcases shape with rfl | ⟨zero, -⟩
  · exact reckoned
  · cases zero

/-- **A failed command passes for a successful one.** Its exit code is told as 4294967296, the
build is cleared away and written down, and the call ends with 0. -/
theorem exit_code_lost_in_conversion :
    ToldLast 4294967296 (makeTold 4294967296).1 ∧ exitCode 4294967296 = 1 ∧
      (invoke makingArguments fun _ => none).Yields
        ((makeTold 4294967296).1.map (·.exchange)) 0 ∧
      ∃ plan clearing outcome,
        Reckoned making plan clearing outcome
          (deedsOf ((makeTold 4294967296).1.map (·.exchange))) 0 ∧
        clearing.result = .ok () ∧
        Wrote making.state (deedsOf ((makeTold 4294967296).1.map (·.exchange))) := by
  have ends : endsTold 4294967296 0 = true := by decide +kernel
  obtain ⟨-, yields, told⟩ := carried_of_endsTold ends
  obtain ⟨options, read, job⟩ := read_making
  refine ⟨told, by decide, yields, ?_⟩
  rcases invoke_reckoned read job yields with
    ⟨-, -, failed⟩ | ⟨plan, clearing, outcome, reckoned⟩
  · cases failed
  · obtain ⟨cleared, wrote, -⟩ := reckoned.zero
    exact ⟨plan, clearing, outcome, reckoned, cleared, wrote⟩

end Command

end BuildYard
