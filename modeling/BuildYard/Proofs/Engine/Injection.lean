import BuildYard.Proofs.Engine.Service
import BuildYard.Proofs.Files.Accounts
import BuildYard.Relay

/-!
# The build account in a container

What the requests of a launch do to the files of a container is told by its steps
(`Way.through_served`), and the steps of a launch change the files one after
another (`changed_andThen`). So the lists of groups and of users go on with a line
for the build account each, and of all other files only the helper is another
(`Injected`), whichever way the engine is asked (`account_added`).
-/

set_option autoImplicit false

namespace BuildYard

open Launch (Creation Launching Plan SetsUp Step StepTaken Tells Way)

/-! ## Steps -/

namespace Launch

/-- What a step that was taken did to the files of the container `id`. -/
structure Served (id : String) (files : ContainerFiles) (taken : StepTaken)
    (files' : ContainerFiles) : Prop where
  still : taken.question.verb? ≠ some .copy → files' = files
  copyOut : ∀ path contents, taken = ⟨.copyOut id path, .ok contents⟩ →
    files' = files ∧ files path = some contents
  copyIn : ∀ dir archive, taken = ⟨.copyIn id dir archive, .ok ()⟩ →
    Unpacked dir archive files files'

section Served

variable {way : Way} {id : String} {s : Step} {answer : s.Answer} {made : List HostExchange}
  {files files' : ContainerFiles} {exchange : HostExchange}

/-- Every request is an errand. -/
theorem requests_errands (trace : List HostExchange) :
    requests (errands trace) = requests trace := by
  rw [requests, errands, Program.counted, Program.counted, List.filter_filter]
  refine List.filter_congr fun exchange _ => ?_
  cases yes : exchange.question.isRequest with
  | false => rfl
  | true =>
    have errand : exchange.question.isErrand = true := Host.Counting.request _ yes
    rw [errand, Bool.and_self]

/-- A step that is put as a request is one exchange, and that shows it. -/
theorem Way.Took.shows {ask : Host.Ask} {shown : Shown} (tells : Tells way.step s)
    (took : way.Took s answer made) (asks : way.asks s = some ask)
    (seen : sight ⟨s, answer⟩ = some shown) :
    ∃ exchange, made = [exchange] ∧ Shows exchange shown := by
  have asked := took.asked
  obtain ⟨trace, yields, rfl⟩ := took
  have all : List.Forall₂ Shows (errands trace) (sight ⟨s, answer⟩).toList :=
    tells trace answer yields
  rw [seen, Option.toList_some] at all
  obtain ⟨exchange, rest, shows, none, single⟩ := List.forall₂_cons_right_iff.mp all
  rw [List.forall₂_nil_right_iff.mp none] at single
  refine ⟨exchange, ?_, shows⟩
  rw [asks, ← requests_errands, single] at asked
  rw [← requests_errands, single]
  cases yes : exchange.question.isRequest with
  | true => exact Program.counted_cons_of_pos yes
  | false =>
    rw [requests, Program.counted_cons_of_neg yes] at asked
    cases asked

/-- What a step does to the files its request does. -/
theorem served_copyOut {path : String} {answer : Except EngineError Bytes}
    (shows : Shows exchange ⟨.copyOut id path, answer.toOption⟩)
    (serves : Serves id files exchange files') :
    Served id files ⟨.copyOut id path, answer⟩ files' where
  still other := absurd rfl other
  copyIn := nofun
  copyOut := by
    rintro path contents ⟨⟩
    obtain ⟨same, brings⟩ := serves.copyOut path shows.means
    refine ⟨same, ?_⟩
    obtain ⟨archive, brought, read⟩ := Option.bind_eq_some_iff.mp shows.told.symm
    obtain ⟨found, after, first, held⟩ := brings archive brought
    rw [Archive.firstFile_eq_ok_iff.mpr ⟨found, after, first, rfl⟩] at read
    rw [held, ← read]
    rfl

theorem served_copyIn {dir : String} {archive : Bytes} {answer : Except EngineError Unit}
    (shows : Shows exchange ⟨.copyIn id dir archive, answer.toOption⟩)
    (serves : Serves id files exchange files') :
    Served id files ⟨.copyIn id dir archive, answer⟩ files' where
  still other := absurd rfl other
  copyOut := nofun
  copyIn := by
    rintro dir archive ⟨⟩
    obtain ⟨bytes, brought, -⟩ := Option.map_eq_some_iff.mp shows.told.symm
    exact serves.copyIn dir archive shows.means (brought ▸ rfl)

/-- What leaves the files alone is served by leaving them alone. -/
theorem served_still {taken : StepTaken} (other : taken.question.verb? ≠ some .copy)
    (still : files' = files) : Served id files taken files' where
  still _ := still
  copyOut := by
    rintro path contents rfl
    exact absurd rfl other
  copyIn := by
    rintro dir archive rfl
    exact absurd rfl other

/-- **What the requests of a step do to the files the step does.** -/
theorem Way.Took.served (tells : Tells way.step s) (sets : SetsUp id s)
    (took : way.Took s answer made) (through : Through (Serves id) files made files') :
    Served id files ⟨s, answer⟩ files' := by
  cases sets with
  | copyOut path =>
    obtain ⟨exchange, rfl, shows⟩ := took.shows tells rfl rfl
    exact served_copyOut shows (through_singleton_iff.mp through)
  | copyIn dir archive =>
    obtain ⟨exchange, rfl, shows⟩ := took.shows tells rfl rfl
    exact served_copyIn shows (through_singleton_iff.mp through)
  | readFile path =>
    have none : made = [] := List.map_eq_nil_iff.mp took.asked
    rw [none] at through
    exact served_still nofun (through_nil_iff.mp through)
  | start =>
    obtain ⟨exchange, rfl, asked⟩ := List.map_eq_singleton_iff.mp took.asked
    have verb : exchange.question.verb? = some .start := asked ▸ way.verb (.start id) _ rfl
    refine served_still nofun ((through_singleton_iff.mp through).still ?_)
    rw [verb]
    decide

/-- **What the requests of a set-up do to the files its steps do.** -/
theorem Way.through_served {steps : List StepTaken} (tells : ∀ s, SetsUp id s → Tells way.step s)
    (within : ∀ step ∈ steps, SetsUp id step.question) (taken : way.TookAll steps made)
    (through : Through (Serves id) files made files') :
    Through (Served id) files steps files' := by
  induction taken generalizing files with
  | nil => exact through_nil_iff.mpr (through_nil_iff.mp through)
  | cons took _ ih =>
    obtain ⟨here, others⟩ := List.forall_mem_cons.mp within
    obtain ⟨between, first, rest⟩ := through_append_iff.mp through
    exact .cons (took.served (tells _ here) here first) (ih others rest)

end Served

/-! ## Plans -/

section Changes

variable {α β : Type} {id dir path name line : String} {contents : Bytes} {mode : Nat}
  {settings : AgentSettings}

/-- What succeeded changed the files of the container `id` like that. -/
def Changed (id : String) (change : α → ContainerFiles → ContainerFiles → Prop)
    (result : Except EngineError α) (steps : List StepTaken) : Prop :=
  ∀ a, result = .ok a → ∀ files files', Through (Served id) files steps files' →
    change a files files'

theorem Changed.mono {change change' : α → ContainerFiles → ContainerFiles → Prop}
    {result : Except EngineError α} {steps : List StepTaken}
    (changed : Changed id change result steps)
    (weaker : ∀ a files files', change a files files' → change' a files files') :
    Changed id change' result steps :=
  fun a same files files' through => weaker a files files' (changed a same files files' through)

theorem changed_error {change : α → ContainerFiles → ContainerFiles → Prop} {cause : EngineError}
    {steps : List StepTaken} : Changed id change (.error cause) steps := by
  intro a succeeded
  cases succeeded

/-- **Changes are made one after another.** -/
theorem changed_andThen {plan : Plan α} {f : α → Plan β}
    {first : α → ContainerFiles → ContainerFiles → Prop}
    {second : α → β → ContainerFiles → ContainerFiles → Prop}
    (changed : plan.Ensures (Changed id first))
    (next : ∀ a, (f a).Ensures (Changed id (second a))) :
    Plan.Ensures (plan >>= f) (Changed id fun b files files' =>
      ∃ a between, first a files between ∧ second a b between files') := by
  refine Program.ensures_andThen.mpr (changed.mono fun result steps changed => ?_)
  cases result with
  | error cause => exact changed_error
  | ok a =>
    refine (next a).mono fun result rest changed' b same files files' through => ?_
    obtain ⟨between, here, there⟩ := through_append_iff.mp through
    exact ⟨a, between, changed a rfl files between here, changed' b same between files' there⟩

theorem changed_pure (a : α) :
    Plan.Ensures (pure a) (Changed id fun _ files files' => files' = files) :=
  Program.ensures_ok.mpr fun _ _ _ _ through => through_nil_iff.mp through

theorem changed_copyOut : (copyOut id path).Ensures (Changed id fun contents files files' =>
    files' = files ∧ files path = some contents) := by
  refine (Program.ensures_question rfl).mpr fun answer contents same files files' through => ?_
  exact (through_singleton_iff.mp through).copyOut path contents (by rw [same])

theorem changed_copyIn {archive : Bytes} :
    (copyIn id dir archive).Ensures (Changed id fun _ => Unpacked dir archive) := by
  refine (Program.ensures_question rfl).mpr fun answer done same files files' through => ?_
  exact (through_singleton_iff.mp through).copyIn dir archive (by rw [same])

theorem changed_start :
    (start id).Ensures (Changed id fun _ files files' => files' = files) := by
  refine (Program.ensures_question rfl).mpr fun answer done same files files' through => ?_
  exact (through_singleton_iff.mp through).still nofun

theorem changed_readFile :
    (readFile path).Ensures (Changed id fun _ files files' => files' = files) := by
  refine Program.ensures_lift_andThen.mpr ((Program.ensures_question rfl).mpr fun answer => ?_)
  cases answer with
  | error cause => exact Program.ensures_throw.mpr changed_error
  | ok contents =>
    refine Program.ensures_ok.mpr fun _ _ files files' through => ?_
    exact (through_singleton_iff.mp through).still nofun

/-- **Putting a file replaces that file**, if an archive keeps its name. -/
theorem changed_putFile (kept : Archive.kept name = name) :
    (putFile id dir name contents mode).Ensures (Changed id fun _ files files' =>
      files' = Function.update files (Path.join dir name) (some contents)) := by
  rw [putFile]
  cases packed : Archive.singleFile name contents mode with
  | error fault => exact Program.ensures_throw.mpr changed_error
  | ok archive =>
    refine changed_copyIn.mono fun result steps changed => ?_
    exact changed.mono fun _ _ _ unpacked => unpacked.put packed kept

/-- **Adding a line to a file replaces it by itself with the line.** -/
theorem changed_appendToFile (id line : String) (split : Path.splitInContainer path = (dir, name))
    (joined : Path.join dir name = path) (kept : Archive.kept name = name) :
    (appendToFile id path line).Ensures (Changed id fun _ files files' =>
      ∃ old, files path = some old ∧
        files' = Function.update files path (some (appendLine old line))) := by
  rw [appendToFile, split]
  refine (changed_andThen changed_copyOut fun contents => changed_putFile kept).mono
    fun result steps changed => changed.mono ?_
  rintro _ files files' ⟨contents, _, ⟨rfl, there⟩, put⟩
  exact ⟨contents, there, joined ▸ put⟩

/-- The path of the list of groups. -/
def groupsPath : String := "/etc/group"

/-- The path of the list of users. -/
def usersPath : String := "/etc/passwd"

/-- Both lists go on with a line for the account. -/
theorem changed_injectAccount :
    (injectAccount settings id).Ensures (Changed id fun _ files files' =>
    ∃ groups users, files groupsPath = some groups ∧ files usersPath = some users ∧
      files' = Function.update
        (Function.update files groupsPath (some (appendLine groups (Account.groupEntry settings))))
        usersPath (some (appendLine users (Account.passwdEntry settings)))) := by
  have toGroups : Path.splitInContainer groupsPath = ("/etc", "group") := by decide +kernel
  have toUsers : Path.splitInContainer usersPath = ("/etc", "passwd") := by decide +kernel
  have groups := changed_appendToFile id (Account.groupEntry settings) toGroups
    (by decide +kernel) (by decide +kernel)
  have users := changed_appendToFile id (Account.passwdEntry settings) toUsers
    (by decide +kernel) (by decide +kernel)
  refine (changed_andThen groups fun _ => users).mono fun result steps changed => changed.mono ?_
  rintro _ files files' ⟨_, _, ⟨old, there, rfl⟩, ⟨old', there', rfl⟩⟩
  rw [Function.update_of_ne (by decide)] at there'
  exact ⟨old, old', there, there', rfl⟩

/-- At most the helper is put into a container. -/
theorem changed_injectHelper : (injectHelper settings id).Ensures (Changed id fun _ files files' =>
    ∀ path, (settings.helper.isSome = true → path ≠ helperPath) → files' path = files path) := by
  rw [injectHelper]
  cases settings.helper with
  | none =>
    refine (changed_pure ()).mono fun result steps changed => changed.mono ?_
    exact fun _ _ _ same path _ => congrFun same path
  | some helper =>
    have split : Path.splitInContainer helperPath = ("/", "trampoline") := by decide +kernel
    have joined : Path.join "/" "trampoline" = helperPath := by decide +kernel
    have put (contents : Bytes) : (putFile id "/" "trampoline" contents 0o555).Ensures
        (Changed id fun _ files files' =>
          files' = Function.update files (Path.join "/" "trampoline") (some contents)) :=
      changed_putFile (by decide +kernel)
    rw [split]
    refine (changed_andThen changed_readFile put).mono fun result steps changed => changed.mono ?_
    rintro _ files files' ⟨contents, _, rfl, rfl⟩ path other
    rw [joined, Function.update_of_ne (other rfl)]

end Changes

/-! ## Accounts -/

section Injected

/-- A file goes on with a line: what was there stays in front, its rows stay as they are, the rows
of the line come behind them, and the file ends with a line feed. -/
structure Extended (line : String) (old new : Bytes) : Prop where
  starts : old <+: new
  rows : rows new = rows old ++ rows (Bytes.ofString line)
  closed : new.getLast? = some lineFeed

theorem extended_appendLine (line : String) (old : Bytes) :
    Extended (line ++ "\n") old (appendLine old (line ++ "\n")) where
  starts := prefix_appendLine old _
  rows := rows_appendLine (getLast?_line line)
  closed := getLast?_appendLine old _

/-- **The build account is added to a container**, and only the helper besides, if there is one. -/
structure Injected (settings : AgentSettings) (files files' : ContainerFiles) : Prop where
  groups : ∃ old new, files groupsPath = some old ∧ files' groupsPath = some new ∧
    Extended (Account.groupEntry settings) old new
  users : ∃ old new, files usersPath = some old ∧ files' usersPath = some new ∧
    Extended (Account.passwdEntry settings) old new
  others : ∀ path, path ≠ groupsPath → path ≠ usersPath →
    (settings.helper.isSome = true → path ≠ helperPath) → files' path = files path

variable {settings : AgentSettings} {id : String}

/-- **Setting up a work container adds the build account.** -/
theorem changed_setUpWork : (setUpWork settings id).Ensures
    (Changed id fun _ => Injected settings) := by
  refine (changed_andThen changed_injectAccount fun _ =>
    changed_andThen changed_injectHelper fun _ => changed_start).mono
      fun result steps changed => changed.mono ?_
  rintro _ files files' ⟨_, _, ⟨groups, users, inGroups, inUsers, rfl⟩, _, _, still, rfl⟩
  have groupsKept := still groupsPath fun _ => by decide
  have usersKept := still usersPath fun _ => by decide
  rw [Function.update_of_ne (by decide), Function.update_self] at groupsKept
  rw [Function.update_self] at usersKept
  refine ⟨⟨groups, _, inGroups, groupsKept, ?_⟩, ⟨users, _, inUsers, usersKept, ?_⟩, ?_⟩
  · rw [Account.groupEntry_line]
    exact extended_appendLine _ groups
  · rw [Account.passwdEntry_line]
    exact extended_appendLine _ users
  · intro path noGroups noUsers noHelper
    rw [still path noHelper, Function.update_of_ne noUsers, Function.update_of_ne noGroups]

/-- What a set-up ensures if it succeeds holds if what breaks is discarded. -/
theorem orDiscard_ready {setup : Plan Unit} {post : List StepTaken → Prop}
    (ready : setup.Ensures fun result steps => result = .ok () → post steps) :
    (orDiscard id setup).Ensures fun result steps => result = .ok () → post steps := by
  refine Program.ensures_bind.mpr (ready.mono fun result steps holds => ?_)
  cases result with
  | ok done => exact Program.ensures_pure.mpr fun _ => (List.append_nil steps).symm ▸ holds rfl
  | error cause =>
    refine Program.ensures_bind.mpr fun trace value yields => ?_
    exact Program.ensures_pure.mpr nofun

/-- **A work container that is ready has the build account.** -/
theorem work_injected (settings : AgentSettings) (image : String) (beside : Handle)
    (hints : Hints) :
    (work settings image beside hints).Ensures fun result steps => ∀ handle, result = .ok handle →
      ∃ rest, steps = ⟨.create (workCreation settings image beside hints), .ok handle.id⟩ :: rest ∧
        (∀ step ∈ rest, SetsUp handle.id step.question) ∧
        ∀ files files', Through (Served handle.id) files rest files' →
          Injected settings files files' := by
  refine Program.ensures_andThen.mpr ((Program.ensures_question rfl).mpr fun answer => ?_)
  cases answer with
  | error cause => exact nofun
  | ok id =>
    have sets : (setUpWork settings id).Ensures fun result steps => result = .ok () →
        (∀ step ∈ steps, SetsUp id step.question) ∧ ∀ files files',
          Through (Served id) files steps files' → Injected settings files files' := by
      have setsUp : (setUpWork settings id).Ensures (SetUp none id 1) := setUp_setUpWork
      refine (setsUp.and changed_setUpWork).mono ?_
      rintro result steps ⟨setUp, changed⟩ succeeded
      exact ⟨setUp.within, changed () succeeded⟩
    refine Program.ensures_andThen.mpr (ensures_report.mpr (Program.ensures_andThen.mpr ?_))
    refine (orDiscard_ready sets).mono fun result steps ready => ?_
    cases result with
    | error cause => exact nofun
    | ok done =>
      refine Program.ensures_ok.mpr ?_
      rintro handle ⟨⟩
      obtain ⟨within, injected⟩ := ready rfl
      exact ⟨steps, by simp, within, injected⟩

/-- **What a launch of a work container does to the container's files** if it succeeds: the first
request creates the container, and those after it add the build account. -/
def AddsAccount (settings : AgentSettings) (result : Except EngineError Handle)
    (made : List HostExchange) : Prop :=
  ∀ handle, result = .ok handle → ∃ created rest, made = created :: rest ∧
    created.question.verb? = some .create ∧ idNamed? created = some handle.id ∧
      ∀ files files', Through (Serves handle.id) files rest files' → Injected settings files files'

/-- **Whichever way the steps are taken, the requests add the build account.** -/
theorem Way.addsAccount (way : Way) (tells : ∀ id s, SetsUp id s → Tells way.step s)
    (settings : AgentSettings) (image : String) (beside : Handle) (hints : Hints) :
    Attempt.Ensures ((work settings image beside hints).perform way.step)
      (AddsAccount settings) := by
  refine way.ensures_perform ((work_injected settings image beside hints).mono ?_)
  intro result steps launched made took handle succeeded
  obtain ⟨rest, rfl, within, injected⟩ := launched handle succeeded
  obtain ⟨first, more, creation, taken, rfl⟩ := tookAll_cons_iff.mp took
  obtain ⟨created, rfl, creates, named⟩ := creation.created
  refine ⟨created, more, rfl, creates, named, fun files files' through => ?_⟩
  exact injected files files' (way.through_served (tells handle.id) within taken through)

/-- No step of a set-up creates anything. -/
theorem SetsUp.ne_create {s : Step} (sets : SetsUp id s) (creation : Creation) :
    s ≠ .create creation := by
  cases sets <;> exact nofun

end Injected

end Launch

open Launch (AddsAccount Injected groupsPath usersPath)

/-- **The build account is added, and nothing else is lost.** By the command line and by the API,
whatever the settings, the hints and the answers: if the launch of a work container succeeds with an
engine that serves it, the lists of groups and of users go on with the line for the account. What
was there stays in front, byte for byte, whatever it was; the rows are those that were there, and
then those of the line, so that neither a closed nor an open last row is merged or lost; and both
lists end with a line feed. No other file is another but the helper. The line for the groups is one
row, and so is that for the users unless the workspace root has a line feed in it. -/
theorem account_added (image : String) (beside : Handle) (hints : Hints) :
    (∀ driver : ByCommand, Attempt.Ensures (driver.launch (.work image beside hints))
      (AddsAccount driver.agent)) ∧
    (∀ driver : ByApi, Attempt.Ensures (driver.launch (.work image beside hints))
      (AddsAccount driver.agent)) ∧
    ∀ agent : AgentSettings,
      rows (Bytes.ofString (Account.groupEntry agent)) =
        [Bytes.ofString (Account.groupLine agent)] ∧
      ('\n' ∉ agent.workspaceRoot.toList →
        rows (Bytes.ofString (Account.passwdEntry agent)) =
          [Bytes.ofString (Account.passwdLine agent)]) := by
  refine ⟨fun driver => ?_, fun driver => ?_, fun agent => ⟨rows_groupEntry agent, rows_passwdEntry⟩⟩
  · refine driver.way.addsAccount (fun id s sets => ?_) driver.agent image beside hints
    exact ByCommand.step_tells s fun creation same => absurd same (sets.ne_create creation)
  · rw [ByApi.launch_eq_perform]
    refine driver.way.addsAccount (fun id s sets => ?_) driver.agent image beside hints
    exact ByApi.step_tells s fun creation same => absurd same (sets.ne_create creation)

/-! ## Launches that are served -/

/-- A list of groups whose last row is closed. -/
def groupList : Bytes :=
  Bytes.ofString "root:x:0:\n"

/-- A list of users whose last row is open. -/
def userList : Bytes :=
  Bytes.ofString "root:x:0:0::/root:/bin/sh"

/-- The lists with the account added. -/
def newGroupList : Bytes :=
  appendLine groupList (Account.groupEntry {})

def newUserList : Bytes :=
  appendLine userList (Account.passwdEntry {})

/-- The lists as archives. -/
def packedGroups (contents : Bytes) : Bytes :=
  Archive.smallFile "group" contents 0o644

def packedUsers (contents : Bytes) : Bytes :=
  Archive.smallFile "passwd" contents 0o644

/-- A container with the lists. -/
def withLists : ContainerFiles :=
  Function.update (Function.update (fun _ => none) groupsPath (some groupList))
    usersPath (some userList)

/-- The list that a request copies out, by its words or its method and query. -/
def listFor? (words : List String) : Option Bytes :=
  if words = ["cp", "c1:/etc/group", "-"] ∨ words = ["GET", "path", groupsPath] then
    some (packedGroups groupList)
  else if words = ["cp", "c1:/etc/passwd", "-"] ∨ words = ["GET", "path", usersPath] then
    some (packedUsers userList)
  else none

/-- What an engine says that has created the container `c1`, by the API. -/
def creationReply : Bytes :=
  Bytes.ofString "\x7b\x22Id\x22:\x22c1\x22,\x22Warnings\x22:[]\x7d"

/-- An engine that creates the container `c1` with the lists. -/
def servesLists (ask : Host.Ask) (state : Unit) : ask.Answer × Unit :=
  match ask with
  | .invoke invocation _ =>
    (.ended (some 0) ((listFor? invocation.arguments).getD (Bytes.ofString "c1\n")) [], state)
  | .send _ request =>
    let words := request.method :: request.query.flatMap fun (name, value) => [name, value]
    (.ok { status := 200, body := (listFor? words).getD creationReply }, state)
  | ask => (Relay.answer ask .null, state)

/-- Drivers with the settings that hold where nothing is set. -/
def plainCommand : ByCommand :=
  { program := "docker", endpoint := default, agent := {} }

def plainApi : ByApi :=
  { endpoint := default, agent := {} }

/-- The launches of a work container with that engine. -/
def launchedByCommand : List HostExchange × Except EngineError Handle × Unit :=
  (plainCommand.launch (.work "w" { image := "i", id := "a1" } {})).run.record servesLists ()

def launchedByApi : List HostExchange × Except EngineError Handle × Unit :=
  (plainApi.launch (.work "w" { image := "i", id := "a1" } {})).run.record servesLists ()

/-- The launches succeed, and what they have the engine do after the creation. -/
theorem succeeded_launchedByCommand :
    launchedByCommand.2.1 = .ok { image := "w", id := "c1" } ∧
    (requests launchedByCommand.1).tail.map succeeded? =
      [some (["cp", "c1:/etc/group", "-"], none, packedGroups groupList),
        some (["cp", "-", "c1:/etc"], some (packedGroups newGroupList), Bytes.ofString "c1\n"),
        some (["cp", "c1:/etc/passwd", "-"], none, packedUsers userList),
        some (["cp", "-", "c1:/etc"], some (packedUsers newUserList), Bytes.ofString "c1\n"),
        some (["start", "c1"], none, Bytes.ofString "c1\n")] := by
  decide +kernel

theorem accepted_launchedByApi :
    launchedByApi.2.1 = .ok { image := "w", id := "c1" } ∧
    (requests launchedByApi.1).tail.map accepted? =
      [some { method := "GET", query := [("path", groupsPath)], brought := packedGroups groupList },
        some
          { method := "PUT", query := [("path", "/etc")],
            carried := some (packedGroups newGroupList), brought := creationReply },
        some { method := "GET", query := [("path", usersPath)], brought := packedUsers userList },
        some
          { method := "PUT", query := [("path", "/etc")],
            carried := some (packedUsers newUserList), brought := creationReply },
        some { method := "POST", brought := creationReply }] := by
  decide +kernel

/-- The lists fit into one block each, and archives keep their names. -/
theorem lists_fit :
    (packedGroups groupList).length = 4 * Archive.blockSize ∧
      (packedGroups newGroupList).length = 4 * Archive.blockSize ∧
      (packedUsers userList).length = 4 * Archive.blockSize ∧
      (packedUsers newUserList).length = 4 * Archive.blockSize ∧
      Archive.kept "group" = "group" ∧ Archive.kept "passwd" = "passwd" ∧
      usersPath ≠ Path.join "/etc" "group" := by
  decide +kernel

/-- The engine serves the container in both launches. -/
theorem served_launchedByCommand :
    ∃ files', Through (Serves "c1") withLists (requests launchedByCommand.1).tail files' := by
  obtain ⟨groups, newGroups, users, newUsers, groupKept, passwdKept, other⟩ := lists_fit
  have groupsOut := Archive.firstFile_smallFile groups
  have usersOut := Archive.firstFile_smallFile users
  obtain ⟨groupsIn, groupsFit⟩ := Archive.smallFile_written newGroups
  obtain ⟨usersIn, usersFit⟩ := Archive.smallFile_written newUsers
  have usersThere := Function.update_of_ne other (some newGroupList) withLists
  exact ⟨_,
    through_of_map_cons succeeded_launchedByCommand.2
      (fun _ run => serves_copyOut groupsPath run groupsOut rfl) fun _ runs =>
    through_of_map_cons runs
      (fun _ run => serves_copyIn "/etc" "group" run groupsIn groupsFit groupKept) fun _ runs =>
    through_of_map_cons runs
      (fun _ run => serves_copyOut usersPath run usersOut usersThere) fun _ runs =>
    through_of_map_cons runs
      (fun _ run => serves_copyIn "/etc" "passwd" run usersIn usersFit passwdKept) fun _ runs =>
    through_of_map_cons runs (fun _ run => serves_start run) fun _ runs => through_of_map_nil runs⟩

theorem served_launchedByApi :
    ∃ files', Through (Serves "c1") withLists (requests launchedByApi.1).tail files' := by
  obtain ⟨groups, newGroups, users, newUsers, groupKept, passwdKept, other⟩ := lists_fit
  have groupsOut := Archive.firstFile_smallFile groups
  have usersOut := Archive.firstFile_smallFile users
  obtain ⟨groupsIn, groupsFit⟩ := Archive.smallFile_written newGroups
  obtain ⟨usersIn, usersFit⟩ := Archive.smallFile_written newUsers
  have usersThere := Function.update_of_ne other (some newGroupList) withLists
  exact ⟨_,
    through_of_map_cons accepted_launchedByApi.2
      (fun _ run => serves_sentOut groupsPath run groupsOut rfl) fun _ runs =>
    through_of_map_cons runs
      (fun _ run => serves_sentIn "/etc" "group" run groupsIn groupsFit groupKept) fun _ runs =>
    through_of_map_cons runs
      (fun _ run => serves_sentOut usersPath run usersOut usersThere) fun _ runs =>
    through_of_map_cons runs
      (fun _ run => serves_sentIn "/etc" "passwd" run usersIn usersFit passwdKept) fun _ runs =>
    through_of_map_cons runs (fun _ run => serves_sentStart run) fun _ runs => through_of_map_nil runs⟩

/-- What was launched has the account if the engine serves its container. -/
theorem injected_of_adds {launched : List HostExchange × Except EngineError Handle × Unit}
    {handle : Handle} {agent : AgentSettings} {files : ContainerFiles}
    (adds : AddsAccount agent launched.2.1 (requests launched.1))
    (succeeded : launched.2.1 = .ok handle)
    (served : ∃ files', Through (Serves handle.id) files (requests launched.1).tail files') :
    ∃ files', Through (Serves handle.id) files (requests launched.1).tail files' ∧
      Injected agent files files' := by
  obtain ⟨files', through⟩ := served
  obtain ⟨created, rest, split, -, -, injected⟩ := adds handle succeeded
  refine ⟨files', through, injected _ _ ?_⟩
  have tail : (requests launched.1).tail = rest := congrArg List.tail split
  rwa [tail] at through

theorem account_added_served :
    (launchedByCommand.2.1 = .ok { image := "w", id := "c1" } ∧
      ∃ files', Through (Serves "c1") withLists (requests launchedByCommand.1).tail files' ∧
        Injected {} withLists files') ∧
    launchedByApi.2.1 = .ok { image := "w", id := "c1" } ∧
      ∃ files', Through (Serves "c1") withLists (requests launchedByApi.1).tail files' ∧
        Injected {} withLists files' := by
  obtain ⟨byCommand, byApi, -⟩ := account_added "w" { image := "i", id := "a1" } {}
  have addsByCommand := byCommand plainCommand _ _ (Program.yields_record servesLists _ ())
  have addsByApi := byApi plainApi _ _ (Program.yields_record servesLists _ ())
  have ranCommand := succeeded_launchedByCommand.1
  have ranApi := accepted_launchedByApi.1
  exact ⟨⟨ranCommand, injected_of_adds addsByCommand ranCommand served_launchedByCommand⟩,
    ranApi, injected_of_adds addsByApi ranApi served_launchedByApi⟩

end BuildYard
