import BuildYard.Proofs.Build.Attempts
import BuildYard.Proofs.Build.Deeds
import BuildYard.Proofs.Build.Material
import BuildYard.Relay

/-!
# Key material accompanies the engine's program

In every turn but one that clears the build away, the engine's program is run
with the variables of the driver, and the keys stay where they are; clearing
away does the same until its last call closes the driver, and then runs nothing
more (`Turn.Happens.conducted`). So with key material configured all runs are
accompanied up to the end of the first clearing. But that discards the keys, and
a build can be used again: none of the runs that come later is told of a
directory (`accompanied_until_cleared`).
-/

set_option autoImplicit false

namespace BuildYard

/-! ## What is ordinary -/

theorem Action.Prepares.ordinary {action : Action} (prepares : action.Prepares) :
    action.Ordinary := by
  cases action with
  | log entry => trivial
  | engine call =>
    rintro rfl
    exact prepares
  | _ => exact prepares.elim

theorem Action.Places.ordinary {action : Action} (places : action.Places) :
    action.Ordinary := by
  cases action with
  | log entry => trivial
  | context workspace context file => trivial
  | freshNumber => trivial
  | engine call =>
    rintro rfl
    exact places
  | _ => exact places.elim

namespace Build

variable {driver : ByCommand} {log : List Carried} {last : Option Driver}

/-- A deed that is ordinary, or waits for an agent that was attached before. -/
inductive Usual (trace : List Deed) : Deed → Prop where
  | ordinary {deed : Deed} (ordinary : deed.question.Ordinary) : Usual trace deed
  | waits {agent : Handle} {input : Option Host.Input} {process : Running}
      (attached : ⟨.engine (.attachAgent agent input), .ok process⟩ ∈ trace)
      (answer : Except EngineError Int) : Usual trace ⟨.wait process, answer⟩

theorem Usual.stays {trace : List Deed} {deed : Deed} (usual : Usual trace deed) :
    deed.question.Ordinary ∨ ∃ process, deed.question = .wait process := by
  cases usual with
  | ordinary ordinary => exact .inl ordinary
  | waits _ answer => exact .inr ⟨_, rfl⟩

/-- **As long as a build does what is usual, the program is run with the variables of the driver,
the keys stay, and so does the driver.** -/
theorem relayed_runsWith
    (relayed : Program.Relayed Yard.perform (some (.byCommand driver)) log last)
    (usual : ∀ carried ∈ log, Usual (log.map (·.exchange)) carried.exchange) :
    last = some (.byCommand driver) ∧ ∀ exchange ∈ log.flatMap (·.asked),
      exchange.question.RunsWith driver.endpoint.environment := by
  have kept := relayed.keeps_among (· = some (.byCommand driver))
    (fun action => action.Ordinary ∨ ∃ process, action = .wait process)
    (fun _ _ _ _ _ stays same yields => by
      subst same
      exact Yard.perform_stays stays _ _ yields)
    rfl fun carried member => (usual carried member).stays
  have performed : ∀ carried ∈ log, ∃ after,
      (Yard.perform carried.exchange.question (some (.byCommand driver))).Yields carried.asked
        (carried.exchange.answer, after) := by
    intro carried member
    obtain ⟨_, after, rfl, yields⟩ := kept.2 carried member
    exact ⟨after, yields⟩
  refine ⟨kept.1, fun exchange asked => ?_⟩
  -- a process that is waited for was attached by this very driver, so it only passes on
  obtain ⟨⟨deed, by_⟩, member, asked⟩ := List.mem_flatMap.mp asked
  obtain ⟨after, yields⟩ := performed _ member
  cases usual _ member with
  | ordinary ordinary => exact (Yard.perform_asks ordinary).forall_mem yields exchange asked
  | @waits agent input process attached answer =>
    obtain ⟨⟨_, starting⟩, attaching, rfl⟩ := List.mem_map.mp attached
    obtain ⟨_, started⟩ := performed _ attaching
    have passes := Yard.perform_attach _ _ started process rfl
    exact ((Yard.perform_wait_asks passes).forall_mem yields exchange asked).runsWith

/-- Reports run nothing and leave the driver as it is. -/
theorem relayed_logs {driver last : Option Driver}
    (relayed : Program.Relayed Yard.perform driver log last)
    (logs : ∀ carried ∈ log, ∃ entry, carried.exchange.question = .log entry) :
    last = driver ∧ ∀ exchange ∈ log.flatMap (·.asked), exchange.question.RunsNothing := by
  induction relayed with
  | nil driver => exact ⟨rfl, List.forall_mem_nil _⟩
  | @cons _ _ _ question _ _ _ answered _ ih =>
    obtain ⟨⟨entry, same⟩, later⟩ := List.forall_mem_cons.mp logs
    obtain rfl : question = .log entry := same
    obtain ⟨_, _, _, rfl, reported, yields⟩ := Program.yields_bind_iff.mp answered
    obtain rfl := Program.yields_question_iff.mp reported
    obtain ⟨rfl, same⟩ := Program.yields_pure_iff.mp yields
    obtain ⟨rfl, rfl⟩ := Prod.mk.inj same
    obtain ⟨kept, nothing⟩ := ih later
    exact ⟨kept, List.forall_mem_cons.mpr ⟨rfl, nothing⟩⟩

/-- What a turn asks of the host that a driver by command line carries out, and the driver
afterwards. -/
inductive Conducted (driver : ByCommand) (request : Request) :
    List HostExchange → Option Driver → Prop where
  | kept {asked : List HostExchange} (other : request ≠ .clean)
      (runs : ∀ exchange ∈ asked, exchange.question.RunsWith driver.endpoint.environment) :
      Conducted driver request asked (some (.byCommand driver))
  | closed {removing closing : List HostExchange} (clean : request = .clean)
      (runs : ∀ exchange ∈ removing, exchange.question.RunsWith driver.endpoint.environment)
      (nothing : ∀ exchange ∈ closing, exchange.question.RunsNothing) :
      Conducted driver request (removing ++ closing)
        (some (.byCommand { driver with endpoint := driver.endpoint.closed }))

/-! ### Turns that leave the driver open -/

theorem Usual.mono {trace more : List Deed} {deed : Deed} (usual : Usual trace deed)
    (subset : trace ⊆ more) : Usual more deed := by
  cases usual with
  | ordinary ordinary => exact .ordinary ordinary
  | waits attached answer => exact .waits (subset attached) answer

/-- Reports are ordinary, so that only deeds have to be looked at. -/
theorem usual_of_deeds {trace : List Deed} (usual : ∀ deed ∈ deedsOf trace, Usual trace deed) :
    ∀ deed ∈ trace, Usual trace deed := by
  intro deed member
  by_cases done : deed.question.isDeed = true
  · exact usual deed (List.mem_filter.mpr ⟨member, done⟩)
  · obtain ⟨action, answer⟩ := deed
    cases action with
    | log entry => exact .ordinary trivial
    | _ => exact absurd rfl done

section Usual

variable {build : Build}

theorem usual_attach {trace : List Deed} {agent : Handle} {input : Option Host.Input}
    {answer : Except EngineError Running} :
    Usual trace ⟨.engine (.attachAgent agent input), answer⟩ := by
  have attaches : Call.attachAgent agent input ≠ .close := by simp
  exact .ordinary attaches

theorem attachAgent_usual (input : Option Host.Input) :
    Does (attachAgent input) build fun _ made _ => ∀ deed ∈ made, Usual made deed := by
  refine (attachAgent_does input).mono ?_
  rintro _ _ _ (⟨rfl, -⟩ | ⟨handle, answer, rfl, -⟩)
  · exact List.forall_mem_nil _
  · exact List.forall_mem_singleton.mpr usual_attach

theorem launchAgent_usual (input : Option Host.Input) :
    Does (launchAgent input) build fun _ made _ => ∀ deed ∈ made, Usual made deed := by
  refine (launchAgent_does input).mono ?_
  rintro _ _ _ (rfl | ⟨handle, cause, rfl⟩ | ⟨handle, process, answer, rfl⟩)
  · exact List.forall_mem_nil _
  · exact List.forall_mem_singleton.mpr usual_attach
  · refine List.forall_mem_cons.mpr ⟨usual_attach, ?_⟩
    exact List.forall_mem_singleton.mpr (.waits List.mem_cons_self answer)

theorem runProcess_usual (starter : Starter) :
    Does (runProcess starter) build fun _ made _ => ∀ deed ∈ made, Usual made deed := by
  refine (runProcess_does starter).mono ?_
  rintro _ _ _ ⟨placing, places, ⟨rfl, -⟩ | ⟨container, starter, answer, rfl, -⟩⟩
  · exact fun deed member => .ordinary (places deed member).ordinary
  · have starts : Call.exec container starter ≠ .close := by simp
    refine List.forall_mem_append.mpr ⟨fun deed member => ?_, ?_⟩
    · exact .ordinary (places deed member).ordinary
    · exact List.forall_mem_singleton.mpr (.ordinary starts)

end Usual

/-- **Whatever is asked of a build but to clear it away, only what is usual is done.** -/
theorem Turn.Happens.usual {turn : Turn} (happens : turn.Happens)
    (other : turn.request ≠ .clean) : ∀ deed ∈ turn.trace, Usual turn.trace deed := by
  have does : Does turn.request.operation turn.before fun _ made _ =>
      ∀ deed ∈ made, Usual made deed := by
    cases request : turn.request with
    | prepareAgent =>
      exact prepareAgent_asks.does.mono fun _ _ _ prepares deed member =>
        .ordinary (prepares deed member).ordinary
    | attachAgent input => exact does_map.mpr (attachAgent_usual input)
    | launchAgent input => exact does_map.mpr (launchAgent_usual input)
    | runProcess starter => exact does_map.mpr (runProcess_usual starter)
    | advancePhase =>
      refine advancePhase_does.mono ?_
      rintro _ _ _ rfl
      exact List.forall_mem_nil _
    | clean => exact absurd request other
  exact usual_of_deeds fun deed member =>
    (does _ _ happens deed member).mono List.filter_sublist.subset

/-! ### Turns that clear away -/

/-- What clears a build away, but does not close the driver, is ordinary. -/
theorem ordinary_of_clears {deed : Deed} (clears : deed.question.ClearsAway)
    (stays : ∀ call, CallMade.ofAction deed = some call → call.question ≠ .close) :
    deed.question.Ordinary := by
  obtain ⟨action, answer⟩ := deed
  cases action with
  | log entry => trivial
  | engine call => exact stays ⟨call, answer⟩ rfl
  | _ => exact clears.elim

/-- What clears a build away and is no call is a report. -/
theorem log_of_clears {deed : Deed} (clears : deed.question.ClearsAway)
    (none : CallMade.ofAction deed = none) : ∃ entry, deed.question = .log entry := by
  obtain ⟨action, answer⟩ := deed
  cases action with
  | log entry => exact ⟨entry, rfl⟩
  | engine call => cases none
  | _ => exact clears.elim

theorem deed_of_call {deed : Deed} {c : Call} {answer : Except EngineError c.Value}
    (called : CallMade.ofAction deed = some ⟨c, answer⟩) : deed = ⟨.engine c, answer⟩ := by
  obtain ⟨action, given⟩ := deed
  cases action with
  | engine call =>
    obtain ⟨rfl, same⟩ := Exchange.mk.inj (Option.some.inj called)
    exact congrArg (Exchange.mk _) (eq_of_heq same)
  | _ => cases called

/-- **Clearing a build away is ordinary up to the call that closes the driver, and after that there
are only reports.** -/
theorem Turn.Happens.closes {turn : Turn} (happens : turn.Happens)
    (clean : turn.request = .clean) :
    ∃ removing answer reports, turn.trace = removing ++ ⟨.engine .close, answer⟩ :: reports ∧
      (∀ deed ∈ removing, deed.question.Ordinary) ∧
        ∀ deed ∈ reports, ∃ entry, deed.question = .log entry := by
  have cleaning : (Build.clean.runOn turn.before).Yields turn.trace (turn.result, turn.after) := by
    have yields := happens
    rwa [Turn.Happens, clean] at yields
  have clears := (clean_asks _).forall_mem cleaning
  obtain ⟨removals, answer, calls, stays⟩ := (clean_cleared _ _ _ cleaning).closes_last
  -- the calls come first in one part of the trace, and the other begins with the last of them
  obtain ⟨front, back, split, removing, closing⟩ := List.filterMap_eq_append_iff.mp calls
  obtain ⟨quiet, closer, reports, rfl, silent, closed, reported⟩ :=
    List.filterMap_eq_cons_iff.mp closing
  obtain rfl := deed_of_call closed
  rw [← List.append_assoc] at split
  rw [split] at clears ⊢
  obtain ⟨clears_before, clears_after⟩ := List.forall_mem_append.mp clears
  refine ⟨front ++ quiet, answer, reports, rfl, fun deed member => ?_, fun deed member => ?_⟩
  · refine ordinary_of_clears (clears_before deed member) fun call called => ?_
    obtain here | here := List.mem_append.mp member
    · exact stays call (removing ▸ List.mem_filterMap.mpr ⟨deed, here, called⟩)
    · cases called.symm.trans (silent deed here)
  · exact log_of_clears (clears_after deed (List.mem_cons_of_mem _ member))
      (List.filterMap_eq_nil_iff.mp reported deed member)

/-- Closing the driver runs nothing, and what follows is carried out without keys. -/
theorem relayed_close {answer : Except EngineError Unit} {asked : List HostExchange}
    {later : List Carried}
    (relayed : Program.Relayed Yard.perform (some (.byCommand driver))
      (⟨⟨.engine .close, answer⟩, asked⟩ :: later) last) :
    Program.Relayed Yard.perform
        (some (.byCommand { driver with endpoint := driver.endpoint.closed })) later last ∧
      ∀ exchange ∈ asked, exchange.question.RunsNothing := by
  cases relayed with
  | cons answered continued =>
    obtain rfl := Yard.perform_close _ _ answered
    exact ⟨continued, Yard.perform_close_asks.forall_mem answered⟩

/-- **Clearing a build away runs the program with the variables of the driver until it closes the
driver, and then runs nothing more.** -/
theorem Turn.Happens.clean_conducted {turn : Turn} (happens : turn.Happens)
    (clean : turn.request = .clean)
    (relayed : Program.Relayed Yard.perform (some (.byCommand driver)) log last)
    (traced : log.map (·.exchange) = turn.trace) :
    Conducted driver turn.request (log.flatMap (·.asked)) last := by
  obtain ⟨removing, answer, reports, split, ordinary, logs⟩ := happens.closes clean
  rw [split] at traced
  obtain ⟨front, back, rfl, rfl, traced_back⟩ := List.map_eq_append_iff.mp traced
  obtain ⟨⟨_, asked⟩, rest, rfl, rfl, rfl⟩ := List.map_eq_cons_iff.mp traced_back
  obtain ⟨middle, before, after⟩ := relayed.of_append
  obtain ⟨rfl, runs⟩ := relayed_runsWith before fun carried member =>
    .ordinary (ordinary _ (List.mem_map_of_mem member))
  obtain ⟨reported, nothing⟩ := relayed_close after
  obtain ⟨rfl, nothing_later⟩ := relayed_logs reported fun carried member =>
    logs _ (List.mem_map_of_mem member)
  rw [List.flatMap_append, List.flatMap_cons]
  exact .closed clean runs (List.forall_mem_append.mpr ⟨nothing, nothing_later⟩)

/-- **A turn that a driver by command line carries out.** -/
theorem Turn.Happens.conducted {turn : Turn} (happens : turn.Happens)
    (relayed : Program.Relayed Yard.perform (some (.byCommand driver)) log last)
    (traced : log.map (·.exchange) = turn.trace) :
    Conducted driver turn.request (log.flatMap (·.asked)) last := by
  by_cases clean : turn.request = .clean
  · exact happens.clean_conducted clean relayed traced
  · obtain ⟨rfl, runs⟩ := relayed_runsWith relayed fun carried member => by
      rw [traced]
      exact happens.usual clean _ (traced ▸ List.mem_map_of_mem member)
    exact .kept clean runs

/-! ## Runs -/

section Driven

variable {start build : Build} {turns : List Turn}

/-- No turn cleared the build away. -/
def Uncleared (turns : List Turn) : Prop :=
  ∀ turn ∈ turns, turn.request ≠ .clean

/-- **Until the first clearing the driver stays as it is, and the program is run with its
variables; after that no keys are left.** -/
theorem Driven.conducted
    (driven : Driven start (some (.byCommand driver)) turns log build last) :
    Uncleared turns ∧ last = some (.byCommand driver) ∧ (∀ exchange ∈ log.flatMap (·.asked),
        exchange.question.RunsWith driver.endpoint.environment) ∨
      ¬Uncleared turns ∧ ∃ closed : ByCommand, last = some (.byCommand closed) ∧
        closed.endpoint.keyDir = none := by
  -- a run takes turns at its end; what the driver is after the others decides about the last
  induction turns using List.reverseRecOn generalizing log build last with
  | nil =>
    obtain rfl := List.map_eq_nil_iff.mp driven.traces
    cases driven.carried with
    | nil => exact .inl ⟨List.forall_mem_nil _, rfl, List.forall_mem_nil _⟩
  | append_singleton turns turn ih =>
    obtain ⟨earlier, now, middle, rfl, before, happens, relayed, traced⟩ := driven.of_concat
    rw [Uncleared, List.forall_mem_append, List.forall_mem_singleton, List.flatMap_append]
    obtain ⟨uncleared, rfl, runs⟩ | ⟨cleared, closed, rfl, none⟩ := ih before
    · have conducted := happens.conducted relayed traced
      generalize now.flatMap (·.asked) = asked at conducted ⊢
      cases conducted with
      | kept other runs_now =>
        exact .inl ⟨⟨uncleared, other⟩, rfl, List.forall_mem_append.mpr ⟨runs, runs_now⟩⟩
      | closed clean => exact .inr ⟨fun both => both.2 clean, _, rfl, rfl⟩
    · have conducted := happens.conducted relayed traced
      refine .inr ⟨fun both => cleared both.1, ?_⟩
      generalize now.flatMap (·.asked) = asked at conducted
      cases conducted with
      | kept => exact ⟨closed, rfl, none⟩
      | closed => exact ⟨_, rfl, rfl⟩

end Driven

section Conducted

variable {request : Request} {asked : List HostExchange}

/-- **A turn is accompanied if the key material is stored before it**, also one that discards it. -/
theorem Conducted.accompanied {engine : EngineSettings} {past : List HostExchange} {dir : String}
    (conducted : Conducted driver request asked last)
    (keyed : Keyed engine past driver.endpoint dir) (first : AlwaysAccompanied engine past) :
    AlwaysAccompanied engine (past ++ asked) := by
  cases conducted with
  | kept _ runs => exact keyed.append_of_runsWith first runs
  | closed _ runs nothing =>
    rw [← List.append_assoc]
    exact (keyed.append_of_runsWith first runs).append_of_nothing nothing

/-- A turn whose driver has no keys tells no run of a directory. -/
theorem Conducted.certPaths_eq_nil (conducted : Conducted driver request asked last)
    (none : driver.endpoint.keyDir = none) : ∀ paths ∈ certPathsOf asked, paths = [] := by
  intro paths told_of
  obtain ⟨invocation, ran, rfl⟩ := List.mem_map.mp told_of
  obtain ⟨exchange, member, run⟩ := List.mem_filterMap.mp ran
  have told (runs : exchange.question.RunsWith driver.endpoint.environment) :
      invocation.certPaths = [] := by
    rw [certPaths_eq (runs.environment_eq run), none, Option.toList_none]
  cases conducted with
  | kept _ runs => exact told (runs exchange member)
  | closed _ runs nothing =>
    obtain here | here := List.mem_append.mp member
    · exact told (runs exchange here)
    · cases run.symm.trans (nothing exchange here)

end Conducted

theorem begin_asks (declared : ContainerSet) (session : Session) (settings : Settings) :
    Program.Asks Action.Ordinary (begin declared session settings) := by
  have version : Action.Ordinary (.engine .serverVersion) := by simp [Action.Ordinary]
  refine Work.asks_within (fun _ => trivial) ((Program.asks_question version).bind fun answer => ?_)
  cases answer with
  | ok version => exact (Work.asks_note fun _ => trivial).bind fun _ => Program.asks_pure
  | error cause => exact Program.asks_pure

/-- A build that begins runs the program with the variables of the driver, and leaves it. -/
theorem begin_conducted {declared : ContainerSet} {session : Session} {settings : Settings}
    {asked : List HostExchange} {result : Except ProvisionError Build}
    (begun : (Yard.carryOut (begin declared session settings) (some (.byCommand driver))).Yields
      asked (result, last)) :
    last = some (.byCommand driver) ∧
      ∀ exchange ∈ asked, exchange.question.RunsWith driver.endpoint.environment := by
  obtain ⟨log, relayed, yields, rfl⟩ := Program.yields_through_iff.mp begun
  refine relayed_runsWith relayed fun carried member => .ordinary ?_
  exact (begin_asks declared session settings).forall_mem yields _ (List.mem_map_of_mem member)

/-- **Key material accompanies the engine's program until the build is cleared away.** A driver by
command line that settings with key material connect stores it, and every run of the program is
told of the one directory that holds exactly the files that are configured: while the build begins,
whether or not it succeeds, and then in every turn up to the first that clears the build away and in
that one. Clearing away discards the keys, and no run in a later turn is told of any directory. -/
theorem accompanied_until_cleared {settings : Settings}
    (material : settings.engine.hasKeyMaterial = true) {connecting : List HostExchange}
    {way : Driver} (connected : (Driver.connect .cli settings).run.Yields connecting (.ok way))
    {declared : ContainerSet} {session : Session} {beginning : List HostExchange}
    {result : Except ProvisionError Build} {middle : Option Driver}
    (begun : (Yard.carryOut (begin declared session settings) (some way)).Yields beginning
      (result, middle)) :
    AlwaysAccompanied settings.engine (connecting ++ beginning) ∧
      ∀ start turns log build after turn now next last,
        Driven start middle turns log build after → Driven build after [turn] now next last →
          (Uncleared turns → AlwaysAccompanied settings.engine
            (connecting ++ beginning ++ (log ++ now).flatMap (·.asked))) ∧
          (¬Uncleared turns → ∀ paths ∈ certPathsOf (now.flatMap (·.asked)), paths = []) := by
  have connects := Driver.connect_keyed material connecting (.ok way) connected
  rw [Program.counted, List.filter_true] at connects
  obtain ⟨driver, dir, rfl, keyed⟩ := connects way rfl
  obtain ⟨rfl, runs⟩ := begin_conducted begun
  have silent : AlwaysAccompanied settings.engine connecting :=
    alwaysAccompanied_of_nothing ((Driver.connect_asks settings).forall_mem connected)
  have begins := keyed.append_of_runsWith silent runs
  refine ⟨begins, ?_⟩
  intro start turns log build after turn now next last driven taken
  obtain ⟨happens, relayed, traced⟩ := taken.of_singleton
  obtain ⟨uncleared, rfl, runs_before⟩ | ⟨cleared, closed, rfl, none⟩ := driven.conducted
  · refine ⟨fun _ => ?_, fun cleared => absurd uncleared cleared⟩
    have keyed_before := (keyed.after_runsWith runs).after_runsWith runs_before
    have before := (keyed.after_runsWith runs).append_of_runsWith begins runs_before
    rw [List.flatMap_append, ← List.append_assoc]
    exact (happens.conducted relayed traced).accompanied keyed_before before
  · refine ⟨fun uncleared => absurd uncleared cleared, fun _ => ?_⟩
    exact (happens.conducted relayed traced).certPaths_eq_nil none

/-! ## A vault -/

/-- A host that stores keys in one place, and whose engine's program always succeeds and names
everything alike. -/
def vault : (ask : Host.Ask) → Unit → ask.Answer × Unit
  | .storeKeys _, now => (.ok "/keys", now)
  | .discardKeys _, now => (.ok (), now)
  | .invoke _ _, now => (.ended (some 0) (Bytes.ofString "new") [], now)
  | ask, now => (Relay.answer ask .null, now)

/-- Settings with key material. -/
def withKeys : Settings :=
  { agentNotKept with
    engine := { tlsVerify := true, caPem := some "CA", certPem := some "CERT", keyPem := some "KEY" } }

/-- The driver by command line that has stored it. -/
def toVault : Driver :=
  .byCommand
    { program := "docker"
      endpoint := { tlsVerify := true, keyDir := some "/keys" }
      agent := withKeys.agent }

/-- What this host is asked for a task. -/
def askedOf {α : Type} (task : Host.Task α) : List HostExchange :=
  (task.record vault ()).1

/-- What it is asked to connect. -/
def connecting : List HostExchange :=
  askedOf (Driver.connect .cli withKeys).run

/-- What it is asked to begin a build. -/
def beginning : List HostExchange :=
  askedOf (Yard.carryOut (begin oneSidecar (.ofCarryOver {}) withKeys) (some toVault))

/-- Requests of a build that are carried out there. -/
def vaulted (requests : List Request) : List Turn × List Carried × Build × Option Driver :=
  drive vault requests (fresh oneSidecar withKeys {} ".") (some toVault) ()

theorem connecting_yields :
    (Driver.connect .cli withKeys).run.Yields connecting (.ok toVault) :=
  Program.yields_record vault _ ()

theorem beginning_yields :
    (Yard.carryOut (begin oneSidecar (.ofCarryOver {}) withKeys) (some toVault)).Yields beginning
      (.ok (fresh oneSidecar withKeys {} "."), some toVault) :=
  Program.yields_record vault _ ()

theorem driven_vaulted (requests : List Request) :
    Driven (fresh oneSidecar withKeys {} ".") (some toVault) (vaulted requests).1
      (vaulted requests).2.1 (vaulted requests).2.2.1 (vaulted requests).2.2.2 :=
  driven_drive vault requests _ _ ()


/-- One request more. -/
def vaultedNext (requests : List Request) (request : Request) :
    Turn × List Carried × Option Driver × Unit :=
  Turn.carriedOut vault request (vaulted requests).2.2.1 (vaulted requests).2.2.2 ()

/-- An agent that is prepared and cleared away with keys, and another one without: five runs of the
program are told of the keys, and the next two of none. -/
theorem accompanied_until_cleared_vault :
    (certPathsOf (connecting ++ beginning ++ ((vaulted [.prepareAgent]).2.1 ++
          (vaultedNext [.prepareAgent] .clean).2.1).flatMap (·.asked)) =
        [["/keys"], ["/keys"], ["/keys"], ["/keys"], ["/keys"]] ∧
      AlwaysAccompanied withKeys.engine (connecting ++ beginning ++
        ((vaulted [.prepareAgent]).2.1 ++
          (vaultedNext [.prepareAgent] .clean).2.1).flatMap (·.asked))) ∧
    certPathsOf ((vaultedNext [.prepareAgent, .clean] .prepareAgent).2.1.flatMap (·.asked)) =
        [[], []] ∧
      ∀ paths ∈ certPathsOf
        ((vaultedNext [.prepareAgent, .clean] .prepareAgent).2.1.flatMap (·.asked)),
          paths = [] := by
  have material : withKeys.engine.hasKeyMaterial = true := by decide
  have follows := (accompanied_until_cleared material connecting_yields beginning_yields).2
  have uncleared : Uncleared (vaulted [.prepareAgent]).1 := by
    intro turn member clean
    have requested : turn.request ∈ (vaulted [.prepareAgent]).1.map (·.request) :=
      List.mem_map_of_mem member
    rw [vaulted, drive_requests, clean] at requested
    cases List.mem_singleton.mp requested
  have cleared : ¬Uncleared (vaulted [.prepareAgent, .clean]).1 := by
    intro uncleared
    have requested : Request.clean ∈ (vaulted [.prepareAgent, .clean]).1.map (·.request) := by
      rw [vaulted, drive_requests]
      exact List.mem_cons_of_mem _ (List.mem_singleton_self _)
    obtain ⟨turn, member, clean⟩ := List.mem_map.mp requested
    exact uncleared turn member clean
  refine ⟨⟨by decide +kernel, ?_⟩, by decide +kernel, ?_⟩
  · exact (follows _ _ _ _ _ _ _ _ _ (driven_vaulted [.prepareAgent])
      (driven_carriedOut vault .clean _ _ ())).1 uncleared
  · exact (follows _ _ _ _ _ _ _ _ _ (driven_vaulted [.prepareAgent, .clean])
      (driven_carriedOut vault .prepareAgent _ _ ())).2 cleared

/-- **An agent that is prepared again after a clearing is prepared without keys.** The driver is
connected with key material and the build begins; it is prepared, cleared away and prepared again.
The runs of the program for the second agent are told of no directory. -/
theorem cleared_without_keys :
    (Driver.connect .cli withKeys).run.Yields connecting (.ok toVault) ∧
      (Yard.carryOut (begin oneSidecar (.ofCarryOver {}) withKeys) (some toVault)).Yields beginning
        (.ok (fresh oneSidecar withKeys {} "."), some toVault) ∧
      Driven (fresh oneSidecar withKeys {} ".") (some toVault)
        (vaulted [.prepareAgent, .clean, .prepareAgent]).1
        (vaulted [.prepareAgent, .clean, .prepareAgent]).2.1
        (vaulted [.prepareAgent, .clean, .prepareAgent]).2.2.1
        (vaulted [.prepareAgent, .clean, .prepareAgent]).2.2.2 ∧
      ¬AlwaysAccompanied withKeys.engine (connecting ++ beginning ++
        (vaulted [.prepareAgent, .clean, .prepareAgent]).2.1.flatMap (·.asked)) := by
  refine ⟨connecting_yields, beginning_yields, driven_vaulted _, fun always => ?_⟩
  refine always.nil_not_mem ?_
  have untold : [] ∈ certPathsOf (connecting ++ beginning ++
      (vaulted [.prepareAgent, .clean, .prepareAgent]).2.1.flatMap (·.asked)) := by
    decide +kernel
  exact untold

end Build

end BuildYard
