import BuildYard.Proofs.Build.Environment

/-!
# Key material

Key material that is configured is stored in a directory when a driver by
command line is connected (`Driver.connect_keyed`), and every run of the
engine's program is told of that directory. What a directory holds is told by
what the host was asked (`keysIn`). A run is accompanied if the directory that it
is told of holds exactly the files that are configured, each with its contents,
when it begins (`Accompanied`); runs with the variables of an endpoint are, as
long as its key material is stored (`Keyed.append_of_runsWith`).
-/

set_option autoImplicit false

namespace BuildYard

open Host.Ask (RunsNothing)

/-! ## Directories of keys -/

/-- What the directory `dir` holds after an exchange with the host: keys are stored in a new
directory, and discarded with it. -/
def keptIn (dir : String) (now : Option (List (String × String))) :
    HostExchange → Option (List (String × String))
  | ⟨.storeKeys files, .ok made⟩ => if made = dir then some files else now
  | ⟨.discardKeys gone, _⟩ => if gone = dir then none else now
  | _ => now

/-- The files that the directory `dir` holds after exchanges with the host, if it is there. -/
def keysIn (dir : String) (trace : List HostExchange) : Option (List (String × String)) :=
  trace.foldl (keptIn dir) none

theorem keptIn_of_runsWith {dir : String} {now : Option (List (String × String))}
    {environment : List (String × String)} {exchange : HostExchange}
    (runs : exchange.question.RunsWith environment) : keptIn dir now exchange = now := by
  obtain ⟨question, answer⟩ := exchange
  cases question with
  | storeKeys files => exact runs.elim
  | discardKeys gone => exact runs.elim
  | _ => rfl

/-- Runs of the engine's program leave the keys where they are. -/
theorem keysIn_append_of_runsWith {dir : String} {environment : List (String × String)}
    {trace more : List HostExchange}
    (runs : ∀ exchange ∈ more, exchange.question.RunsWith environment) :
    keysIn dir (trace ++ more) = keysIn dir trace := by
  rw [keysIn, List.foldl_append, ← keysIn]
  generalize keysIn dir trace = now
  induction more with
  | nil => rfl
  | cons exchange rest ih =>
    obtain ⟨here, later⟩ := List.forall_mem_cons.mp runs
    rw [List.foldl_cons, keptIn_of_runsWith here]
    exact ih later

/-! ## Key material -/

/-- A file of the key material that is configured, by its name and its contents. -/
def EngineSettings.HasPem (engine : EngineSettings) (name pem : String) : Prop :=
  name = "ca.pem" ∧ engine.caPem = some pem ∨ name = "cert.pem" ∧ engine.certPem = some pem ∨
    name = "key.pem" ∧ engine.keyPem = some pem

/-- Files that are exactly the key material that is configured. -/
structure IsMaterial (engine : EngineSettings) (files : List (String × String)) : Prop where
  once : (files.map (·.1)).Nodup
  mem_iff : ∀ name pem, (name, pem) ∈ files ↔ engine.HasPem name pem

theorem map_named_eq_some_iff {field name pem : String} {set : Option String} :
    set.map (field, ·) = some (name, pem) ↔ name = field ∧ set = some pem := by
  rw [Option.map_eq_some_iff]
  constructor
  · rintro ⟨_, rfl, ⟨⟩⟩
    exact ⟨rfl, rfl⟩
  · rintro ⟨rfl, rfl⟩
    exact ⟨pem, rfl, rfl⟩

theorem keyFiles_isMaterial (engine : EngineSettings) :
    IsMaterial engine (Endpoint.keyFiles engine) := by
  constructor
  · obtain ⟨host, tlsVerify, caPem, certPem, keyPem, dockerPath⟩ := engine
    cases caPem <;> cases certPem <;> cases keyPem <;> simp [Endpoint.keyFiles]
  · intro name pem
    simp only [Endpoint.keyFiles, List.mem_filterMap, List.mem_cons, List.not_mem_nil, or_false,
      exists_eq_or_imp, exists_eq_left, map_named_eq_some_iff, EngineSettings.HasPem]

/-- The directories with keys that a run of the engine's program is told of. -/
def Host.Invocation.certPaths (invocation : Host.Invocation) : List String :=
  (invocation.environment.filter (·.1 = "DOCKER_CERT_PATH")).map (·.2)

theorem certPaths_eq {endpoint : Endpoint} {invocation : Host.Invocation}
    (same : invocation.environment = endpoint.environment) :
    invocation.certPaths = endpoint.keyDir.toList := by
  obtain ⟨host, tlsVerify, keyDir⟩ := endpoint
  rw [Host.Invocation.certPaths, same]
  cases host <;> cases tlsVerify <;> cases keyDir <;> simp [Endpoint.environment]

/-- A run of the engine's program is told of one directory, which holds exactly the key material
that is configured, after what the host was asked `earlier`. -/
def Accompanied (engine : EngineSettings) (earlier : List HostExchange)
    (invocation : Host.Invocation) : Prop :=
  ∃ dir files, invocation.certPaths = [dir] ∧ keysIn dir earlier = some files ∧
    IsMaterial engine files

/-- Each run of the engine's program is accompanied when it begins. -/
def AlwaysAccompanied (engine : EngineSettings) (trace : List HostExchange) : Prop :=
  ∀ earlier exchange later, trace = earlier ++ exchange :: later →
    ∀ invocation, exchange.question.invocation? = some invocation →
      Accompanied engine earlier invocation

/-- The directories that each of the runs of the engine's program is told of, run by run. -/
def certPathsOf (trace : List HostExchange) : List (List String) :=
  (trace.filterMap fun exchange => exchange.question.invocation?).map (·.certPaths)

/-- A run that is told of no directory is not accompanied. -/
theorem AlwaysAccompanied.nil_not_mem {engine : EngineSettings} {trace : List HostExchange}
    (always : AlwaysAccompanied engine trace) : [] ∉ certPathsOf trace := by
  intro untold
  obtain ⟨invocation, ran, none⟩ := List.mem_map.mp untold
  obtain ⟨exchange, member, run⟩ := List.mem_filterMap.mp ran
  obtain ⟨earlier, later, split⟩ := List.append_of_mem member
  obtain ⟨dir, files, told, -⟩ := always earlier exchange later split invocation run
  cases none.symm.trans told

/-- An endpoint whose key material is stored in `dir`. -/
structure Keyed (engine : EngineSettings) (past : List HostExchange) (endpoint : Endpoint)
    (dir : String) : Prop where
  keyDir : endpoint.keyDir = some dir
  stored : keysIn dir past = some (Endpoint.keyFiles engine)

section Accompanied

variable {engine : EngineSettings} {trace more : List HostExchange}

/-- What goes on is accompanied if each of its runs is, after what came before. -/
theorem AlwaysAccompanied.append (first : AlwaysAccompanied engine trace)
    (next : ∀ earlier exchange later, more = earlier ++ exchange :: later →
      ∀ invocation, exchange.question.invocation? = some invocation →
        Accompanied engine (trace ++ earlier) invocation) :
    AlwaysAccompanied engine (trace ++ more) := by
  intro earlier exchange later split invocation run
  obtain ⟨rest, rfl, -⟩ | ⟨between, rfl, rfl⟩ := split_append split
  · exact first earlier exchange rest rfl invocation run
  · exact next between exchange later rfl invocation run

/-- Where nothing runs, nothing has to be accompanied. -/
theorem AlwaysAccompanied.append_of_nothing (first : AlwaysAccompanied engine trace)
    (nothing : ∀ exchange ∈ more, exchange.question.RunsNothing) :
    AlwaysAccompanied engine (trace ++ more) := by
  refine first.append fun earlier exchange later split invocation run => ?_
  have member : exchange ∈ more := split ▸ List.mem_append_right earlier List.mem_cons_self
  cases run.symm.trans (nothing exchange member)

theorem alwaysAccompanied_of_nothing
    (nothing : ∀ exchange ∈ trace, exchange.question.RunsNothing) :
    AlwaysAccompanied engine trace := by
  have none : AlwaysAccompanied engine [] := by
    intro earlier exchange later split
    simp at split
  exact none.append_of_nothing nothing

/-- **Runs with the variables of an endpoint are accompanied as long as its key material is
stored.** -/
theorem Keyed.append_of_runsWith {endpoint : Endpoint} {dir : String}
    (keyed : Keyed engine trace endpoint dir) (first : AlwaysAccompanied engine trace)
    (runs : ∀ exchange ∈ more, exchange.question.RunsWith endpoint.environment) :
    AlwaysAccompanied engine (trace ++ more) := by
  refine first.append fun earlier exchange later split invocation run => ?_
  obtain ⟨before, here, -⟩ : (∀ exchange ∈ earlier, exchange.question.RunsWith
      endpoint.environment) ∧ exchange.question.RunsWith endpoint.environment ∧ _ := by
    simpa only [split, List.forall_mem_append, List.forall_mem_cons] using runs
  refine ⟨dir, Endpoint.keyFiles engine, ?_, ?_, keyFiles_isMaterial engine⟩
  · rw [certPaths_eq (here.environment_eq run), keyed.keyDir, Option.toList_some]
  · rw [keysIn_append_of_runsWith before]
    exact keyed.stored

/-- Key material is still stored after such runs. -/
theorem Keyed.after_runsWith {endpoint : Endpoint} {dir : String}
    (keyed : Keyed engine trace endpoint dir)
    (runs : ∀ exchange ∈ more, exchange.question.RunsWith endpoint.environment) :
    Keyed engine (trace ++ more) endpoint dir where
  keyDir := keyed.keyDir
  stored := (keysIn_append_of_runsWith runs).trans keyed.stored

end Accompanied

/-! ## Connecting -/

/-- Whatever the host answers, `post` holds of the value that a task ends with and of all that
the host was asked. -/
abbrev Host.Tells {α : Type} (task : Host.Task α) (post : α → List HostExchange → Prop) : Prop :=
  Program.Ensures (fun _ => true) task post

namespace Endpoint

/-- What a failure of the system is told as changes nothing of what the host was asked. -/
theorem tells_ofSystem {α : Type} {task : Host.Task (Except IoError α)}
    {post : Except EngineError α → List HostExchange → Prop} :
    Host.Tells (ofSystem task).run post ↔
      Host.Tells task fun answer made => post (answer.mapError .io) made := by
  refine Program.ensures_lift_andThen.trans (Program.ensures_congr fun answer made => ?_)
  cases answer with
  | ok value => exact Program.ensures_ok.trans (by rw [List.append_nil]; exact Iff.rfl)
  | error cause => exact Program.ensures_throw.trans (by rw [List.append_nil]; exact Iff.rfl)

/-- An endpoint is opened by storing the key material that is configured. -/
theorem ofSettings_keyed {engine : EngineSettings} (material : engine.hasKeyMaterial = true) :
    Host.Tells (ofSettings engine).run fun result made =>
      ∀ endpoint, result = .ok endpoint → ∃ dir, Keyed engine made endpoint dir := by
  rw [ofSettings, if_pos material]
  refine Program.ensures_andThen.mpr (tells_ofSystem.mpr ?_)
  refine (Program.ensures_question rfl).mpr fun answer => ?_
  cases answer with
  | error cause => simp [Except.mapError]
  | ok dir =>
    refine Program.ensures_lift_andThen.mpr ((Program.ensures_question rfl).mpr fun _ => ?_)
    refine Program.ensures_ok.mpr ?_
    rintro _ ⟨⟩
    exact ⟨dir, rfl, if_pos rfl⟩

theorem ofSettings_asks (engine : EngineSettings) :
    Program.Asks RunsNothing (ofSettings engine).run := by
  have stores : Program.Asks RunsNothing (Host.ask (.storeKeys (keyFiles engine))) :=
    Program.asks_question rfl
  rw [ofSettings]
  split
  · refine Program.Asks.andThen ((Program.Asks.lift stores).andThen fun answer => ?_) fun dir => ?_
    · cases answer <;> exact Program.asks_pure
    · exact (Program.Asks.lift (Host.asks_note fun _ => rfl)).andThen fun _ => Program.asks_pure
  · exact Program.asks_pure

end Endpoint

/-- **Connecting by command line stores the key material that is configured.** -/
theorem Driver.connect_keyed {settings : Settings}
    (material : settings.engine.hasKeyMaterial = true) :
    Host.Tells (Driver.connect .cli settings).run fun result made =>
      ∀ driver, result = .ok driver → ∃ command dir, driver = .byCommand command ∧
        Keyed settings.engine made command.endpoint dir := by
  refine Program.ensures_lift_andThen.mpr ((Program.ensures_question rfl).mpr fun _ => ?_)
  refine Program.ensures_andThen.mpr ((Endpoint.ofSettings_keyed material).mono ?_)
  rintro (cause | endpoint) made keyed
  · simp
  · refine Program.ensures_ok.mpr ?_
    rintro _ ⟨⟩
    obtain ⟨dir, keyDir, stored⟩ := keyed endpoint rfl
    exact ⟨_, dir, rfl, keyDir, (List.append_nil made).symm ▸ stored⟩

/-- Connecting by command line runs nothing. -/
theorem Driver.connect_asks (settings : Settings) :
    Program.Asks RunsNothing (Driver.connect .cli settings).run := by
  refine (Program.Asks.lift (Host.asks_note fun _ => rfl)).andThen fun _ => ?_
  exact (Endpoint.ofSettings_asks settings.engine).andThen fun _ => Program.asks_pure

end BuildYard
