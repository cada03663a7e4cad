import BuildYard.Proofs.Engine.Ways
import BuildYard.Proofs.Text.Digits

/-!
# What requests ask an engine for

The engine can be asked by its command line and by its API. This module says
what a request in either form asks for, without looking at who made it: an
`Errand`, which is to create a container, to copy a file out of one or an
archive into one, to start or to remove one. The words of the command line are
flags, an image and a command; the body of a request to the API is a record.
Both describe the same thing, a `Blueprint` of a container.

`Shows` says of a question to the host and its answer which errand it was and
what came of it.
-/

set_option autoImplicit false

namespace BuildYard

/-! ## Records -/

namespace Json

/-- **A number that was written is read again.** -/
theorem int?_ofInt (n : Int) : (ofInt n).int? = some n := by
  rw [ofInt, Int.toString_eq_repr]
  cases n with
  | ofNat n =>
    have read := Text.nat?_repr n
    have written : (Int.ofNat n).repr = n.repr := rfl
    have unsigned (digits : List Char) : n.repr.toList ≠ '-' :: digits := by
      intro signed
      rw [signed, Text.nat?_minus] at read
      cases read
    rw [written, int?, read]
    · rfl
    · exact unsigned ['0']
    · exact unsigned
  | negSucc n =>
    have read := Text.nat?_repr (n + 1)
    have written : (Int.negSucc n).repr.toList = '-' :: (n + 1).repr.toList := by
      rw [show (Int.negSucc n).repr = "-" ++ (n + 1).repr from rfl, String.toList_append]
      rfl
    have positive : (n + 1).repr.toList ≠ ['0'] := by
      intro zero
      rw [zero] at read
      exact absurd (Option.some.inj read) (Nat.succ_ne_zero n).symm
    rw [written, int?, read]
    · rfl
    · exact positive

/-- The text of a member. -/
def textAt? (name : String) (value : Json) : Option String :=
  (value.member? name).bind text?

/-- The texts of a member, which may be missing. -/
def textsAt (name : String) (value : Json) : List String :=
  match value.member? name with
  | some (.array items) => items.filterMap text?
  | _ => []

/-- Whether a member says yes. -/
def flagAt (name : String) (value : Json) : Bool :=
  match value.member? name with
  | some (.bool flag) => flag
  | _ => false

theorem member?_record_nil (name : String) : (record []).member? name = none :=
  rfl

theorem member?_record_cons (name field : String) (value : Json) (members : List (String × Json)) :
    (record ((field, value) :: members)).member? name =
      if field = name then some value else (record members).member? name := by
  rw [record, List.map_cons, member?, List.find?_cons]
  by_cases same : field = name
  · rw [if_pos same, same, beq_self_eq_true]
    rfl
  · rw [if_neg same, beq_eq_false_iff_ne.mpr fun equal => same (Option.some.inj equal)]
    rfl

/-- Members in front that are not called so. -/
theorem member?_record_append {name : String} {front members : List (String × Json)}
    (unlike : ∀ member ∈ front, member.1 ≠ name) :
    (record (front ++ members)).member? name = (record members).member? name := by
  induction front with
  | nil => rfl
  | cons member front ih =>
    obtain ⟨here, later⟩ := List.forall_mem_cons.mp unlike
    rw [List.cons_append, member?_record_cons, if_neg here, ih later]

theorem textsAt_of_texts {name : String} {value : Json} (items : List String)
    (found : value.member? name = some (.array (items.map .text))) :
    value.textsAt name = items := by
  rw [textsAt, found]
  simp only [List.filterMap_map]
  exact List.filterMap_some

end Json

/-! ## Containers to be created -/

/-- What a container is to be, however that is asked for. -/
structure Blueprint where
  image : String
  /-- empty if it is the image's own -/
  command : List String := []
  /-- variables, each with its value behind an equals sign -/
  env : List String := []
  user : Option String := none
  workDir : Option String := none
  /-- mounts, in order -/
  binds : List String := []
  /-- the containers whose volumes are mounted too -/
  volumesFrom : List String := []
  network : Option String := none
  ipc : Option String := none
  /-- a limit in bytes -/
  memory : Option Int := none
  openInput : Bool := false
  /-- where its output is kept, if not where it is usually kept -/
  log : Option String := none
  deriving DecidableEq, Repr, Inhabited

namespace Blueprint

/-! ### In words -/

/-- Flags in front of an image. -/
inductive Flag where
  | interactive
  | logDriver (driver : String)
  | volumesFrom (container : String)
  | net (mode : String)
  | ipc (mode : String)
  /-- in the engine's notation -/
  | memory (limit : String)
  | mount (bind : String)
  | volume (bind : String)
  | env (setting : String)
  | workdir (dir : String)
  | user (name : String)
  deriving DecidableEq, Repr

/-- How a flag is written. -/
def Flag.words : Flag → List String
  | interactive => ["--interactive"]
  | logDriver driver => ["--log-driver=" ++ driver]
  | volumesFrom container => ["--volumes-from", container]
  | net mode => ["--net=" ++ mode]
  | ipc mode => ["--ipc=" ++ mode]
  | memory limit => ["-m", limit]
  | mount bind => ["-v", bind]
  | volume bind => ["--volume", bind]
  | env setting => ["--env", setting]
  | workdir dir => ["--workdir", dir]
  | user name => ["--user", name]

/-- What a flag says of a container. -/
def Flag.adds : Flag → Blueprint → Blueprint
  | interactive, blueprint => { blueprint with openInput := true }
  | logDriver driver, blueprint => { blueprint with log := some driver }
  | volumesFrom container, blueprint =>
    { blueprint with volumesFrom := blueprint.volumesFrom ++ [container] }
  | net mode, blueprint => { blueprint with network := some mode }
  | ipc mode, blueprint => { blueprint with ipc := some mode }
  | memory limit, blueprint => { blueprint with memory := MemoryLimit.parse? limit }
  | mount bind, blueprint | volume bind, blueprint =>
    { blueprint with binds := blueprint.binds ++ [bind] }
  | env setting, blueprint => { blueprint with env := blueprint.env ++ [setting] }
  | workdir dir, blueprint => { blueprint with workDir := some dir }
  | user name, blueprint => { blueprint with user := some name }

/-- What flags say of a container, one after another. -/
def withFlags (flags : List Flag) (blueprint : Blueprint) : Blueprint :=
  flags.foldl (fun blueprint flag => flag.adds blueprint) blueprint

/-- The words that create a container: flags, its image and its command. -/
def Says (words : List String) (blueprint : Blueprint) : Prop :=
  ∃ flags : List Flag,
    words = "create" :: (flags.flatMap Flag.words ++ blueprint.image :: blueprint.command) ∧
      withFlags flags { image := blueprint.image, command := blueprint.command } = blueprint

/-! ### As a record -/

/-- What the body of a request to create a container says. -/
def ofJson (body : Json) : Blueprint :=
  let host := (body.member? "HostConfig").getD .null
  { image := (body.textAt? "Image").getD ""
    command := body.textsAt "Cmd"
    env := body.textsAt "Env"
    user := body.textAt? "User"
    workDir := body.textAt? "WorkingDir"
    binds := host.textsAt "Binds"
    volumesFrom := host.textsAt "VolumesFrom"
    network := host.textAt? "NetworkMode"
    ipc := host.textAt? "IpcMode"
    memory := (host.member? "Memory").bind Json.int?
    openInput := body.flagAt "OpenStdin"
    log := (host.member? "LogConfig").bind (·.textAt? "Type") }

/-! ### Of a launch -/

/-- What a launch wants a container to be. -/
def ofCreation (creation : Launch.Creation) : Blueprint :=
  { image := creation.image
    command := creation.command
    env := (creation.tmpDir.map ("TMPDIR=" ++ ·)).toList
    user := creation.user
    workDir := creation.workDir
    binds := (creation.workspace.map fun (volume, root) => volume ++ ":" ++ root).toList ++
      (creation.shared.map (·.2.volumes)).getD []
    volumesFrom := (creation.shared.map (·.1.id)).toList
    network := creation.shared.map fun (beside, _) => "container:" ++ beside.id
    ipc := creation.shared.map fun (beside, _) => "container:" ++ beside.id
    memory := creation.shared.bind fun (_, hints) => hints.memory.bind MemoryLimit.parse?
    openInput := creation.interactive
    log := if creation.interactive then some "none" else none }

end Blueprint

/-! ## Errands -/

/-- Something to be done, by the engine or, where a file of the host is read, by the host. -/
inductive Errand where
  | create (blueprint : Blueprint)
  /-- the contents of a file inside a container -/
  | copyOut (id path : String)
  /-- unpacks an archive in a directory inside a container -/
  | copyIn (id dir : String) (archive : Bytes)
  | start (id : String)
  /-- whatever state the container is in -/
  | remove (id : String)
  /-- the contents of a file of the host -/
  | read (path : String)
  deriving DecidableEq, Repr, Inhabited

/-- What comes of an errand. -/
abbrev Errand.Value : Errand → Type
  | create _ => String
  | copyOut _ _ => Bytes
  | copyIn _ _ _ => Unit
  | start _ => Unit
  | remove _ => Unit
  | read _ => Bytes

/-- An errand and what came of it, or that nothing came of it. -/
abbrev Shown := Exchange Errand fun errand => Option errand.Value

/-- The words of a run of the engine's program, in front of which a host may stand. -/
def Host.Invocation.Says (invocation : Host.Invocation) (words : List String) : Prop :=
  invocation.arguments = words ∨ ∃ host, invocation.arguments = "-H" :: host :: words

/-- The errand that a question to the host is. -/
inductive Host.Ask.Means : Host.Ask → Errand → Prop where
  | wordsCreate {invocation : Invocation} {words : List String} {blueprint : Blueprint}
      (said : invocation.Says words) (creates : blueprint.Says words) :
      Means (.invoke invocation none) (.create blueprint)
  | bodyCreates (host : String) (body : Json) :
      Means (.send host
        { method := "POST", path := ApiPath.ofReference "/containers/create", body := .json body })
        (.create (.ofJson body))
  | wordsCopyOut {invocation : Invocation} {id path : String}
      (said : invocation.Says ["cp", id ++ ":" ++ path, "-"]) :
      Means (.invoke invocation none) (.copyOut id path)
  | pathCopiesOut (host id path : String) :
      Means (.send host
        { method := "GET", path := ApiPath.ofReference ("/containers/" ++ id ++ "/archive")
          query := [("path", path)] })
        (.copyOut id path)
  | wordsCopyIn {invocation : Invocation} {id dir : String} {archive : Bytes}
      (said : invocation.Says ["cp", "-", id ++ ":" ++ dir]) :
      Means (.invoke invocation (some archive)) (.copyIn id dir archive)
  | pathCopiesIn (host id dir : String) (archive : Bytes) :
      Means (.send host
        { method := "PUT", path := ApiPath.ofReference ("/containers/" ++ id ++ "/archive")
          query := [("path", dir)], body := .bytes archive })
        (.copyIn id dir archive)
  | wordsStart {invocation : Invocation} {id : String} (said : invocation.Says ["start", id]) :
      Means (.invoke invocation none) (.start id)
  | pathStarts (host id : String) :
      Means (.send host
        { method := "POST", path := ApiPath.ofReference ("/containers/" ++ id ++ "/start") })
        (.start id)
  | wordsRemove {invocation : Invocation} {id : String}
      (said : invocation.Says ["rm", "-f", id]) :
      Means (.invoke invocation none) (.remove id)
  | pathRemoves (host id : String) :
      Means (.send host
        { method := "DELETE", path := ApiPath.ofReference ("/containers/" ++ id)
          query := [("force", "true")] })
        (.remove id)
  | read (path : String) : Means (.read path) (.read path)

/-- What a request brought, if it was successful. -/
def brought? : HostExchange → Option Bytes
  | ⟨.invoke _ _, .ended code out _⟩ => if code == some 0 then some out else none
  | ⟨.send _ _, .ok reply⟩ => (Replies.accepted reply).toOption
  | _ => none

/-- What came of an errand, as far as the answer to the question tells. -/
def told? : (errand : Errand) → HostExchange → Option errand.Value
  | .create _, exchange => idNamed? exchange
  | .copyOut _ _, exchange =>
    (brought? exchange).bind fun archive => (Archive.firstFile archive).toOption
  | .copyIn _ _ _, exchange => (brought? exchange).map fun _ => ()
  | .start _, exchange => (brought? exchange).map fun _ => ()
  | .remove _, exchange => (brought? exchange).map fun _ => ()
  | .read _, ⟨.read _, answer⟩ => answer.toOption
  | .read _, _ => none

/-- A question to the host was an errand of which that came. -/
structure Shows (exchange : HostExchange) (shown : Shown) : Prop where
  means : exchange.question.Means shown.question
  told : shown.answer = told? shown.question exchange

end BuildYard
