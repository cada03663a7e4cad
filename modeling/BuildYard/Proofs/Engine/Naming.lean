import BuildYard.Build.Yard
import BuildYard.Proofs.Build.Atomicity
import BuildYard.Proofs.Engine.Settlement

/-!
# Where ids and names come from

The id of a container is what the engine's reply to its creation names, whatever
that is, and so is the name of a volume. Only the name of a volume that the
command line creates is looked at, and an empty one refused
(`Driver.perform_named`).
-/

set_option autoImplicit false

namespace BuildYard

/-- The name of a volume that the reply to its creation names. -/
def volumeNamed? : HostExchange → Option String :=
  named? fun reply => (Replies.decoded Replies.volumeName? reply).toOption

/-- What a call created has the id or the name that the engine's reply gave it: the first reply,
which is the one to the creation. -/
def NamedByReply (call : CallMade) (made : List HostExchange) : Prop :=
  (∀ handle, call.created = some handle → made.head?.bind idNamed? = some handle.id) ∧
    ∀ name, call.createdVolume = some name → made.head?.bind volumeNamed? = some name

theorem CallMade.createdVolume_eq_some_iff {answer : Except EngineError String} {name : String} :
    CallMade.createdVolume ⟨.createVolume, answer⟩ = some name ↔ answer = .ok name := by
  cases answer with
  | error cause => exact iff_of_false nofun nofun
  | ok given =>
    exact ⟨fun same => congrArg Except.ok (Option.some.inj same),
      fun same => congrArg some (Except.ok.inj same)⟩

/-- A call that created nothing. -/
theorem namedByReply_of_none {call : CallMade} {made : List HostExchange}
    (created : call.created = none) (volume : call.createdVolume = none) :
    NamedByReply call made := by
  constructor
  · intro handle equal
    cases created.symm.trans equal
  · intro name equal
    cases volume.symm.trans equal

namespace Launch

/-- The call that a launch is, with its answer. -/
def Launching.answered : Launching → Except EngineError Handle → CallMade
  | .agent image volume, answer => ⟨.launchAgent image volume, answer⟩
  | .work image beside hints, answer => ⟨.launchWork image beside hints, answer⟩
  | .sidecar image beside hints, answer => ⟨.launchSidecar image beside hints, answer⟩

/-- A container that is ready has the id that the reply names. -/
theorem Settled.named {way : Way} {settings : AgentSettings} {launching : Launching}
    {result : Except EngineError Handle} {made : List HostExchange}
    (settled : Settled way settings launching result made) :
    NamedByReply (launching.answered result) made := by
  cases settled with
  | notCreated => cases launching <;> exact namedByReply_of_none rfl rfl
  | removed => cases launching <;> exact namedByReply_of_none rfl rfl
  | ready _ _ named =>
    constructor
    · intro handle created
      cases launching <;> exact Option.some.inj created ▸ named
    · cases launching <;> exact nofun

end Launch

/-! ## What the drivers create -/

theorem ByCommand.createVolume_named (driver : ByCommand) :
    Attempt.Ensures (driver.attempt .createVolume) fun answer made =>
      ∀ name, answer = .ok name → name ≠ "" ∧ made.head?.bind volumeNamed? = some name := by
  refine Program.ensures_andThen.mpr (ensures_run.mpr fun outcome => ?_)
  cases succeeded : driver.runResult "volume create" outcome with
  | error cause => exact nofun
  | ok name =>
    by_cases empty : name.isEmpty = true
    · simp only [if_pos empty]
      exact Program.ensures_throw.mpr nofun
    · simp only [if_neg empty]
      refine ensures_debug_andThen.mpr (Program.ensures_ok.mpr ?_)
      rintro _ ⟨⟩
      exact ⟨fun same => empty (same ▸ rfl), named?_of_runResult succeeded⟩

theorem ByCommand.attempt_named (driver : ByCommand) (call : Call) :
    Attempt.Ensures (driver.attempt call) fun answer made => NamedByReply ⟨call, answer⟩ made := by
  cases call with
  | launchAgent image volume =>
    exact (driver.settled (.agent image volume)).mono fun _ _ settled => settled.named
  | launchWork image beside hints =>
    exact (driver.settled (.work image beside hints)).mono fun _ _ settled => settled.named
  | launchSidecar image beside hints =>
    exact (driver.settled (.sidecar image beside hints)).mono fun _ _ settled => settled.named
  | createVolume =>
    refine driver.createVolume_named.mono fun answer made named => ⟨nofun, fun name created => ?_⟩
    exact (named name (CallMade.createdVolume_eq_some_iff.mp created)).2
  | _ => exact fun _ _ _ => namedByReply_of_none rfl rfl

/-- An empty name of a volume is refused. -/
theorem ByCommand.attempt_volume (driver : ByCommand) (call : Call) :
    Attempt.Ensures (driver.attempt call) fun answer _ =>
      ∀ name, CallMade.createdVolume ⟨call, answer⟩ = some name → name ≠ "" := by
  cases call with
  | createVolume =>
    refine driver.createVolume_named.mono fun answer made named name created => ?_
    exact (named name (CallMade.createdVolume_eq_some_iff.mp created)).1
  | _ => exact fun _ _ _ => nofun

theorem ByApi.createVolume_named (driver : ByApi) :
    Attempt.Ensures (driver.attempt .createVolume) fun answer made =>
      ∀ name, answer = .ok name → made.head?.bind volumeNamed? = some name := by
  refine Program.ensures_andThen.mpr (ensures_send.mpr fun reply => ?_)
  cases succeeded : resultOf (Replies.decoded Replies.volumeName?) reply with
  | error cause => exact nofun
  | ok name =>
    refine ensures_debug_andThen.mpr (Program.ensures_ok.mpr ?_)
    rintro _ ⟨⟩
    obtain ⟨reply, rfl, found⟩ := toOption_of_resultOf succeeded
    exact found

theorem ByApi.attempt_named (driver : ByApi) (call : Call) :
    Attempt.Ensures (driver.attempt call) fun answer made => NamedByReply ⟨call, answer⟩ made := by
  cases call with
  | launchAgent image volume =>
    exact (driver.settled (.agent image volume)).mono fun _ _ settled => settled.named
  | launchWork image beside hints =>
    exact (driver.settled (.work image beside hints)).mono fun _ _ settled => settled.named
  | launchSidecar image beside hints =>
    exact (driver.settled (.sidecar image beside hints)).mono fun _ _ settled => settled.named
  | createVolume =>
    refine driver.createVolume_named.mono fun answer made named => ⟨nofun, fun name created => ?_⟩
    exact named name (CallMade.createdVolume_eq_some_iff.mp created)
  | _ => exact fun _ _ _ => namedByReply_of_none rfl rfl

namespace Driver

variable {α : Type} {driver : Driver}

theorem ensures_spanned {part : Log.Part} {call : Call} {task : Host.Task α}
    {post : α → List HostExchange → Prop} :
    Host.Ensures (spanned part call task) post ↔ Host.Ensures task post := by
  cases call with
  | close => exact Iff.rfl
  | _ => exact Host.ensures_within

/-- A driver does not become one of another kind. -/
theorem perform_kind (remote : driver.kind?.isSome) (call : Call) :
    Host.Ensures (driver.perform call) fun answer _ => answer.2.kind? = driver.kind? := by
  cases driver with
  | byCommand driver => exact Program.ensures_bind.mpr fun _ _ _ => Program.ensures_pure.mpr rfl
  | byApi driver => exact Program.ensures_bind.mpr fun _ _ _ => Program.ensures_pure.mpr rfl
  | inMemory engine => cases remote

/-- **What a call to an engine creates is named by the engine's reply**, be that empty or not.
Only for a volume the command line sees to it that the name is not. -/
theorem perform_named (remote : driver.kind?.isSome) (call : Call) :
    Host.Ensures (driver.perform call) fun answer made =>
      NamedByReply ⟨call, answer.1⟩ made ∧
        (driver.kind? = some .cli →
          ∀ name, CallMade.createdVolume ⟨call, answer.1⟩ = some name → name ≠ "") := by
  cases driver with
  | byCommand driver =>
    refine Program.ensures_bind.mpr (ensures_spanned.mpr ?_)
    refine ((driver.attempt_named call).and (driver.attempt_volume call)).mono ?_
    rintro answer made ⟨named, nonempty⟩
    exact Program.ensures_pure.mpr ⟨(List.append_nil made).symm ▸ named, fun _ => nonempty⟩
  | byApi driver =>
    refine Program.ensures_bind.mpr (ensures_spanned.mpr ?_)
    refine (driver.attempt_named call).mono fun answer made named => ?_
    exact Program.ensures_pure.mpr ⟨(List.append_nil made).symm ▸ named, nofun⟩
  | inMemory engine => cases remote

end Driver

end BuildYard
