import BuildYard.Proofs.Build.Attempts
import BuildYard.Proofs.Build.Drives
import BuildYard.Relay

/-!
# Empty ids

An empty id identifies nothing: a container that has one cannot be looked for
or removed. No driver looks at the ids that it gets, so that the handles of a
build have ids exactly if the engine never names an empty one
(`identified_iff_named`). An engine whose program succeeds without a word when
it creates a container leaves the build with an agent that has none.
-/

set_option autoImplicit false

namespace BuildYard.Build

/-- No handle has an empty id that is stored after a turn or passed to a removal. -/
def Identified (turns : List Turn) : Prop :=
  (∀ turn ∈ turns, ∀ handle ∈ turn.after.session.handles, handle.id ≠ "") ∧
    ∀ handle ∈ removedBy (callsOf turns), handle.id ≠ ""

/-- No creation that succeeded was replied to with an empty id. -/
def RepliesIdentify (log : List Carried) : Prop :=
  ∀ carried ∈ log, ∀ call handle, CallMade.ofAction carried.exchange = some call →
    call.created = some handle → (requests carried.asked).head?.bind idNamed? ≠ some ""

section Identified

variable {declared : ContainerSet} {settings : Settings} {workspace : String} {turns : List Turn}
  {log : List Carried} {build : Build} {driver : Driver} {last : Option Driver}

/-- What holds of all ids that replies give holds of all ids created. -/
theorem Driven.repliesIdentify_iff {start : Build}
    (driven : Driven start (some driver) turns log build last)
    (remote : driver.kind?.isSome) :
    RepliesIdentify log ↔ ∀ handle ∈ createdBy (callsOf turns), handle.id ≠ "" := by
  have outside : Remote (some driver) := by
    rintro _ ⟨⟩
    exact remote
  rw [driven.callsOf_eq]
  constructor
  · intro identify handle created
    obtain ⟨call, made, creates⟩ := List.mem_filterMap.mp created
    obtain ⟨_, exchanged, called⟩ := List.mem_filterMap.mp made
    obtain ⟨carried, member, rfl⟩ := List.mem_map.mp exchanged
    intro empty
    refine identify carried member call handle called creates ?_
    rw [(driven.named outside member called).1 handle creates, empty]
  · intro nonempty carried member call handle called creates empty
    have created : handle ∈ createdBy (callsMade (log.map (·.exchange))) :=
      List.mem_filterMap.mpr
        ⟨call, List.mem_filterMap.mpr ⟨_, List.mem_map_of_mem member, called⟩, creates⟩
    have named := (driven.named outside member called).1 handle creates
    exact nonempty handle created (Option.some.inj (named.symm.trans empty))

/-- **The ids that a build knows are those that the engine names.** By the command line and by the
API alike, a container has the id that the reply to its creation names, and a volume the name;
only the name of a volume that the command line creates is never empty. In a build that begins
with nothing, no handle with an empty id is ever stored or passed to a removal exactly if no
creation was replied to with one. -/
theorem identified_iff_named (remote : driver.kind?.isSome) :
    (∀ call, Host.Ensures (driver.perform call) fun answer made =>
      NamedByReply ⟨call, answer.1⟩ made ∧
        (driver.kind? = some .cli →
          ∀ name, CallMade.createdVolume ⟨call, answer.1⟩ = some name → name ≠ "")) ∧
    ∀ declared settings workspace turns log build last,
      Driven (fresh declared settings {} workspace) (some driver) turns log build last →
        (Identified turns ↔ RepliesIdentify log) := by
  refine ⟨driver.perform_named remote, ?_⟩
  intro declared settings workspace turns log build last driven
  exact (driven.run.forall_handles_iff rfl).trans (driven.repliesIdentify_iff remote).symm

end Identified

/-! ## An engine that names nothing -/

/-- An engine's program that always succeeds; it names volumes `vol`, and all else `id`. -/
def docker (id : String) : (ask : Host.Ask) → Unit → ask.Answer × Unit
  | .invoke invocation _, now =>
    (.ended (some 0)
      (Bytes.ofString (if invocation.word? = some "volume" then "vol" else id)) [], now)
  | ask, now => (Relay.answer ask .null, now)

/-- The driver to this program. -/
def toDocker : Driver :=
  .byCommand { program := "docker", endpoint := {}, agent := agentNotKept.agent }

/-- Requests carried out by a program that names all containers `id`. -/
def dockered (id : String) (requests : List Request) :
    List Turn × List Carried × Build × Option Driver :=
  drive (docker id) requests (fresh oneSidecar agentNotKept {} ".") (some toDocker) ()

theorem driven_dockered (id : String) (requests : List Request) :
    Driven (fresh oneSidecar agentNotKept {} ".") (some toDocker) (dockered id requests).1
      (dockered id requests).2.1 (dockered id requests).2.2.1 (dockered id requests).2.2.2 :=
  driven_drive (docker id) requests _ _ ()

/-- A program that names what it creates: the agent has its id, and is removed by it. -/
theorem identified_iff_named_docker :
    toDocker.kind?.isSome ∧ Identified (dockered "c1" [.prepareAgent, .clean]).1 ∧
      RepliesIdentify (dockered "c1" [.prepareAgent, .clean]).2.1 := by
  have identified : Identified (dockered "c1" [.prepareAgent, .clean]).1 := by
    rw [Identified]
    decide +kernel
  have remote : toDocker.kind?.isSome := rfl
  have iff_replies := (identified_iff_named remote).2 _ _ _ _ _ _ _
    (driven_dockered "c1" [.prepareAgent, .clean])
  exact ⟨rfl, identified, iff_replies.mp identified⟩

/-- The agent of an engine's program that names it with an empty id. -/
def unnamed : Handle :=
  { image := agentNotKept.images.agent, id := "" }

/-- **An engine's program that succeeds without a word leaves an agent with an empty id.** Its
launch succeeds, the session stores it, and clearing away passes it to a removal. -/
theorem empty_id_stored_and_removed :
    Driven (fresh oneSidecar agentNotKept {} ".") (some toDocker)
        (dockered "" [.prepareAgent, .clean]).1 (dockered "" [.prepareAgent, .clean]).2.1
        (dockered "" [.prepareAgent, .clean]).2.2.1 (dockered "" [.prepareAgent, .clean]).2.2.2 ∧
      createdBy (callsOf (dockered "" [.prepareAgent, .clean]).1) = [unnamed] ∧
      (dockered "" [.prepareAgent, .clean]).1.map (·.after.session.handles) = [[unnamed], []] ∧
      removedBy (callsOf (dockered "" [.prepareAgent, .clean]).1) = [unnamed] :=
  ⟨driven_dockered "" _, by decide +kernel, by decide +kernel, by decide +kernel⟩

end BuildYard.Build
