import BuildYard.Proofs.Command.Clearance
import BuildYard.Proofs.Text.Bytes
import BuildYard.Proofs.Text.Json

/-!
# What a build leaves is taken over

The record of a build is JSON without numbers, so that its text reads back in
either layout (`CarryOver.read?_toJson`), whatever characters the names in it
have. A build writes it to a file, and the next one, which begins with what that
file says, has the same to leave as long as nothing happens (`carryOver_kept`).
-/

set_option autoImplicit false

namespace BuildYard

/-! ## As JSON -/

theorem Json.Plain.record {members : List (String × Json)}
    (each : ∀ member ∈ members, Json.Plain member.2) : Json.Plain (.record members) := by
  refine .object (fun member inside => ?_) fun member inside => ?_
  · obtain ⟨⟨name, value⟩, _, rfl⟩ := List.mem_map.mp inside
    exact ⟨name, rfl⟩
  · obtain ⟨pair, known, rfl⟩ := List.mem_map.mp inside
    exact each pair known

theorem Handle.toJson_plain (handle : Handle) : handle.toJson.Plain :=
  .record (List.forall_mem_cons.mpr ⟨.text _, List.forall_mem_singleton.mpr (.text _)⟩)

namespace CarryOver

theorem toJson_plain (left : CarryOver) : left.toJson.Plain := by
  obtain ⟨agent, volume⟩ := left
  refine .record (List.forall_mem_cons.mpr ⟨?_, List.forall_mem_singleton.mpr ?_⟩)
  · cases agent with
    | none => exact .null
    | some handle => exact handle.toJson_plain
  · cases volume with
    | none => exact .null
    | some name => exact .text name

/-- What a build leaves is read from its record. -/
theorem ofJson?_toJson (left : CarryOver) : ofJson? left.toJson = some left := by
  obtain ⟨agent, volume⟩ := left
  cases agent <;> cases volume <;> rfl

/-- **What a build leaves reads back**, from one line and from one field a line. -/
theorem read?_toJson (left : CarryOver) :
    read? left.toJson.compact = some left ∧ read? left.toJson.pretty = some left := by
  obtain ⟨compact, pretty⟩ := left.toJson_plain.read_back
  rw [read?, read?, compact, pretty]
  exact ⟨left.ofJson?_toJson, left.ofJson?_toJson⟩

end CarryOver

/-! ## As a file -/

namespace Command

/-- Files that hold what is written to them, beside an engine that holds nothing. -/
def keepsFiles (action : Action) (files : String → Option Bytes) :
    action.Answer × (String → Option Bytes) :=
  match action with
  | .present path => ((files path).isSome, files)
  | .readFile path => (((files path).map .ok).getD (.error .notFound), files)
  | .writeFile path text => (.ok (), Function.update files path (some (Bytes.ofString text)))
  | action => ((InMemory.answer action {}).1, files)

theorem run_bind {α β : Type} {σ : Type} (answer : (action : Action) → σ → action.Answer × σ)
    (work : Work α) (f : α → Work β) (state : σ) :
    (work >>= f).run answer state =
      (f (work.run answer state).1).run answer (work.run answer state).2 := by
  induction work generalizing state with
  | done value => rfl
  | ask question next ih => exact ih _ _

theorem readText_run {path text : String} {files : String → Option Bytes}
    (held : files path = some (Bytes.ofString text)) :
    (Work.readText path).run keepsFiles files = (.ok text, files) := by
  have told : keepsFiles (.readFile path) files = (.ok (Bytes.ofString text), files) := by
    rw [keepsFiles, held]
    rfl
  change Program.run keepsFiles (Program.ask (Action.readFile path) _) files = _
  rw [Program.run, told]
  simp only [Program.andThen, Bytes.text?_ofString]
  rfl

theorem attemptTo_run {ε α σ : Type} {answer : (action : Action) → σ → action.Answer × σ}
    {state after : σ} {tell : ε → List String} {work : Work (Except ε α)} {value : α}
    (came : work.run answer state = (.ok value, after)) (text : String) :
    (Duty.attemptTo text tell work).run.run answer state = (.ok value, after) := by
  rw [Duty.attemptTo, Duty.ofWork, ExceptT.run_bind, ExceptT.run_lift, bind_map_left, run_bind, came]
  rfl

theorem readLeft_run {path text : String} {left : CarryOver} {files : String → Option Bytes}
    (held : files path = some (Bytes.ofString text)) (read : CarryOver.read? text = some left) :
    ((readLeft path).run.run keepsFiles files).1 = .ok left := by
  have there : keepsFiles (.present path) files = (true, files) := by
    rw [keepsFiles, held]; rfl
  change (Program.run keepsFiles (Program.ask (Action.present path) _) files).1 = _
  rw [Program.run, there]
  change (Program.run keepsFiles
    ((Duty.attemptTo _ _ (Work.readText path)).run >>= _) files).1 = _
  rw [run_bind, attemptTo_run (readText_run held)]
  simp only [ExceptT.bindCont, read]
  rfl

theorem writeLeft_run (path : String) (left : CarryOver) (files : String → Option Bytes) :
    (writeLeft path left).run.run keepsFiles files =
      (.ok (), Function.update files path (some (Bytes.ofString left.toJson.pretty))) :=
  attemptTo_run rfl _

/-- **What one build leaves, the next one has.** Whichever of agent and volume are left, and whatever
characters their names have: the record of it reads back from its text on one line and from its text
with one field a line; a session that begins with it leaves the same; and what is written to the state
file is what the next build reads from there. -/
theorem carryOver_kept (left : CarryOver) :
    CarryOver.read? left.toJson.compact = some left ∧
    CarryOver.read? left.toJson.pretty = some left ∧
    (Session.ofCarryOver left).carryOver = left ∧
    ∀ path files,
      ((do writeLeft path left; readLeft path : Duty CarryOver).run.run keepsFiles files).1 =
        .ok left := by
  obtain ⟨compact, pretty⟩ := left.read?_toJson
  refine ⟨compact, pretty, rfl, fun path files => ?_⟩
  rw [ExceptT.run_bind, run_bind, writeLeft_run]
  exact readLeft_run (Function.update_self ..) pretty

/-- Quotes, backslashes, control characters and what lies beyond the first plane are kept too. -/
example :
    let left : CarryOver :=
      { agent := some { image := "a\"b\\\n", id := "\x00\x1f" }, volume := some "𝄞é" }
    CarryOver.read? left.toJson.pretty = some left := by
  decide +kernel

end Command

end BuildYard
