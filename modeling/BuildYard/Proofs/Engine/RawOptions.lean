import BuildYard.Proofs.Engine.Settlement
import BuildYard.Proofs.Text.Words
import Mathlib.Tactic.Tauto

/-!
# Raw options by the command line and by the API

Raw options are for the engine's program: by the command line their words stand
among the arguments that create a container, and by the API there is nothing
they could become, so that hints with raw options are refused. Both drivers
mean to leave alone what says nothing, but they tell it differently. The command
line adds nothing for a text without words (`adds_nothing_iff`), and the API
accepts a text of blanks (`accepts_iff`); what it does not accept it refuses
before anything is asked for.

For texts of spaces, tabs and ends of lines that comes to the same, and for
texts with a word in them that is not all blanks. It does not for the others
(`raw_options_agree_iff`): by the API a carriage return is ignored that the
command line passes on, and a comment is refused for which the command line
adds nothing.
-/

set_option autoImplicit false

namespace BuildYard

open Launch (Creation Launching Plan Step)
open Text (isBlank)
open Text.Words (Idle isSeparator)

variable {hints : Hints} {beside : Handle} {creation : Creation} {launching : Launching}

/-! ## Hints and launches without raw options -/

namespace Hints

/-- Hints of which the raw options are left out. -/
def withoutRaw (hints : Hints) : Hints :=
  { hints with rawOptions := none }

/-- What raw options say; nothing if there are none. -/
def rawText (hints : Hints) : List Char :=
  (hints.rawOptions.getD "").toList

/-- Raw options that are all blanks, if there are any. -/
def Blank (hints : Hints) : Prop :=
  ∀ c ∈ hints.rawText, isBlank c = true

/-- Raw options that are all spaces, tabs and ends of lines, if there are any. -/
def Separating (hints : Hints) : Prop :=
  ∀ c ∈ hints.rawText, isSeparator c = true

/-- What only separates words is blank and has no words, and nothing else is and has none. -/
theorem separating_iff : hints.Separating ↔ hints.Blank ∧ Idle hints.rawText := by
  constructor
  · intro separating
    exact ⟨fun c member => Text.Words.isBlank_of_isSeparator (separating c member),
      Text.Words.idle_of_isSeparator separating⟩
  · rintro ⟨blank, idle⟩
    exact idle.isSeparator blank

theorem rawArgs?_eq_nil_iff : hints.rawArgs? = some [] ↔ Idle hints.rawText := by
  rw [rawArgs?, rawText]
  cases hints.rawOptions with
  | none => exact iff_of_true rfl .nil
  | some raw => exact Text.Words.split?_eq_nil_iff

/-- What is blank can be read. -/
theorem Blank.rawArgs? (blank : hints.Blank) : ∃ words, hints.rawArgs? = some words := by
  rw [Hints.rawArgs?]
  rw [Blank, rawText] at blank
  cases given : hints.rawOptions with
  | none => exact ⟨[], rfl⟩
  | some raw =>
    rw [given] at blank
    exact Option.isSome_iff_exists.mp (Text.Words.split?_isSome_of_blank blank)

theorem hasRawOptions_eq_false_iff : ByApi.hasRawOptions hints = false ↔ hints.Blank := by
  rw [ByApi.hasRawOptions, Blank, rawText]
  cases hints.rawOptions with
  | none => exact iff_of_true rfl (List.forall_mem_nil _)
  | some raw =>
    rw [Option.map_some, Option.getD_some, Option.getD_some, Bool.not_eq_false', List.isEmpty_iff]
    exact Text.strip_eq_nil_iff

end Hints

namespace Launch

/-- A creation of which the raw options are left out. -/
def Creation.withoutRaw (creation : Creation) : Creation :=
  { creation with shared := creation.shared.map fun (beside, hints) => (beside, hints.withoutRaw) }

namespace Launching

/-- A launch of which the raw options are left out. -/
def withoutRaw : Launching → Launching
  | agent image volume => agent image volume
  | work image beside hints => work image beside hints.withoutRaw
  | sidecar image beside hints => sidecar image beside hints.withoutRaw

/-- The launches with hints. -/
inductive With (hints : Hints) : Launching → Prop where
  | work (image : String) (beside : Handle) : With hints (work image beside hints)
  | sidecar (image : String) (beside : Handle) : With hints (sidecar image beside hints)

theorem creation_withoutRaw (settings : AgentSettings) :
    launching.withoutRaw.creation settings = (launching.creation settings).withoutRaw := by
  cases launching <;> rfl

theorem With.shared (settings : AgentSettings) (uses : launching.With hints) :
    ∃ beside, (launching.creation settings).shared = some (beside, hints) := by
  cases uses with
  | work image beside => exact ⟨beside, rfl⟩
  | sidecar image beside => exact ⟨beside, rfl⟩

end Launching

/-- A plan that begins with a creation goes on with the id, however its steps are taken. -/
theorem perform_create {α : Type} {step : (s : Step) → Host.Task s.Answer}
    (next : String → Plan α) :
    Plan.perform step (create creation >>= next) =
      ExceptT.mk (step (.create creation)) >>= fun id => (next id).perform step := by
  apply ExceptT.ext
  simp only [Plan.perform, create, take, ExceptT.run_bind, ExceptT.run_mk]
  change Prod.fst <$> Program.andThen _ _ = _
  rw [show Program.andThen = bind from rfl, bind_assoc, map_bind]
  refine bind_congr fun answer => ?_
  cases answer with
  | error cause => rfl
  | ok id => rfl

end Launch

/-! ## By the command line -/

namespace ByCommand

/-- Among the arguments that create a container none are there for the raw options. -/
def AddsNothing (hints : Hints) : Prop :=
  ∀ (settings : AgentSettings) (launching : Launching), launching.With hints →
    creationArguments? (launching.creation settings) =
      creationArguments? (launching.withoutRaw.creation settings)

/-- The arguments for what a container shares with an agent, raw options apart. -/
def sharedFront (beside : Handle) (hints : Hints) : List String :=
  ["--volumes-from", beside.id, "--net=container:" ++ beside.id,
    "--ipc=container:" ++ beside.id] ++
  ((hints.memory.map (["-m", ·])).getD []) ++ hints.volumes.flatMap (["-v", ·])

theorem sharedArguments?_eq (beside : Handle) (hints : Hints) :
    sharedArguments? (some (beside, hints)) = hints.rawArgs?.map (sharedFront beside hints ++ ·) :=
  rfl

theorem sharedArguments?_withoutRaw (beside : Handle) (hints : Hints) :
    sharedArguments? (some (beside, hints.withoutRaw)) = some (sharedFront beside hints) :=
  congrArg some (List.append_nil _)

/-- **The command line adds nothing exactly for a text without words.** -/
theorem adds_nothing_iff : AddsNothing hints ↔ hints.rawArgs? = some [] := by
  constructor
  · intro nothing
    have same := nothing default _ (.sidecar "" default)
    simp only [Launching.creation, Launching.withoutRaw, Launch.sidecarCreation,
      creationArguments?] at same
    rw [sharedArguments?_withoutRaw, sharedArguments?_eq] at same
    cases raw : hints.rawArgs? with
    | none => simp [raw] at same
    | some words => simpa [raw] using same
  · intro wordless settings launching uses
    obtain ⟨beside, shared⟩ := uses.shared settings
    rw [Launching.creation_withoutRaw, creationArguments?, creationArguments?, shared,
      Creation.withoutRaw, shared, Option.map_some, sharedArguments?_eq,
      sharedArguments?_withoutRaw, wordless, Option.map_some, List.append_nil]

end ByCommand

/-! ## By the API -/

namespace ByApi

/-- That there are raw options, as an error. -/
def rawRefusal : EngineError :=
  .config "raw engine options require the cli driver"

/-- Hints with which every launch is what it is without the raw options. -/
def Accepts (hints : Hints) : Prop :=
  ∀ (driver : ByApi) (launching : Launching), launching.With hints →
    driver.launch launching = driver.launch launching.withoutRaw

/-- Hints with which no launch asks for anything: that there are raw options is all it comes to. -/
def Refuses (hints : Hints) : Prop :=
  ∀ (driver : ByApi) (launching : Launching), launching.With hints →
    driver.launch launching = throw rawRefusal

/-- Raw options matter to a launch as far as they matter to its creation. -/
theorem launch_eq (driver : ByApi) (uses : launching.With hints) :
    ∃ next, driver.launch launching = driver.create (launching.creation driver.agent) >>= next ∧
      driver.launch launching.withoutRaw =
        driver.create (launching.withoutRaw.creation driver.agent) >>= next := by
  cases uses with
  | work image beside => exact ⟨_, Launch.perform_create _, Launch.perform_create _⟩
  | sidecar image beside => exact ⟨_, Launch.perform_create _, Launch.perform_create _⟩

theorem sharedConfig_of_said (said : hasRawOptions hints = true) :
    sharedConfig beside hints = .error rawRefusal := by
  rw [sharedConfig, if_pos said]
  rfl

theorem sharedConfig_of_blank (blank : hasRawOptions hints = false) :
    sharedConfig beside hints = sharedConfig beside hints.withoutRaw := by
  rw [sharedConfig, sharedConfig, if_neg (Bool.eq_false_iff.mp blank)]
  rfl

theorem creationBody_of_error {cause : EngineError} (shared : creation.shared = some (beside, hints))
    (failed : sharedConfig beside hints = .error cause) : creationBody creation = .error cause := by
  simp only [creationBody, hostConfig, shared, failed]
  rfl

theorem create_of_error {driver : ByApi} {cause : EngineError}
    (failed : creationBody creation = .error cause) : driver.create creation = throw cause := by
  rw [create, failed]
  rfl

/-- What raw options say is refused before anything is asked for. -/
theorem refuses_of_said (said : hasRawOptions hints = true) : Refuses hints := by
  intro driver launching uses
  obtain ⟨next, launch, -⟩ := launch_eq driver uses
  obtain ⟨beside, shared⟩ := uses.shared driver.agent
  rw [launch, create_of_error (creationBody_of_error shared (sharedConfig_of_said said))]
  rfl

/-- What is blank is left alone. -/
theorem accepts_of_blank (blank : hasRawOptions hints = false) : Accepts hints := by
  intro driver launching uses
  obtain ⟨next, launch, launchWithout⟩ := launch_eq driver uses
  obtain ⟨beside, shared⟩ := uses.shared driver.agent
  have body : creationBody (launching.creation driver.agent) =
      creationBody (launching.withoutRaw.creation driver.agent) := by
    simp only [Launching.creation_withoutRaw, creationBody, hostConfig, Creation.withoutRaw, shared,
      Option.map_some, sharedConfig_of_blank blank]
  rw [launch, launchWithout, create, create, body]

/-- What is wrong with a memory limit is not that there are raw options. -/
theorem memoryOf_ne_error :
    memoryOf hints ≠ .error rawRefusal := by
  rw [memoryOf]
  split
  · intro same
    cases same
  · split
    · intro same
      cases same
    · intro same
      have texts := congrArg String.toList (EngineError.config.inj (Except.error.inj same))
      simp at texts

theorem sharedConfig_withoutRaw (beside : Handle) (hints : Hints) :
    sharedConfig beside hints.withoutRaw =
      memoryOf hints >>= fun memory => pure
        ((memory.map fun bytes => ("Memory", Json.ofInt bytes)).toList ++
          (if hints.volumes.isEmpty then [] else [("Binds", texts hints.volumes)]) ++
          [("NetworkMode", .text ("container:" ++ beside.id)), ("VolumesFrom", texts [beside.id]),
            ("IpcMode", .text ("container:" ++ beside.id))]) :=
  rfl

/-- A launch without raw options is not refused for raw options. -/
theorem Accepts.not_refuses (accepts : Accepts hints) : ¬ Refuses hints := by
  intro refuses
  have uses : (Launching.sidecar "" default hints).With hints := .sidecar "" default
  obtain ⟨next, -, launch⟩ := launch_eq default uses
  have refused := launch.symm.trans ((accepts _ _ uses).symm.trans (refuses _ _ uses))
  have config := sharedConfig_withoutRaw default hints
  cases limit : memoryOf hints with
  | error cause =>
    rw [limit] at config
    rw [create_of_error (creationBody_of_error rfl config)] at refused
    have ended : (Program.done (.error cause) : Host.Task (Except EngineError Handle)) =
      .done (.error rawRefusal) := refused
    cases ended
    exact memoryOf_ne_error limit
  | ok memory =>
    -- the creation can be written, so that the launch asks for something
    obtain ⟨body, written⟩ : ∃ body, creationBody ((Launching.sidecar "" default
        hints).withoutRaw.creation (default : ByApi).agent) = .ok body := by
      simp only [creationBody, hostConfig, Launching.creation, Launching.withoutRaw,
        Launch.sidecarCreation, config, limit]
      exact ⟨_, rfl⟩
    rw [create, written] at refused
    cases refused

/-- **The API accepts what is blank**, and refuses all else. -/
theorem accepts_iff (hints : Hints) :
    (Accepts hints ↔ hints.Blank) ∧ (Refuses hints ↔ ¬ hints.Blank) := by
  rw [← Hints.hasRawOptions_eq_false_iff]
  cases raw : hasRawOptions hints with
  | false =>
    have accepts := accepts_of_blank raw
    exact ⟨iff_of_true accepts rfl, iff_of_false accepts.not_refuses (not_not_intro rfl)⟩
  | true =>
    have refuses := refuses_of_said raw
    exact ⟨iff_of_false (fun accepts => accepts.not_refuses refuses) nofun, iff_of_true refuses nofun⟩

end ByApi

/-! ## Both -/

/-- **When the drivers agree on raw options.** The API ignores or refuses them. It ignores what the
command line passes on exactly if that is blank and not all spaces, tabs and ends of lines. It
refuses what the command line adds nothing for exactly if there is no word in it and it is not all
blanks. So the drivers agree exactly on spaces, tabs and ends of lines, and on what is not all
blanks and has a word or an open quotation. -/
theorem raw_options_agree_iff (hints : Hints) :
    (ByApi.Accepts hints ∨ ByApi.Refuses hints) ∧
      (hints.rawArgs? = some [] ↔ ByCommand.AddsNothing hints) ∧
      ((ByApi.Accepts hints ∧ ∃ words, hints.rawArgs? = some words ∧ words ≠ []) ↔
        hints.Blank ∧ ¬ hints.Separating) ∧
      (ByApi.Refuses hints ∧ hints.rawArgs? = some [] ↔ ¬ hints.Blank ∧ Idle hints.rawText) ∧
      ((ByApi.Accepts hints ↔ hints.rawArgs? = some []) ↔
        hints.Separating ∨ ¬ hints.Blank ∧ ¬ Idle hints.rawText) := by
  obtain ⟨accepts, refuses⟩ := ByApi.accepts_iff hints
  have wordless : hints.rawArgs? = some [] ↔ Idle hints.rawText := Hints.rawArgs?_eq_nil_iff
  have separating : hints.Separating ↔ _ := Hints.separating_iff
  rw [ByCommand.adds_nothing_iff, accepts, refuses]
  refine ⟨em _, Iff.rfl, and_congr_right fun blank => ?_, and_congr_right fun _ => wordless, ?_⟩
  · obtain ⟨words, read⟩ := blank.rawArgs?
    rw [separating, and_iff_right blank, ← wordless, read]
    simp
  · rw [wordless, separating]
    tauto

/-- Hints with the raw options of an empty line as some systems write it. -/
def carriageReturn : Hints :=
  { rawOptions := some "\r\n" }

/-- A carriage return is an argument by the command line, and by the API it is ignored. -/
theorem raw_options_agree_carriageReturn :
    ByApi.Accepts carriageReturn ∧ carriageReturn.rawArgs? = some ["\r"] ∧
      ¬ (ByApi.Accepts carriageReturn ↔ carriageReturn.rawArgs? = some []) := by
  have text : carriageReturn.rawText = ['\r', '\n'] := by decide +kernel
  have accepts : ByApi.Accepts carriageReturn := by
    rw [(ByApi.accepts_iff _).1, Hints.Blank, text]
    exact List.forall_mem_cons.mpr ⟨by decide, List.forall_mem_singleton.mpr (by decide)⟩
  have words : carriageReturn.rawArgs? = some ["\r"] := by decide +kernel
  refine ⟨accepts, words, fun agree => ?_⟩
  have none := agree.mp accepts
  rw [words] at none
  cases none

end BuildYard
