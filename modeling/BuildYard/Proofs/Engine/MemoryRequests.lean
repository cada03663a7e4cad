import BuildYard.Proofs.Engine.Injection
import BuildYard.Proofs.Engine.RawOptions
import BuildYard.Proofs.Engine.Translations
import BuildYard.Proofs.Text.Limits

/-!
# The memory that the API is asked for

Before a launch beside an agent asks for anything, its hints have to be
understood: raw options are refused, and so is a limit of memory that cannot be
read (`Refusal`). If they are understood, the first request creates the
container, with the number that was read for the limit or without a limit, and
no later one creates another (`ByApi.launch_requested`).

A limit is a number of bytes, but a text is read that has a minus sign in front
of it. So a launch keeps to limits that are not negative exactly if its hints
are refused or the limit among them is not written so (`limits_kept_iff`).
-/

set_option autoImplicit false

namespace BuildYard

open Launch (Creation Launching Settled)

variable {hints : Hints} {launching : Launching} {driver : ByApi} {limit : Option Int}

theorem Launch.SettingUp.not_create {made : List HostExchange} {request : HostExchange}
    (settingUp : Launch.SettingUp made) (member : request ∈ made) :
    request.question.verb? ≠ some .create := by
  rcases settingUp request member with copy | start
  · rw [copy]
    nofun
  · rw [start]
    nofun

namespace Hints

/-- What is wrong with hints, as an error. -/
inductive Refusal (hints : Hints) : EngineError → Prop where
  /-- There are raw options. -/
  | raw (said : ¬ hints.Blank) : Refusal hints ByApi.rawRefusal
  /-- The limit cannot be read. -/
  | memory {text : String} (blank : hints.Blank) (given : hints.memory = some text)
      (unread : MemoryLimit.parse? text = none) :
      Refusal hints (.config ("invalid memory limit '" ++ text ++ "'"))

/-- That the limit, if there is one, is read as this number. -/
def Limits (hints : Hints) (limit : Option Int) : Prop :=
  hints.memory.map MemoryLimit.parse? = limit.map some

instance (hints : Hints) (limit : Option Int) : Decidable (hints.Limits limit) :=
  inferInstanceAs (Decidable (_ = _))

/-- That the limit is read as a negative number. -/
def Negative (hints : Hints) : Prop :=
  ∃ bytes, hints.Limits (some bytes) ∧ bytes < 0

theorem Limits.read (limits : hints.Limits limit) :
    hints.memory.bind MemoryLimit.parse? = limit := by
  rw [Limits] at limits
  cases given : hints.memory with
  | none =>
    rw [given] at limits
    exact (Option.map_eq_none_iff.mp limits.symm).symm
  | some text =>
    rw [given] at limits
    obtain ⟨bytes, rfl, read⟩ := Option.map_eq_some_iff.mp limits.symm
    exact read.symm

theorem Limits.isSome {text : String} (limits : hints.Limits limit)
    (given : hints.memory = some text) : (MemoryLimit.parse? text).isSome = true := by
  rw [Limits, given, Option.map_some] at limits
  obtain ⟨bytes, -, read⟩ := Option.map_eq_some_iff.mp limits.symm
  exact Option.isSome_iff_exists.mpr ⟨bytes, read.symm⟩

/-- Hints are refused or understood. -/
theorem refused_or_limits (hints : Hints) :
    (∃ cause, hints.Refusal cause) ∨ hints.Blank ∧ ∃ limit, hints.Limits limit := by
  by_cases blank : hints.Blank
  · cases given : hints.memory with
    | none => exact .inr ⟨blank, none, by rw [Limits, given]; rfl⟩
    | some text =>
      cases read : MemoryLimit.parse? text with
      | none => exact .inl ⟨_, .memory blank given read⟩
      | some bytes =>
        exact .inr ⟨blank, some bytes, by rw [Limits, given]; exact congrArg some read⟩
  · exact .inl ⟨_, .raw blank⟩

theorem Refusal.not_limits {cause : EngineError} (refusal : hints.Refusal cause)
    (blank : hints.Blank) : ¬ hints.Limits limit := by
  cases refusal with
  | raw said => exact absurd blank said
  | memory _ given unread =>
    rw [Limits, given, Option.map_some, unread]
    cases limit <;> nofun

end Hints

namespace ByApi

/-! ## Requests for containers -/

theorem sharedConfig_of_refusal {cause : EngineError} (refusal : hints.Refusal cause)
    (beside : Handle) : sharedConfig beside hints = .error cause := by
  cases refusal with
  | raw said =>
    exact sharedConfig_of_said (Bool.not_eq_false _ ▸ mt Hints.hasRawOptions_eq_false_iff.mp said)
  | memory blank given unread =>
    rw [sharedConfig_of_blank (Hints.hasRawOptions_eq_false_iff.mpr blank), sharedConfig_withoutRaw,
      memoryOf, given]
    simp only [unread]
    rfl

theorem sharedConfig_of_limits (blank : hints.Blank) (limits : hints.Limits limit)
    (beside : Handle) : sharedConfig beside hints = .ok (sharedMembers beside hints) := by
  have plain : hints.withoutRaw.Plain :=
    Hints.plain_of_rawOptions_eq_none rfl fun text given => limits.isSome given
  rw [sharedConfig_of_blank (Hints.hasRawOptions_eq_false_iff.mpr blank)]
  exact sharedConfig_of_plain plain beside

/-- A creation with hints that are understood can be written, with the limit that was read. -/
theorem creationBody_of_limits (settings : AgentSettings) (uses : launching.With hints)
    (blank : hints.Blank) (limits : hints.Limits limit) :
    ∃ body host, creationBody (launching.creation settings) = .ok body ∧
      body.member? "HostConfig" = some host ∧ host.member? "Memory" = limit.map Json.ofInt := by
  have config := sharedConfig_of_limits blank limits
  have told (beside : Handle) : (Json.record (sharedMembers beside hints)).member? "Memory" =
      limit.map Json.ofInt := by
    rw [member?_memory_sharedMembers, limits.read]
  cases uses with
  | work image beside =>
    simp only [creationBody, hostConfig, Launching.creation, Launch.workCreation, config]
    exact ⟨_, _, rfl, rfl, told beside⟩
  | sidecar image beside =>
    simp only [creationBody, hostConfig, Launching.creation, Launch.sidecarCreation, config]
    exact ⟨_, _, rfl, rfl, told beside⟩

/-- A request that creates a container with this limit of memory, or without one. -/
def AsksFor (driver : ByApi) (limit : Option Int) (ask : Host.Ask) : Prop :=
  ∃ body host, ask = .send driver.address (request "POST" "/containers/create" [] (.json body)) ∧
    body.member? "HostConfig" = some host ∧ host.member? "Memory" = limit.map Json.ofInt

theorem AsksFor.unique {limit' : Option Int} {ask : Host.Ask} (first : driver.AsksFor limit ask)
    (second : driver.AsksFor limit' ask) : limit = limit' := by
  obtain ⟨body, host, rfl, found, told⟩ := first
  obtain ⟨_, host', same, found', told'⟩ := second
  cases same
  obtain rfl := Option.some.inj (found.symm.trans found')
  have injective : Function.Injective Json.ofInt := fun n m same =>
    Option.some.inj ((Json.int?_ofInt n).symm.trans ((congrArg Json.int? same).trans
      (Json.int?_ofInt m)))
  exact Option.map_injective injective (told.symm.trans told')

/-! ## Launches -/

/-- What a launch with hints comes to and asks for. -/
inductive Requested (driver : ByApi) (hints : Hints) :
    Except EngineError Handle → List HostExchange → Prop where
  /-- The hints are refused, and nothing is asked for. -/
  | refused {cause : EngineError} (refusal : hints.Refusal cause) :
      Requested driver hints (.error cause) []
  /-- A container is asked for, with the limit that was read, and never another. -/
  | asked {result : Except EngineError Handle} {first : HostExchange} {rest : List HostExchange}
      {limit : Option Int} (blank : hints.Blank) (limits : hints.Limits limit)
      (asks : driver.AsksFor limit first.question)
      (later : ∀ request ∈ rest, request.question.verb? ≠ some .create) :
      Requested driver hints result (first :: rest)

/-- **Every launch with hints asks for what was read in them**, or is refused for them. -/
theorem launch_requested (driver : ByApi) (uses : launching.With hints) :
    (driver.launch launching).Ensures (driver.Requested hints) := by
  rcases hints.refused_or_limits with ⟨cause, refusal⟩ | ⟨blank, limit, limits⟩
  · obtain ⟨next, launch, -⟩ := launch_eq driver uses
    obtain ⟨beside, shared⟩ := uses.shared driver.agent
    have failed := creationBody_of_error shared (sharedConfig_of_refusal refusal beside)
    rw [launch, create_of_error failed]
    exact Program.ensures_throw.mpr (.refused refusal)
  · obtain ⟨body, host, written, found, told⟩ :=
      creationBody_of_limits driver.agent uses blank limits
    have creation : driver.way.creation? (launching.creation driver.agent) =
        some (.send driver.address (request "POST" "/containers/create" [] (.json body))) :=
      congrArg (fun written : Except EngineError Json => written.toOption.map fun body =>
        Host.Ask.send driver.address (request "POST" "/containers/create" [] (.json body))) written
    have asks {first : HostExchange}
        (only : [first.question] =
          (driver.way.creation? (launching.creation driver.agent)).toList) :
        driver.AsksFor limit first.question := by
      rw [creation] at only
      exact ⟨body, host, (List.cons.inj only).1, found, told⟩
    refine (driver.settled launching).mono fun result made settled => ?_
    cases settled with
    | notCreated _ only =>
      rw [creation] at only
      obtain ⟨first, rfl, -⟩ := List.map_eq_singleton_iff.mp only
      exact .asked blank limits (asks (creation ▸ only)) (List.forall_mem_nil _)
    | removed created _ _ _ _ settingUp _ removes =>
      refine .asked blank limits (asks created.asked) (List.forall_mem_append.mpr ⟨?_, ?_⟩)
      · exact fun request member => settingUp.not_create member
      · refine List.forall_mem_singleton.mpr ?_
        rw [removes, driver.way.verb (.discard _) _ rfl]
        nofun
    | ready created _ _ _ _ settingUp =>
      exact .asked blank limits (asks created.asked) fun request member =>
        settingUp.not_create member

/-- What a launch comes to and asks for that never asks for a limit below zero. -/
inductive Kept (driver : ByApi) (hints : Hints) :
    Except EngineError Handle → List HostExchange → Prop where
  /-- The hints are refused, and nothing is asked for. -/
  | refused (text : String) : Kept driver hints (.error (.config text)) []
  /-- There is no limit, and one container is asked for without one. -/
  | unlimited {result : Except EngineError Handle} {first : HostExchange}
      {rest : List HostExchange} (given : hints.memory = none)
      (asks : driver.AsksFor none first.question)
      (later : ∀ request ∈ rest, request.question.verb? ≠ some .create) :
      Kept driver hints result (first :: rest)
  /-- One container is asked for, with a limit that is not negative. -/
  | limited {result : Except EngineError Handle} {first : HostExchange}
      {rest : List HostExchange} {bytes : Int} (nonneg : 0 ≤ bytes)
      (asks : driver.AsksFor (some bytes) first.question)
      (later : ∀ request ∈ rest, request.question.verb? ≠ some .create) :
      Kept driver hints result (first :: rest)

theorem Requested.kept {result : Except EngineError Handle} {made : List HostExchange}
    (requested : driver.Requested hints result made)
    (nonneg : ¬ (hints.Blank ∧ hints.Negative)) : driver.Kept hints result made := by
  cases requested with
  | refused refusal =>
    cases refusal with
    | raw => exact .refused _
    | memory => exact .refused _
  | @asked _ _ _ limit blank limits asks later =>
    cases limit with
    | none => exact .unlimited (Option.map_eq_none_iff.mp limits) asks later
    | some bytes =>
      exact .limited (Int.not_lt.mp fun below => nonneg ⟨blank, bytes, limits, below⟩) asks later

theorem Kept.not_negative {result : Except EngineError Handle} {made : List HostExchange}
    (kept : driver.Kept hints result made) (requested : driver.Requested hints result made) :
    ¬ (hints.Blank ∧ hints.Negative) := by
  rintro ⟨blank, bytes, limits, below⟩
  cases requested with
  | refused refusal => exact refusal.not_limits blank limits
  | asked _ limits' asks =>
    have read := limits.read.symm.trans limits'.read
    cases kept with
    | unlimited _ asks' => cases read.trans (asks.unique asks')
    | limited nonneg asks' =>
      cases read.trans (asks.unique asks')
      exact Int.not_lt.mpr nonneg below

/-- What is asked for is kept from being negative by what the hints say, whatever is answered. -/
theorem ensures_kept_iff (driver : ByApi) (uses : launching.With hints) :
    (driver.launch launching).Ensures (driver.Kept hints) ↔ ¬ (hints.Blank ∧ hints.Negative) := by
  have requested := driver.launch_requested uses
  constructor
  · intro kept
    obtain ⟨trace, result, run⟩ : ∃ trace result, (driver.launch launching).run.Yields trace result :=
      ⟨_, _, Program.yields_record (fun ask (state : Unit) => (Relay.answer ask .null, state)) _ ()⟩
    exact (kept trace result run).not_negative (requested trace result run)
  · exact fun nonneg => requested.mono fun result made requested => requested.kept nonneg

end ByApi

/-! ## Every text -/

/-- Hints with a negative limit are those with one that is written with a minus sign and not zero. -/
theorem Hints.negative_iff :
    hints.Negative ↔ ∃ text bytes, hints.memory = some text ∧
      MemoryLimit.parse? text = some bytes ∧
      (Text.strip text.toList).head? = some '-' ∧ bytes ≠ 0 := by
  constructor
  · rintro ⟨bytes, limits, below⟩
    obtain ⟨text, given, read⟩ := Option.bind_eq_some_iff.mp limits.read
    exact ⟨text, bytes, given, read, (MemoryLimit.parse?_neg_iff read).mp below⟩
  · rintro ⟨text, bytes, given, read, negative⟩
    refine ⟨bytes, ?_, (MemoryLimit.parse?_neg_iff read).mpr negative⟩
    rw [Limits, given]
    exact congrArg some read

/-- **When the API is asked for a limit below zero.** A launch with hints is refused for them and
asks for nothing, or its first request creates a container with the limit that was read, or
without one if there is none, and no later request creates another. It keeps to limits that are not
negative exactly if there are raw options or the limit is not read as a negative number, which it
is if it is written with a minus sign and is not zero. -/
theorem limits_kept_iff (hints : Hints) :
    (∀ (driver : ByApi) (launching : Launching), launching.With hints →
      (driver.launch launching).Ensures (driver.Requested hints) ∧
      ((driver.launch launching).Ensures (driver.Kept hints) ↔
        ¬ (hints.Blank ∧ hints.Negative))) ∧
    (hints.Negative ↔ ∃ text bytes, hints.memory = some text ∧
      MemoryLimit.parse? text = some bytes ∧
      (Text.strip text.toList).head? = some '-' ∧ bytes ≠ 0) :=
  ⟨fun driver _ uses => ⟨driver.launch_requested uses, driver.ensures_kept_iff uses⟩,
    Hints.negative_iff⟩

/-- Hints with a limit and nothing else. -/
def limited (limit : String) : Hints :=
  { memory := some limit }

/-- A sidecar with a limit. -/
def limitedSidecar (limit : String) : Launching :=
  .sidecar "s" { image := "i", id := "a1" } (limited limit)

/-- Its launch, by an engine that creates what it is asked for. -/
def launchedLimited (limit : String) : List HostExchange × Except EngineError Handle × Unit :=
  (plainApi.launch (limitedSidecar limit)).run.record servesLists ()

theorem limits_kept_iff_half :
    (limited "512m").Limits (some (2 ^ 29)) ∧
    (plainApi.launch (limitedSidecar "512m")).Ensures (plainApi.Kept (limited "512m")) := by
  have limits : (limited "512m").Limits (some (2 ^ 29)) := by decide +kernel
  have uses : (limitedSidecar "512m").With (limited "512m") := .sidecar _ _
  refine ⟨limits, ((limits_kept_iff (limited "512m")).1 plainApi _ uses).2.mpr ?_⟩
  rintro ⟨-, bytes, other, below⟩
  cases limits.read.symm.trans other.read
  exact absurd below (by decide)

/-- **A limit below zero is asked for**, and the sidecar is started. -/
theorem negative_limit_asked :
    (launchedLimited "-5m").2.1 = .ok { image := "s", id := "c1" } ∧
    (∃ first rest, requests (launchedLimited "-5m").1 = first :: rest ∧
      plainApi.AsksFor (some (-5 * 2 ^ 20)) first.question ∧
      rest.map (·.question.verb?) = [some .start]) ∧
    ¬ (plainApi.launch (limitedSidecar "-5m")).Ensures (plainApi.Kept (limited "-5m")) := by
  have limits : (limited "-5m").Limits (some (-5 * 2 ^ 20)) := by decide +kernel
  have blank : (limited "-5m").Blank := List.forall_mem_nil _
  have ready : (launchedLimited "-5m").2.1 = .ok { image := "s", id := "c1" } := by decide +kernel
  have verbs : (requests (launchedLimited "-5m").1).map (·.question.verb?) =
      [some .create, some .start] := by decide +kernel
  have requested := plainApi.launch_requested (.sidecar "s" { image := "i", id := "a1" })
    _ _ (Program.yields_record servesLists (plainApi.launch (limitedSidecar "-5m")).run ())
  refine ⟨ready, ?_, fun kept => ?_⟩
  · change plainApi.Requested (limited "-5m") (launchedLimited "-5m").2.1
      (requests (launchedLimited "-5m").1) at requested
    rw [ready] at requested
    generalize requests (launchedLimited "-5m").1 = made at requested verbs
    cases requested with
    | asked _ limits' asks =>
      rw [limits'.read.symm.trans limits.read] at asks
      exact ⟨_, _, rfl, asks, (List.cons.inj verbs).2⟩
  · exact (plainApi.ensures_kept_iff (.sidecar _ _)).mp kept ⟨blank, _, limits, by decide⟩

end BuildYard
