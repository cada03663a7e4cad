import BuildYard.Error
import Mathlib.Data.List.Infix
import Mathlib.Logic.Relation

/-!
# No cause is lost

An error wraps an error of a lower layer, or stands for it. The walk from an
error goes to its source, then to the source of that, and so on: it ends, for
each source is of a lower layer (`rank_lt_of_source?`), and it passes just the
messages of the chain (`walks_chain`). Each message ends with that of the source
(`endsWith_of_source?`), and so it is all along the walk
(`Walks.isChain_append_iff`).

The error of a clearing has no source, for it gathers many errors. They are not
lost either: its message has a row for each (`rows_join`). So whatever went into
an error, at whatever depth, is told by its message in full (`infix_of_within`).
-/

set_option autoImplicit false

namespace BuildYard

/-- An error of any layer, or one that the lowest layer takes over. -/
inductive Mishap where
  | config (e : ConfigError)
  | provision (e : ProvisionError)
  | resolution (e : ResolutionError)
  | engine (e : EngineError)
  | api (e : ApiError)
  | io (e : IoError)

namespace Mishap

/-- The text of the error. -/
def message : Mishap → String
  | config e => e.message
  | provision e => e.message
  | resolution e => e.message
  | engine e => e.message
  | api e => e.message
  | io e => e.message

/-- The messages from the error down. -/
def chain : Mishap → List String
  | config e => e.chain
  | provision e => e.chain
  | resolution e => e.chain
  | engine e => e.chain
  | api e => [e.message]
  | io e => [e.message]

/-! ## Sources -/

/-- What an error of the engine names as its source. -/
def ofEngine : EngineError → Option Mishap
  | .api cause => some (.api cause)
  | .io cause => some (.io cause)
  | _ => none

/-- What an error names as its source. One that stands for its cause names the source of that. -/
def source? : Mishap → Option Mishap
  | config (.io _ cause) => some (.io cause)
  | provision (.engineUnreachable cause) => some (.engine cause)
  | provision (.existenceCheckFailed _ _ cause) => some (.engine cause)
  | provision (.creationFailed _ _ cause) => some (.engine cause)
  | provision (.imageResolutionFailed _ cause) => some (.resolution cause)
  | provision (.executionFailed _ cause) => some (.engine cause)
  | resolution (.packaging cause) => some (.io cause)
  | resolution (.engine cause) => ofEngine cause
  | engine e => ofEngine e
  | _ => none

/-- `Wraps e inner`: the one error `inner`, of a lower layer, went into `e`. -/
inductive Wraps : Mishap → Mishap → Prop
  | reading (path : String) (cause : IoError) : Wraps (.config (.io path cause)) (.io cause)
  | reaching (cause : EngineError) : Wraps (.provision (.engineUnreachable cause)) (.engine cause)
  | looking (resource : Resource) (target : String) (cause : EngineError) :
      Wraps (.provision (.existenceCheckFailed resource target cause)) (.engine cause)
  | creating (resource : Resource) (target : String) (cause : EngineError) :
      Wraps (.provision (.creationFailed resource target cause)) (.engine cause)
  | image (image : String) (cause : ResolutionError) :
      Wraps (.provision (.imageResolutionFailed image cause)) (.resolution cause)
  | starting (container : String) (cause : EngineError) :
      Wraps (.provision (.executionFailed container cause)) (.engine cause)
  | packaging (cause : IoError) : Wraps (.resolution (.packaging cause)) (.io cause)
  | resolving (cause : EngineError) : Wraps (.resolution (.engine cause)) (.engine cause)
  | request (cause : ApiError) : Wraps (.engine (.api cause)) (.api cause)
  | system (cause : IoError) : Wraps (.engine (.io cause)) (.io cause)

/-- `Holds e inner`: `inner` went into `e`, which wraps it or gathers it with others. -/
inductive Holds : Mishap → Mishap → Prop
  | wrapped {e inner : Mishap} (wraps : Wraps e inner) : Holds e inner
  | gathered {failures : List CleanupFailure} {failure : CleanupFailure}
      (among : failure ∈ failures) :
      Holds (.provision (.cleanupFailed failures)) (.engine failure.cause)

/-- How far an error can be above the lowest layer. -/
def rank : Mishap → Nat
  | config _ | provision _ => 3
  | resolution _ => 2
  | engine _ => 1
  | api _ | io _ => 0

/-- The message above ends with the one below. -/
def EndsWith (above below : String) : Prop :=
  below.toList <:+ above.toList

theorem endsWith_append (front text : String) : EndsWith (front ++ text) text :=
  ⟨front.toList, String.toList_append.symm⟩

section Sources

variable {e inner source : Mishap} {cause : EngineError}

theorem elim_ofEngine (cause : EngineError) : (ofEngine cause).elim [] chain = cause.causes := by
  cases cause <;> rfl

/-- Below the message of an error stands the chain of its source. -/
theorem chain_eq (e : Mishap) : e.chain = e.message :: e.source?.elim [] chain := by
  cases e with
  | config e => cases e <;> rfl
  | provision e => cases e <;> rfl
  | resolution e =>
    cases e with
    -- it stands for its cause, so what is below that is below it
    | engine cause => exact congrArg (cause.message :: ·) (elim_ofEngine cause).symm
    | _ => rfl
  | engine e => exact congrArg (e.message :: ·) (elim_ofEngine e).symm
  | api _ => rfl
  | io _ => rfl

theorem wraps_of_ofEngine (named : ofEngine cause = some source) :
    Wraps (.engine cause) source := by
  cases cause with
  | api cause => cases named; exact .request cause
  | io cause => cases named; exact .system cause
  | _ => cases named

/-- **A source is wrapped by the error that names it**, or by the cause for which that one stands. -/
theorem wraps_of_source? (named : e.source? = some source) :
    Wraps e source ∨ ∃ cause, e = .resolution (.engine cause) ∧ Wraps (.engine cause) source := by
  cases e with
  | config e =>
    cases e with
    | io path cause => cases named; exact .inl (.reading path cause)
    | _ => cases named
  | provision e =>
    cases e with
    | engineUnreachable cause => cases named; exact .inl (.reaching cause)
    | existenceCheckFailed resource target cause =>
      cases named
      exact .inl (.looking resource target cause)
    | creationFailed resource target cause =>
      cases named
      exact .inl (.creating resource target cause)
    | imageResolutionFailed image cause => cases named; exact .inl (.image image cause)
    | executionFailed container cause => cases named; exact .inl (.starting container cause)
    | _ => cases named
  | resolution e =>
    cases e with
    | packaging cause => cases named; exact .inl (.packaging cause)
    | engine cause => exact .inr ⟨cause, rfl, wraps_of_ofEngine named⟩
    | _ => cases named
  | engine e => exact .inl (wraps_of_ofEngine named)
  | api _ => cases named
  | io _ => cases named

theorem Wraps.rank_lt (wraps : Wraps e inner) : inner.rank < e.rank := by
  cases wraps <;> simp [rank]

/-- The message of an error ends with that of what it wraps. -/
theorem Wraps.endsWith (wraps : Wraps e inner) : EndsWith e.message inner.message := by
  cases wraps with
  | resolving cause => exact List.suffix_refl _
  | _ => exact endsWith_append _ _

/-- The chain of an error ends with that of what it wraps. -/
theorem Wraps.chain_suffix (wraps : Wraps e inner) : inner.chain <:+ e.chain := by
  cases wraps with
  | resolving cause => exact List.suffix_refl _
  | _ => exact List.suffix_cons _ _

/-- **A source is of a lower layer.** -/
theorem rank_lt_of_source? (named : e.source? = some source) : source.rank < e.rank := by
  obtain wraps | ⟨cause, rfl, wraps⟩ := wraps_of_source? named
  · exact wraps.rank_lt
  · exact wraps.rank_lt.trans (Wraps.resolving cause).rank_lt

/-- **A message ends with that of the source.** -/
theorem endsWith_of_source? (named : e.source? = some source) :
    EndsWith e.message source.message := by
  obtain wraps | ⟨cause, rfl, wraps⟩ := wraps_of_source? named
  · exact wraps.endsWith
  · exact wraps.endsWith

end Sources

/-! ## The walk to the root -/

/-- From an error its sources lead to the `root`, which has none, past the messages `texts`. -/
inductive Walks : Mishap → List String → Mishap → Prop
  | ends {e : Mishap} (last : e.source? = none) : Walks e [e.message] e
  | goes {e source root : Mishap} {texts : List String} (named : e.source? = some source)
      (rest : Walks source texts root) : Walks e (e.message :: texts) root

section Walking

variable {e root : Mishap} {texts : List String}

/-- **The walk from an error ends, past the messages of its chain.** -/
theorem walks_chain (e : Mishap) : ∃ root, Walks e e.chain root := by
  rw [chain_eq]
  cases named : e.source? with
  | none => exact ⟨e, .ends named⟩
  | some source =>
    obtain ⟨root, rest⟩ := walks_chain source
    exact ⟨root, .goes named rest⟩
  termination_by e.rank
  decreasing_by exact rank_lt_of_source? named

theorem Walks.eq_cons (walks : Walks e texts root) : ∃ rest, texts = e.message :: rest := by
  cases walks with
  | ends => exact ⟨[], rfl⟩
  | goes => exact ⟨_, rfl⟩

/-- **Each message of a walk ends with the next**, and if the walk went on below its root, it would
be so exactly if it were so from there on. -/
theorem Walks.isChain_append_iff (walks : Walks e texts root) (more : List String) :
    (texts ++ more).IsChain EndsWith ↔ (root.message :: more).IsChain EndsWith := by
  induction walks with
  | ends => rfl
  | goes named rest ih =>
    obtain ⟨below, rfl⟩ := rest.eq_cons
    rw [← ih, List.cons_append, List.cons_append, List.isChain_cons_cons]
    exact and_iff_right (endsWith_of_source? named)

theorem isChain_chain (e : Mishap) : e.chain.IsChain EndsWith := by
  obtain ⟨root, walks⟩ := walks_chain e
  have alone := (walks.isChain_append_iff []).mpr (.singleton _)
  rwa [List.append_nil] at alone

end Walking

/-! ## Errors that are gathered -/

/-- A row for each failed removal tells what it was about, its target and its cause. -/
inductive Rows : List CleanupFailure → String → Prop
  | none : Rows [] ""
  | one (failure : CleanupFailure) :
      Rows [failure] (failure.resource ++ " " ++ failure.target ++ ": " ++ failure.cause.message)
  | more (failure : CleanupFailure) {next : CleanupFailure} {rest : List CleanupFailure}
      {text : String} (below : Rows (next :: rest) text) :
      Rows (failure :: next :: rest)
        (failure.resource ++ " " ++ failure.target ++ ": " ++ failure.cause.message ++ "; " ++ text)

section Gathering

variable {e inner : Mishap} {failures : List CleanupFailure} {failure : CleanupFailure}
  {text : String}

/-- **Each failed removal has its row, in order.** -/
theorem rows_join (failures : List CleanupFailure) :
    Rows failures (Text.join "; " (failures.map CleanupFailure.message)) := by
  induction failures with
  | nil => exact .none
  | cons failure rest ih =>
    cases rest with
    | nil => exact .one failure
    | cons next rest =>
      rw [List.map_cons, List.map_cons, Text.join, String.intercalate_cons_cons]
      exact .more failure ih

theorem Rows.told (rows : Rows failures text) (among : failure ∈ failures) :
    failure.message.toList <:+: text.toList := by
  induction rows with
  | none => cases among
  | one only =>
    obtain rfl := List.mem_singleton.mp among
    exact List.infix_rfl
  | more first below ih =>
    rw [String.toList_append, String.toList_append, List.append_assoc]
    obtain rfl | later := List.mem_cons.mp among
    · exact (List.prefix_append _ _).isInfix
    · exact (ih later).trans ((List.suffix_append _ _).trans (List.suffix_append _ _)).isInfix

/-- **What went into an error is told by its message.** -/
theorem Holds.told (holds : Holds e inner) : inner.message.toList <:+: e.message.toList := by
  cases holds with
  | wrapped wraps => exact wraps.endsWith.isInfix
  | @gathered failures failure among =>
    calc failure.cause.message.toList
      _ <:+: failure.message.toList := (endsWith_append _ _).isInfix
      _ <:+: (Text.join "; " (failures.map CleanupFailure.message)).toList :=
        (rows_join failures).told among
      _ <:+: _ := (endsWith_append _ _).isInfix

theorem infix_of_within (within : Relation.ReflTransGen Holds e inner) :
    inner.message.toList <:+: e.message.toList := by
  induction within with
  | refl => exact List.infix_rfl
  | tail _ holds ih => exact holds.told.trans ih

end Gathering

/-- **No cause is lost.** The walk from an error to its source, and on to the source of that, ends
at one that names none, and passes the messages of the chain, each of which ends with the next. A
root that comes from outside may have causes of its own: with their messages behind the chain, each
still ends with the next exactly if that is so from the root on. The chain ends with that of what
the error wraps, and whatever went into the error, directly or not, is told by its message. The
message about failed removals gives their number and has a row for each, in order. -/
theorem causes_stay_told (e : Mishap) (failures : List CleanupFailure) :
    (∃ root, Walks e e.chain root ∧ ∀ more,
      (e.chain ++ more).IsChain EndsWith ↔ (root.message :: more).IsChain EndsWith) ∧
    e.chain.IsChain EndsWith ∧
    (∀ inner, Wraps e inner → inner.chain <:+ e.chain) ∧
    (∀ inner, Relation.ReflTransGen Holds e inner →
      inner.message.toList <:+: e.message.toList) ∧
    ∃ rows, Rows failures rows ∧ (ProvisionError.cleanupFailed failures).message =
      "Cleanup failed for " ++ toString failures.length ++ " resource(s): " ++ rows := by
  obtain ⟨root, walks⟩ := walks_chain e
  exact ⟨⟨root, walks, walks.isChain_append_iff⟩, isChain_chain e, fun _ => Wraps.chain_suffix,
    fun _ => infix_of_within, _, rows_join failures, rfl⟩

/-- Two removals that failed. -/
def failedRemovals : List CleanupFailure :=
  [⟨"sidecar db", "abc", .cli "rm" "gone"⟩, ⟨"work container", "def", .cli "rm" "busy"⟩]

/-- An error that stands for its cause is passed as one with it; both failed removals are told. -/
theorem causes_stay_told_refused :
    (∃ root, Walks
      (.provision (.imageResolutionFailed "tools" (.engine (.api (.status 404 "gone")))))
      ["Failed to resolve image tools: Engine API error: " ++
          "Docker responded with status code 404: gone",
        "Engine API error: Docker responded with status code 404: gone",
        "Docker responded with status code 404: gone"] root) ∧
    ∃ rows, Rows failedRemovals rows ∧ (ProvisionError.cleanupFailed failedRemovals).message =
      "Cleanup failed for 2 resource(s): " ++ rows := by
  obtain ⟨⟨root, walks, -⟩, -, -, -, rows, inOrder, whole⟩ := causes_stay_told
    (.provision (.imageResolutionFailed "tools" (.engine (.api (.status 404 "gone")))))
    failedRemovals
  exact ⟨⟨root, walks⟩, rows, inOrder, whole⟩

end Mishap

end BuildYard
