import BuildYard.Text.Words
import BuildYard.Toml.Record

/-!
# Placement hints

Hints say how much memory a container may use, which further volumes it
mounts, and which raw options go to the engine. Raw options are one text,
split into words by the rules of a shell.
-/

set_option autoImplicit false

namespace BuildYard

/-- Resources and mounts of a container. -/
structure Hints where
  /-- a limit in the engine's notation, such as 512m -/
  memory : Option String := none
  /-- further mounts, source and target joined by a colon -/
  volumes : List String := []
  rawOptions : Option String := none
  deriving DecidableEq, Repr, Inhabited

namespace Hints

/-- The raw options as arguments; `none` when a quotation in them is not closed. -/
def rawArgs? (hints : Hints) : Option (List String) :=
  match hints.rawOptions with
  | some raw => Text.Words.split? raw
  | none => some []

/-- The hints with mounts added that are not there yet. -/
def withMounts (hints : Hints) (mounts : List String) : Hints :=
  mounts.foldl
    (fun h mount => if h.volumes.contains mount then h
      else { h with volumes := h.volumes ++ [mount] }) hints

/-- Reads hints; every field may be missing. -/
def ofToml? (rule : Toml.Strictness) (value : Toml) : Option Hints :=
  match value.fields? rule ["memory", "volumes", "raw_options"] with
  | some [memory, volumes, raw] => do
    let memory ← Toml.optionalField Toml.text? memory
    let volumes ← Toml.fieldOr [] (Toml.list? Toml.text?) volumes
    let rawOptions ← Toml.optionalField Toml.text? raw
    some { memory, volumes, rawOptions }
  | _ => none

end Hints

end BuildYard
