import BuildYard.Build.Action
import BuildYard.ContainerSet

/-!
# Settings and container sets in files

Settings and container sets are read from files of the host. Settings may do
without a file; what the environment says then applies, and the outcome is
checked.
-/

set_option autoImplicit false

namespace BuildYard

namespace Work

/-- The text of a file. -/
def readText (path : String) : Work (Except IoError String) := do
  match ← act (.readFile path) with
  | .error cause => pure (.error cause)
  | .ok contents =>
    match Bytes.text? contents with
    | some text => pure (.ok text)
    | none => pure (.error .notText)

/-- What `read` makes of the text of a file. -/
def readAs {α : Type} (path : String) (read : String → String → Except ConfigError α) :
    Work (Except ConfigError α) := do
  match ← readText path with
  | .ok text => pure (read path text)
  | .error cause => pure (.error (.io path cause))

end Work

/-- The container set in a file. -/
def ContainerSet.ofFile (path : String) : Work (Except ConfigError ContainerSet) :=
  Work.readAs path ContainerSet.ofText

namespace Settings

/-- The settings in a file. -/
def ofFile (path : String) : Work (Except ConfigError Settings) :=
  Work.readAs path Settings.ofText

/-- The settings in a file, or the default ones if there is no file. -/
def ofFileIfPresent : Option String → Work (Except ConfigError Settings)
  | none => pure (.ok {})
  | some path => do
    if ← Work.act (.present path) then ofFile path
    else
      Work.note .debug .settings ("Settings file " ++ path ++ " not found, using defaults")
      pure (.ok {})

/-- Settings as the environment changes them, if they are in order. -/
def adjust (overrides : Overrides) (settings : Settings) : Work (Except ConfigError Settings) := do
  match overrides.warning? with
  | some warning => Work.note .warn .settings warning
  | none => pure ()
  let adjusted := overrides.apply settings
  pure (adjusted.validate.map fun _ => adjusted)

/-- The settings to work with: those of a file, as the environment changes them. -/
def load (path : Option String) (overrides : Overrides) : Work (Except ConfigError Settings) := do
  match ← ofFileIfPresent path with
  | .ok settings => adjust overrides settings
  | .error cause => pure (.error cause)

end Settings

end BuildYard
