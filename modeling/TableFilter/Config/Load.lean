import TableFilter.Config.Environment

/-!
# Loading a configuration

From the files that are asked for, or from the one in the working directory, and from the
environment.
-/

namespace TableFilter

/-- What stands under the name of a file. -/
inductive FileState where
  | absent
  | unreadable (reason : String)
  | text (content : String)
  deriving DecidableEq, Repr

/-- The files at hand, by name. -/
abbrev Files : Type :=
  String → FileState

namespace Config

/-- The file that is looked for where none is asked for. -/
def defaultFile : String := "filterql.json"

/-- The files to load: those that are asked for, all of which must be there, or the one in the
working directory if it is. -/
def sources (files : Files) (paths : List String) : Except ConfigError (List String) :=
  if paths.isEmpty then .ok ([defaultFile].filter fun path => files path != .absent)
  else match paths.find? fun path => files path == .absent with
    | some path => .error (.missingFile path)
    | none => .ok paths

def loadLayer (files : Files) (path : String) : Except ConfigError Layer :=
  match files path with
  | .absent => .error (.missingFile path)
  | .unreadable reason => .error (.unreadableFile path reason)
  | .text content =>
    match Layer.read content with
    | .ok layer => .ok layer
    | .error e => .error (.badFile path e)

/-- Reads files, one after the other. -/
def loadLayers (files : Files) : List String → Except ConfigError (List Layer)
  | [] => .ok []
  | path :: rest => do
    let layer ← loadLayer files path
    let layers ← loadLayers files rest
    return layer :: layers

/-- The settings of the files at the given paths and of the environment, and what is worth a
warning about the files. -/
def load (files : Files) (env : Environment) (paths : List String) :
    Except ConfigError (Settings × List Warning) := do
  let paths ← sources files paths
  let layers ← loadLayers files paths
  let settings ← resolve (.merged layers) env
  return (settings, layers.flatMap Layer.warnings)

end Config

end TableFilter
