import FluentBuilder.Files.System
import FluentBuilder.Settings.Document

namespace FluentBuilder.Settings

def fileName : Text :=
  "typebuilder.toml".toList

variable {m : Type → Type} [Monad m] [FileSystem m]

def firstFile? : List Text → m (Option Text)
  | [] => return none
  | path :: rest => do
    if (← FileSystem.kind? path) = some .file then return some path
    else firstFile? rest

def readFile (env : Environment) (path : Text) : m (Except SetupError Settings × List LogLine) := do
  match ← FileSystem.readText path with
  | .error detail => return (.error (.file detail), [.settingsUnreadable detail])
  | .ok document => return (ofDocument env document, documentLines env document)

/-- The settings for a directory, and what looking for them logs. A file that is asked for must be
there; without one, and if none is found, the defaults hold. -/
def loadLogged (env : Environment) (explicit : Option Text) (directory : Text) :
    m (Except SetupError Settings × List LogLine) := do
  match explicit with
  | some path =>
    if (← FileSystem.kind? path) = some .file then readFile env path
    else return (.error (.invalidPath path), [.settingsNotFound path])
  | none =>
    match ← firstFile? ((Path.ancestors directory).map (Path.join · fileName)) with
    | some path => readFile env path
    | none => return (.ok {}, [])

def load (env : Environment) (explicit : Option Text) (directory : Text) :
    m (Except SetupError Settings) := do
  return (← loadLogged env explicit directory).1

end FluentBuilder.Settings
