import FluentBuilder.Builder.Basic
import FluentBuilder.Builder.Destination
import FluentBuilder.Settings.Basic

namespace FluentBuilder

/-- What a run needs from its surroundings, which act in `m`. -/
structure Editor (m : Type → Type) where
  documentText : m (Option Text)
  documentPath : m (Option Text)
  /-- Saves a text under a path, or gives the reason why it could not. -/
  save : (path text : Text) → m (Except Text Unit)
  showError : Text → m Unit
  showInfo : Text → m Unit

namespace Editor

variable {m : Type → Type} [Monad m]

def openText (editor : Editor m) (workspace : Option Text) : m (Except Failure Text) := do
  match workspace with
  | none => return .error .noWorkspace
  | some _ =>
    match ← editor.documentText with
    | none => return .error .noActiveDocument
    | some text => return .ok text

def saveBuilder (editor : Editor m) (workspace : Option Text) (s : Settings) :
    m (Except Failure Text) := do
  match ← editor.openText workspace with
  | .error failure => return .error failure
  | .ok text =>
    match ← editor.documentPath with
    | none => return .error .missingDocumentPath
    | some path =>
      match Builder.ofDocument s.generator text with
      | .error failure => return .error failure
      | .ok builder =>
        let destination := Destination.ofDocument path s.suffix
        match ← editor.save destination builder.classText with
        | .error detail => return .error (.saveFailed detail)
        | .ok _ => return .ok destination

def createBuilder (editor : Editor m) (workspace : Option Text) (s : Settings) :
    m (Except Failure Text) := do
  match ← editor.saveBuilder workspace s with
  | .error failure =>
    editor.showError failure.message
    return .error failure
  | .ok path =>
    editor.showInfo ("Builder created: ".toList ++ path)
    return .ok path

end Editor

inductive Call where
  | documentText
  | documentPath
  | save (path text : Text)
  | showError (message : Text)
  | showInfo (message : Text)
deriving DecidableEq, Repr

namespace Editor

variable {m : Type → Type} [Monad m]

def noted {α : Type} (call : Call) (act : m α) : StateT (List Call) m α :=
  fun calls => do return (← act, calls ++ [call])

def recorded (editor : Editor m) : Editor (StateT (List Call) m) where
  documentText := noted .documentText editor.documentText
  documentPath := noted .documentPath editor.documentPath
  save path text := noted (.save path text) (editor.save path text)
  showError message := noted (.showError message) (editor.showError message)
  showInfo message := noted (.showInfo message) (editor.showInfo message)

structure Transcript where
  result : Except Failure Text
  calls : List Call

def transcript (editor : Editor m) (workspace : Option Text) (s : Settings) : m Transcript := do
  let (result, calls) ← (editor.recorded.createBuilder workspace s).run []
  return { result, calls }

end Editor

/-- A fixed scene: the document as it stands and what saving comes to, whatever is saved. -/
structure Scene where
  text : Option Text := none
  path : Option Text := none
  saveError : Option Text := none
deriving DecidableEq, Repr

def Scene.editor (scene : Scene) : Editor Id where
  documentText := scene.text
  documentPath := scene.path
  save _ _ := match scene.saveError with
    | some detail => .error detail
    | none => .ok ()
  showError _ := ()
  showInfo _ := ()

end FluentBuilder
