import FluentBuilder.Editor
import FluentBuilder.Settings.Document

namespace FluentBuilder

abbrev Store := List (Text × Text)

namespace Store

def put (path text : Text) : Store → Store
  | [] => [(path, text)]
  | (p, t) :: rest =>
    if path = p then (path, text) :: rest
    else if path < p then (path, text) :: (p, t) :: rest
    else (p, t) :: put path text rest

def text? (store : Store) (path : Text) : Option Text :=
  store.lookup path

def paths (store : Store) : List Text :=
  store.map (·.1)

end Store

structure Session where
  files : Store := []
  openPath : Option Text := none
  workspace : Option Text := none
  saveError : Option Text := none
  settings : Settings := {}

namespace Session

/-- The editor of a session. It saves into the session's files unless saving is set to fail. -/
def editor : Editor (StateM Session) where
  documentText := do
    let session ← get
    return session.openPath.bind session.files.text?
  documentPath := do
    let session ← get
    return session.openPath
  save path text := do
    let session ← get
    match session.saveError with
    | some detail => return .error detail
    | none =>
      set { session with files := session.files.put path text }
      return .ok ()
  showError _ := return
  showInfo _ := return

inductive Step where
  | put (path text : Text)
  | openDocument (path : Option Text)
  | setWorkspace (root : Option Text)
  | setSaveError (detail : Option Text)
  | configure (env : Environment) (document : Text)
  | run
  | read (path : Text)

inductive Answer where
  | paths (paths : List Text)
  | text (t : Option Text)
  | settings (result : Except SetupError Settings)
  | transcript (transcript : Editor.Transcript)

def run (session : Session) : Editor.Transcript × Session :=
  (editor.transcript session.workspace session.settings).run session

/-- One step. Settings that cannot be read leave the old ones in force. -/
def step (session : Session) : Step → Answer × Session
  | .put path text =>
    let files := session.files.put path text
    (.paths files.paths, { session with files })
  | .openDocument path => (.text path, { session with openPath := path })
  | .setWorkspace root => (.text root, { session with workspace := root })
  | .setSaveError detail => (.text detail, { session with saveError := detail })
  | .configure env document =>
    let result := Settings.ofDocument env document
    match result with
    | .ok settings => (.settings result, { session with settings })
    | .error _ => (.settings result, session)
  | .run =>
    let (transcript, session) := session.run
    (.transcript transcript, session)
  | .read path => (.text (session.files.text? path), session)

inductive Reachable : Session → Prop where
  | fresh : Reachable {}
  | step {session : Session} (s : Step) : Reachable session → Reachable (session.step s).2

end Session

end FluentBuilder
