import FluentBuilder.Builder.Json
import FluentBuilder.CommandLine.Arguments
import FluentBuilder.CommandLine.Template
import FluentBuilder.CommandLine.Variables
import FluentBuilder.Editor

namespace FluentBuilder.CommandLine

structure Console where
  stdout : Text := []
  stderr : Text := []
  log : List LogLine := []
deriving DecidableEq, Repr

inductive Fault where
  /-- No builder could be made; the user has been told. -/
  | failure (f : Failure)
  | setup (e : SetupError)
deriving DecidableEq, Repr

variable {m : Type → Type} [Monad m]

def print (t : Text) : StateT Console m Unit :=
  modify fun console => { console with stdout := console.stdout ++ t }

def printError (line : Text) : StateT Console m Unit :=
  modify fun console => { console with stderr := console.stderr ++ line ++ ['\n'] }

def log (lines : List LogLine) : StateT Console m Unit :=
  modify fun console => { console with log := console.log ++ lines }

variable [FileSystem m]

/-- The terminal as an editor: its active document is a file, and messages are printed. Being quiet
keeps back all but errors. The name of the file is a text, so that the document always has a path, and
no run fails with `missingDocumentPath`. -/
def terminal (file : Text) (quiet : Bool) : Editor (StateT Console m) where
  documentText := do return (← (FileSystem.readText file : m _)).toOption
  documentPath := return some file
  save path text := (FileSystem.writeText path text : m _)
  showError message := printError message
  showInfo message := if quiet then return else print (message ++ ['\n'])

/-- The editor with what the making of a builder logs. A builder is made of every document that is read
by an editor that always has a path, so this may come before the path is asked for. -/
def logging (editor : Editor (StateT Console m)) : Editor (StateT Console m) :=
  { editor with
    documentText := do
      let text ← editor.documentText
      log ((text.map Builder.documentLines).getD [])
      return text }

/-- The workspace of a run: the directory that was asked for if it is one, or the working directory. -/
def workspace? (here : Surroundings) (options : Options) : m (Option Text) := do
  match options.workspace with
  | none => return some here.directory
  | some path =>
    if (← FileSystem.kind? path) = some .directory then return some path else return none

def workspaceLines (options : Options) : Option Text → List LogLine
  | some _ => []
  | none => options.workspace.toList.map .noDirectory

def openWorkspace (here : Surroundings) (options : Options) : StateT Console m (Option Text) := do
  let workspace ← (workspace? here options : m _)
  log (workspaceLines options workspace)
  return workspace

def loadSettings (here : Surroundings) (options : Options) (directory : Text) :
    StateT Console m (Except SetupError Settings) := do
  let (settings, lines) ←
    (Settings.loadLogged here.environment options.settingsFile directory : m _)
  log lines
  return settings

def generate (here : Surroundings) (options : Options) (file : Text) :
    StateT Console m (Except Fault Unit) := do
  let workspace ← openWorkspace here options
  let settings ← match workspace with
    | none => pure (.ok {})
    | some directory => loadSettings here options directory
  match settings with
  | .error e => return .error (.setup e)
  | .ok settings =>
    match ← (logging (terminal file options.quiet)).createBuilder workspace settings with
    | .error failure => return .error (.failure failure)
    | .ok _ => return .ok ()

def preview (here : Surroundings) (options : Options) (file : Text) (format : Format) :
    StateT Console m (Except Fault Unit) := do
  let workspace ← openWorkspace here options
  match ← (terminal file options.quiet).openText workspace with
  | .error failure =>
    printError failure.message
    return .error (.failure failure)
  | .ok text =>
    match ← loadSettings here options (workspace.getD ['.']) with
    | .error e => return .error (.setup e)
    | .ok settings =>
      log (Builder.documentLines text)
      match Builder.ofDocument settings.generator text with
      | .error failure =>
        printError failure.message
        return .error (.failure failure)
      | .ok builder =>
        match format with
        | .text => print builder.classText
        | .json => print (builder.jsonText ++ ['\n'])
        return .ok ()

/-- Writes the settings file, into the working directory if there is no workspace. -/
def init (here : Surroundings) (options : Options) (force : Bool) :
    StateT Console m (Except Fault Unit) := do
  let workspace ← openWorkspace here options
  let path := Path.join (workspace.getD here.directory) Settings.fileName
  if (← (FileSystem.kind? path : m _)).isSome && !force then
    return .error (.setup (.alreadyExists path))
  else
    match ← (FileSystem.writeText path template : m _) with
    | .error detail => return .error (.setup (.file detail))
    | .ok _ =>
      if options.quiet then return .ok ()
      else
        print ("Created ".toList ++ path ++ ['\n'])
        return .ok ()

def Command.run (here : Surroundings) (options : Options) :
    Command → StateT Console m (Except Fault Unit)
  | .generate file => CommandLine.generate here options file
  | .preview file format => CommandLine.preview here options file format
  | .init force => CommandLine.init here options force

structure Outcome where
  code : Nat
  stdout : Text := []
  stderr : Text := []
  /-- The lines that the log shows. They stand apart from `stderr`, where the log is printed. -/
  log : List LogLine := []
deriving DecidableEq, Repr

namespace Outcome

def errors (outcome : Outcome) : List LogLine :=
  LogLine.errors outcome.log

/-- The message in the log of what the run ended with. -/
def logged (outcome : Outcome) : Option Text :=
  outcome.log.findSome? fun
    | .stopped e => some e.message
    | _ => none

end Outcome

def Level.fullName : Level → Text
  | .program => "typebuilder".toList
  | .generate => "typebuilder-generate".toList
  | .preview => "typebuilder-preview".toList
  | .init => "typebuilder-init".toList

def usage : Text :=
  "Usage: typebuilder [OPTIONS] <generate FILE|preview FILE|init>\n".toList

def Stop.outcome : Stop → Outcome
  | .wrongUsage => { code := 2, stderr := usage }
  | .help => { code := 0, stdout := usage }
  | .version level => { code := 0, stdout := level.fullName ++ " 0.1.0\n".toList }
  | .crash => { code := 101, stderr := "A variable cannot hold a zero character.\n".toList }

/-- How much is logged, unless `RUST_LOG` says so. -/
def Options.limit (options : Options) : Severity :=
  if options.quiet then .error
  else match options.verbose with
    | 0 => .warning
    | 1 => .info
    | 2 => .debug
    | _ => .trace

def Surroundings.givenFilter? (here : Surroundings) : Option LogFilter :=
  (here.environment "RUST_LOG".toList).bind here.readFilter?

def Surroundings.logFilter (here : Surroundings) (options : Options) : LogFilter :=
  here.givenFilter?.getD (.ofLimit options.limit)

def outcomeOf (shows : LogFilter) (console : Console) : Except Fault Unit → Outcome
  | .ok _ =>
    { code := 0, stdout := console.stdout, stderr := console.stderr, log := console.log.filter shows }
  -- the user has been told
  | .error (.failure _) =>
    { code := 1, stdout := console.stdout, stderr := console.stderr, log := console.log.filter shows }
  | .error (.setup e) =>
    { code := 1, stdout := console.stdout, stderr := console.stderr,
      log := (console.log ++ [LogLine.stopped e]).filter shows }

def run (here : Surroundings) (arguments : List Text) : m Outcome := do
  match ← withVariables here with
  | none => return Stop.crash.outcome
  | some environment =>
    match readArguments (environment "TYPEBUILDER_CONFIG".toList) arguments with
    | .error stop => return stop.outcome
    | .ok (command, options) =>
      let here := { here with environment }
      let (result, console) ← (command.run here options).run {}
      return outcomeOf (here.logFilter options) console result

end FluentBuilder.CommandLine
