import FluentBuilder.Settings.Error

namespace FluentBuilder

inductive Severity where
  | error
  | warning
  | info
  | debug
  | trace
deriving DecidableEq, Repr

def Severity.rank : Severity → Nat
  | .error => 0
  | .warning => 1
  | .info => 2
  | .debug => 3
  | .trace => 4

/-- What a run has to say to the log: every error and warning there is. Lines below a warning are left
out. -/
inductive LogLine where
  | unpairable
  | noDirectory (path : Text)
  | defaultUsed (name : Text)
  | settingsNotFound (path : Text)
  | settingsUnreadable (detail : Text)
  | settingsMalformed
  /-- What the run ends with if it could not do its work. -/
  | stopped (e : SetupError)
deriving DecidableEq, Repr

namespace LogLine

def severity : LogLine → Severity
  | .unpairable | .noDirectory _ | .defaultUsed _ => .warning
  | .settingsNotFound _ | .settingsUnreadable _ | .settingsMalformed | .stopped _ => .error

def target : LogLine → Text
  | .stopped _ => "typebuilder".toList
  | .unpairable => "typebuilder_core::extract::members".toList
  | .noDirectory _ => "typebuilder::commands".toList
  | .defaultUsed _ | .settingsNotFound _ | .settingsUnreadable _ | .settingsMalformed =>
    "typebuilder_core::config".toList

def message : LogLine → Text
  | .unpairable => "Properties and data types were found but could not be paired".toList
  | .noDirectory path => "Workspace \"".toList ++ path ++ "\" is not a directory".toList
  | .defaultUsed name =>
    "Unset variable in configuration, using its default variable=\"".toList ++ name ++ ['"']
  | .settingsNotFound path => "Configuration file not found: \"".toList ++ path ++ ['"']
  | .settingsUnreadable detail => "Failed to read configuration file: ".toList ++ detail
  | .settingsMalformed => "Failed to parse TOML configuration".toList
  | .stopped e => e.message

def errors (lines : List LogLine) : List LogLine :=
  lines.filter (·.severity = .error)

end LogLine

abbrev LogFilter := LogLine → Bool

namespace LogFilter

def ofLimit (limit : Severity) : LogFilter := fun line =>
  ["typebuilder".toList, "typebuilder_core".toList].any (·.isPrefixOf line.target) &&
    decide (line.severity.rank ≤ limit.rank)

/-- How much one part of the program may log, or all of it if the name of the part is empty. -/
structure Directive where
  target : Text
  limit : Option Severity

def limits : List (Text × Option Severity) :=
  [("off".toList, none), ("error".toList, some .error), ("warn".toList, some .warning),
    ("info".toList, some .info), ("debug".toList, some .debug), ("trace".toList, some .trace),
    -- the same by number
    ("0".toList, none), ("1".toList, some .error), ("2".toList, some .warning),
    ("3".toList, some .info), ("4".toList, some .debug), ("5".toList, some .trace)]

def limit? (name : Text) : Option (Option Severity) :=
  limits.lookup (name.map Char.toLower)

def directive? (t : Text) : Option Directive :=
  match limit? t with
  | some limit => some { target := [], limit }
  | none =>
    let target := t.takeWhile (· != '=')
    if target.isEmpty || !target.all (fun c => c.isAlphanum || c == '_' || c == ':' || c == '-') then
      none
    else match t.dropWhile (· != '=') with
      | [] => some { target, limit := some .trace }
      | _ :: name => (limit? name).map fun limit => { target, limit }

/-- The directive that names the line's part of the program most closely decides. -/
def ofDirectives (directives : List Directive) : LogFilter := fun line =>
  let nearest := directives.foldl (fun best d =>
    if d.target.isPrefixOf line.target && best.all (·.target.length ≤ d.target.length) then some d
    else best) (none : Option Directive)
  (nearest.bind (·.limit)).any fun limit => line.severity.rank ≤ limit.rank

/-- The filter in a list of directives: names of parts, severities, or both with an equals sign between.
No other form is read. -/
def read? (t : Text) : Option LogFilter :=
  match (t.pieces ',').filter (· != []) with
  | [] => some (ofLimit .error)
  | directives => (directives.mapM directive?).map ofDirectives

end LogFilter

end FluentBuilder
