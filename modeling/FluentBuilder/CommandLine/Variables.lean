import FluentBuilder.Settings.Reference
import FluentBuilder.Settings.Search

namespace FluentBuilder.CommandLine

open Unicode

/-- Where the reader of a value stands. What can stand inside double quotes as well as outside says
whether it is `quoted`. -/
inductive Reading where
  | plain
  | single
  | double
  /-- Behind the blank that ends the value, where only a comment may follow. -/
  | ended
  | escaped (quoted : Bool)
  | name (quoted : Bool) (read : Text)
  | braces (quoted : Bool) (read : Text)
deriving DecidableEq

def Reading.behind (quoted : Bool) : Reading :=
  if quoted then .double else .plain

def substituted (env : Environment) (name : Text) : Text :=
  if name.isEmpty then [] else (env name).getD []

def readValue? (env : Environment) : Reading → Text → Option Text
  | .plain, [] | .ended, [] | .escaped false, [] => some []
  | .name false read, [] => some (substituted env read)
  | .single, [] | .double, [] | .escaped true, [] | .name true _, [] | .braces _ _, [] => none
  | .ended, c :: rest =>
    if isBlank c then readValue? env .ended rest else if c = '#' then some [] else none
  | .escaped quoted, c :: rest =>
    if ['\\', '\'', '"', '$', ' '].contains c then
      (readValue? env (.behind quoted) rest).map (c :: ·)
    else if c = 'n' then (readValue? env (.behind quoted) rest).map ('\n' :: ·)
    else none
  | .single, c :: rest =>
    if c = '\'' then readValue? env .plain rest else (readValue? env .single rest).map (c :: ·)
  | .name quoted read, c :: rest =>
    if c.isAlphanum then readValue? env (.name quoted (read ++ [c])) rest
    else if c = '{' && read.isEmpty then readValue? env (.braces quoted []) rest
    else if c = '$' then (readValue? env (.name quoted []) rest).map (substituted env read ++ ·)
    -- a quote that stands here is part of the value
    else (readValue? env (.behind quoted) rest).map (substituted env read ++ c :: ·)
  | .braces quoted read, c :: rest =>
    if c = '}' then (readValue? env (.behind quoted) rest).map (substituted env read ++ ·)
    else readValue? env (.braces quoted (read ++ [c])) rest
  | .double, c :: rest =>
    if c = '$' then readValue? env (.name true []) rest
    else if c = '"' then readValue? env .plain rest
    else if c = '\\' then readValue? env (.escaped true) rest
    else (readValue? env .double rest).map (c :: ·)
  | .plain, c :: rest =>
    if c = '$' then readValue? env (.name false []) rest
    else if c = '\'' then readValue? env .single rest
    else if c = '"' then readValue? env .double rest
    else if c = '\\' then readValue? env (.escaped false) rest
    else if isBlank c then readValue? env .ended rest
    else (readValue? env .plain rest).map (c :: ·)

def readName? (line : Text) : Option (Text × Text) :=
  let isName := fun c : Char => c.isAlphanum || c == '_' || c == '.'
  if line.head?.any (fun c => c.isAlpha || c == '_') then
    some (line.takeWhile isName, Text.trimStart (line.dropWhile isName))
  else none

/-- What a line says: nothing on an empty line or a comment, else a variable and its value. A line of
another form cannot be read. -/
def readVariable? (env : Environment) (line : Text) : Option (Option (Text × Text)) :=
  let line := line.trim
  if line.isEmpty || line.head? = some '#' then some none
  else do
    let (first, behind) ← readName? line
    -- `export` is a name only if it is given a value itself
    let (name, rest) ←
      if first = "export".toList && behind.head? != some '=' then readName? behind
      else some (first, behind)
    match rest with
    | '=' :: value =>
      let value := Text.trimStart value
      if value.isEmpty || value.head? = some '#' then some (some (name, []))
      else (readValue? env .plain value).map fun value => some (name, value)
    | _ => none

/-- The variables after those on the lines before the first that cannot be read have been set. No
variable can hold a zero character, and none is given when one would have to. -/
def setVariables (env : Environment) : List Text → Option Environment
  | [] => some env
  | line :: rest =>
    match readVariable? env line with
    | none => some env
    | some none => setVariables env rest
    | some (some (name, value)) =>
      if (env name).isSome then setVariables env rest
      else if value.contains '\x00' then none
      else setVariables (fun other => if other = name then some value else env other) rest

structure Surroundings where
  directory : Text
  environment : Environment
  /-- The variables with those in the text of a `.env` file, if they can be set. -/
  addVariables : Environment → Text → Option Environment :=
    fun env text => setVariables env text.lines
  /-- The filter that a value of `RUST_LOG` stands for. -/
  readFilter? : Text → Option LogFilter := LogFilter.read?

def withVariables {m : Type → Type} [Monad m] [FileSystem m] (here : Surroundings) :
    m (Option Environment) := do
  match ← Settings.firstFile? ((Path.ancestors here.directory).map (Path.join · ".env".toList)) with
  | none => return some here.environment
  | some path =>
    match ← FileSystem.readText path with
    | .error _ => return some here.environment
    | .ok text => return here.addVariables here.environment text

end FluentBuilder.CommandLine
