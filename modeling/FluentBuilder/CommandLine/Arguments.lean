import FluentBuilder.Text

namespace FluentBuilder.CommandLine

inductive Format where
  | text
  | json
deriving DecidableEq, Repr

inductive Command where
  | generate (file : Text)
  | preview (file : Text) (format : Format)
  | init (force : Bool)
deriving DecidableEq, Repr

structure Options where
  workspace : Option Text := none
  settingsFile : Option Text := none
  verbose : Nat := 0
  quiet : Bool := false
deriving DecidableEq, Repr

/-- Where arguments stand: before the name of a command, or after it. -/
inductive Level where
  | program
  | generate
  | preview
  | init
deriving DecidableEq, Repr

inductive Flag where
  | workspace
  | config
  | verbose
  | quiet
  | help
  | version
  | format
  | force
deriving DecidableEq, Repr

inductive Stop where
  | wrongUsage
  | help
  | version (level : Level)
  /-- A variable cannot be set. -/
  | crash
deriving DecidableEq, Repr

def Level.ofName? (name : Text) : Option Level :=
  if name = "generate".toList then some .generate
  else if name = "preview".toList then some .preview
  else if name = "init".toList then some .init
  else none

namespace Flag

def takesValue : Flag → Bool
  | .workspace | .config | .format => true
  | _ => false

def ofLong? (level : Level) (name : Text) : Option Flag :=
  if name = "workspace".toList then some .workspace
  else if name = "config".toList then some .config
  else if name = "verbose".toList then some .verbose
  else if name = "quiet".toList then some .quiet
  else if name = "help".toList then some .help
  else if name = "version".toList then some .version
  else if level = .preview ∧ name = "format".toList then some .format
  else if level = .init ∧ name = "force".toList then some .force
  else none

def ofLetter? (level : Level) : Char → Option Flag
  | 'w' => some .workspace
  | 'c' => some .config
  | 'v' => some .verbose
  | 'q' => some .quiet
  | 'h' => some .help
  | 'V' => some .version
  | 'f' => if level = .init then some .force else none
  | _ => none

end Flag

structure Given where
  workspace : Option Text := none
  config : Option Text := none
  verbose : Nat := 0
  quiet : Bool := false
  format : Option Format := none
  force : Bool := false
  file : Option Text := none
deriving DecidableEq, Repr

namespace Given

/-- Notes an option without a value. Only `verbose` may be repeated. -/
def note (g : Given) (level : Level) : Flag → Except Stop Given
  | .verbose => .ok { g with verbose := g.verbose + 1 }
  | .quiet => if g.quiet then .error .wrongUsage else .ok { g with quiet := true }
  | .force => if g.force then .error .wrongUsage else .ok { g with force := true }
  | .help => .error .help
  | .version => .error (.version level)
  | _ => .error .wrongUsage

/-- Notes an option with its value, which is not empty and given once. -/
def noteValue (g : Given) (flag : Flag) (value : Text) : Except Stop Given :=
  if value.isEmpty then .error .wrongUsage
  else match flag with
    | .workspace =>
      if g.workspace.isSome then .error .wrongUsage else .ok { g with workspace := some value }
    | .config => if g.config.isSome then .error .wrongUsage else .ok { g with config := some value }
    | .format =>
      if g.format.isSome then .error .wrongUsage
      else if value = "text".toList then .ok { g with format := some .text }
      else if value = "json".toList then .ok { g with format := some .json }
      else .error .wrongUsage
    | _ => .error .wrongUsage

def noteWord (g : Given) (level : Level) (word : Text) : Except Stop Given :=
  if (level = .generate ∨ level = .preview) ∧ g.file.isNone ∧ !word.isEmpty then
    .ok { g with file := some word }
  else .error .wrongUsage

def command? (g : Given) : Level → Except Stop Command
  | .generate => (g.file.map Command.generate).elim (.error .wrongUsage) .ok
  | .preview => (g.file.map (Command.preview · (g.format.getD .text))).elim (.error .wrongUsage) .ok
  | .init => .ok (.init g.force)
  | .program => .error .wrongUsage

/-- The options of a run, from what is given before and after the name of its command. What stands
after the name wins, and both win over the variable that may name the settings file. -/
def options (settingsVariable : Option Text) (outer inner : Given) : Options where
  workspace := inner.workspace <|> outer.workspace
  settingsFile := inner.config <|> outer.config <|> settingsVariable
  verbose := if inner.verbose = 0 then outer.verbose else inner.verbose
  quiet := inner.quiet || outer.quiet

end Given

def isOption (argument : Text) : Bool :=
  argument.head? == some '-' && argument != ['-']

/-- Reads the letters of a cluster such as `-qv`. The rest of the cluster is the value of the first
option that takes one; if nothing is left, that option waits for the next argument. -/
def readLetters (level : Level) : Given → Text → Except Stop (Given × Option Flag)
  | g, [] => .ok (g, none)
  | g, c :: rest =>
    match Flag.ofLetter? level c with
    | none => .error .wrongUsage
    | some flag =>
      if flag.takesValue then
        if rest.isEmpty then .ok (g, some flag)
        else do
          let g ← g.noteValue flag (if rest.head? = some '=' then rest.tail else rest)
          return (g, none)
      else do
        let g ← g.note level flag
        readLetters level g rest

def readLong (level : Level) (g : Given) (body : Text) : Except Stop (Given × Option Flag) :=
  let name := body.takeWhile (· != '=')
  let attached := body.dropWhile (· != '=')
  match Flag.ofLong? level name with
  | none => .error .wrongUsage
  | some flag =>
    if flag.takesValue then
      if attached.isEmpty then .ok (g, some flag)
      else do return (← g.noteValue flag attached.tail, none)
    else if attached.isEmpty then do return (← g.note level flag, none)
    else .error .wrongUsage

def readOption (level : Level) (g : Given) (argument : Text) : Except Stop (Given × Option Flag) :=
  if argument.take 2 = ['-', '-'] then readLong level g (argument.drop 2)
  else readLetters level g (argument.drop 1)

/-- Reads the arguments of a level. Before the name of a command the reading ends at the first word;
what is left from there on is given back. -/
def readLevel (level : Level) : Given → List Text → Except Stop (Given × List Text)
  | g, [] => .ok (g, [])
  | g, argument :: rest =>
    if argument = ['-', '-'] then
      if level = .program then .error .wrongUsage
      else do return (← rest.foldlM (·.noteWord level ·) g, [])
    else if isOption argument then
      match readOption level g argument with
      | .error stop => .error stop
      | .ok (g, none) => readLevel level g rest
      | .ok (g, some flag) =>
        match rest with
        | [] => .error .wrongUsage
        | value :: rest =>
          if isOption value then .error .wrongUsage
          else match g.noteValue flag value with
            | .error stop => .error stop
            | .ok g => readLevel level g rest
    else if level = .program then .ok (g, argument :: rest)
    else match g.noteWord level argument with
      | .error stop => .error stop
      | .ok g => readLevel level g rest

/-- Whether help can be had on a list of names. There are no commands below another one. -/
def isHelpTopic : List Text → Bool
  | [] => true
  | [name] => name = "help".toList || (Level.ofName? name).isSome
  | _ => false

/-- The command and options in a list of arguments. An empty variable is wrong wherever it would have to
be looked at. -/
def readArguments (settingsVariable : Option Text) (arguments : List Text) :
    Except Stop (Command × Options) := do
  let (outer, rest) ← readLevel .program {} arguments
  match rest with
  | [] => .error .wrongUsage
  | name :: rest =>
    if name = "help".toList then .error (if isHelpTopic rest then .help else .wrongUsage)
    else match Level.ofName? name with
      | none => .error .wrongUsage
      | some level =>
        let (inner, _) ← readLevel level {} rest
        if settingsVariable = some [] ∧ (outer.config.isNone ∨ inner.config.isNone) then
          .error .wrongUsage
        else
          let command ← inner.command? level
          return (command, Given.options settingsVariable outer inner)

end FluentBuilder.CommandLine
