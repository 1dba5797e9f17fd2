import FluentBuilder.CommandLine.Run

namespace FluentBuilder.CommandLine

def canOpen (path : String) : IO Bool := do
  try
    discard (IO.FS.Handle.mk path .read)
    return true
  catch _ => return false

def reason : IO.Error → Text
  | .noFileOrDirectory _ code details
  | .permissionDenied (some _) code details
  | .inappropriateType (some _) code details =>
    (details ++ " (os error " ++ toString code ++ ")").toList
  | e => (toString e).toList

instance : FileSystem IO where
  kind? path := do
    if path.isEmpty then return none
    else if ← canOpen (String.ofList path ++ "/.") then return some .directory
    else if ← canOpen (String.ofList path) then return some .file
    else return none
  readText path := do
    try
      match String.fromUTF8? (← IO.FS.readBinFile (String.ofList path)) with
      | some s => return .ok s.toList
      | none => return .error FileError.notText.message
    catch e => return .error (reason e)
  writeText path text := do
    try
      IO.FS.writeFile (String.ofList path) (String.ofList text)
      return .ok ()
    catch e => return .error (reason e)

/-- The variables in a block of `NAME=value` texts, each of which a zero byte ends. A value that is
not text counts as unset. -/
def variablesOfBytes (bytes : List UInt8) : List (Text × Text) :=
  (bytes.splitOn 0).filterMap fun entry =>
    (String.fromUTF8? ⟨entry.toArray⟩).bind fun s =>
      match s.toList.dropWhile (· != '=') with
      | _ :: value => some (s.toList.takeWhile (· != '='), value)
      | [] => none

def processEnvironment : IO Environment := do
  try
    let entries := variablesOfBytes (← IO.FS.readBinFile "/proc/self/environ").toList
    return fun name => entries.lookup name
  catch _ => return fun _ => none

end FluentBuilder.CommandLine

def main (arguments : List String) : IO UInt32 := do
  let directory := (toString (← IO.currentDir)).toList
  let environment ← FluentBuilder.CommandLine.processEnvironment
  let outcome ←
    FluentBuilder.CommandLine.run { directory, environment } (arguments.map String.toList)
  IO.print (String.ofList outcome.stdout)
  IO.eprint (String.ofList outcome.stderr)
  for line in outcome.log do
    let label := if line.severity = .error then "ERROR " else " WARN "
    IO.eprintln (label ++ String.ofList line.message)
  return outcome.code.toUInt32
