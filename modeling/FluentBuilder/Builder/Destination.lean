import FluentBuilder.Text

namespace FluentBuilder.Destination

def normalize (path : Text) : Text :=
  path.map fun c => if c = '\\' then '/' else c

def cutAfterLast? (c : Char) : Text → Option (Text × Text)
  | [] => none
  | d :: rest =>
    match cutAfterLast? c rest with
    | some (before, after) => some (d :: before, after)
    | none => if d = c then some ([d], rest) else none

/-- A path cut into its directory, up to and with the last `/`, and its file name. -/
def split (path : Text) : Text × Text :=
  (cutAfterLast? '/' path).getD ([], path)

/-- A file name with `.suffix` before its extension, or at the end if it has none. A dot at the start
of the name begins no extension. So `user.type.ts` becomes `user.type.builder.ts`. -/
def nameWithSuffix (suffix : Text) (name : Text) : Text :=
  match cutAfterLast? '.' name with
  | some (stem, extension) =>
    if stem = ['.'] then name ++ '.' :: suffix else stem ++ suffix ++ '.' :: extension
  | none => name ++ '.' :: suffix

def ofDocument (path suffix : Text) : Text :=
  let (directory, name) := split (normalize path)
  directory ++ nameWithSuffix suffix name

end FluentBuilder.Destination
