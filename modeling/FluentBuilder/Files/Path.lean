import FluentBuilder.Text

namespace FluentBuilder.Path

/-- The path of a file in a directory. The empty path is the working directory. -/
def join (directory name : Text) : Text :=
  if directory.isEmpty then name
  else if directory.getLast? = some '/' then directory ++ name
  else directory ++ '/' :: name

def isAbsolute (path : Text) : Bool :=
  path.head? == some '/'

def names (path : Text) : List Text :=
  (path.pieces '/').filter fun name => name != [] && name != ['.']

def ofNames (absolute : Bool) (names : List Text) : Text :=
  (if absolute then ['/'] else []) ++ ['/'].intercalate names

def initialParts : List Text → List (List Text)
  | [] => [[]]
  | name :: rest => [] :: (initialParts rest).map (name :: ·)

/-- The path itself and then the directories above it, nearest first. The last one is the root, or for
a relative path the working directory. Only the spelling counts: `..` is a name like any other. -/
def ancestors (path : Text) : List Text :=
  path :: ((initialParts (names path)).dropLast.reverse.map (ofNames (isAbsolute path)))

end FluentBuilder.Path
