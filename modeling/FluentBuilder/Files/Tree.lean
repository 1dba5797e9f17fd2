import FluentBuilder.Files.Path

namespace FluentBuilder

/-- The names that lead from the root to a place. -/
abbrev Location := List Text

inductive Content where
  | text (t : Text)
  /-- Bytes that are not the UTF-8 form of any text. -/
  | binary
deriving DecidableEq, Repr

inductive Entry where
  | directory
  | file (content : Content)
deriving DecidableEq, Repr

/-- A file tree without links, as the entries at all places but the root. -/
structure FileTree where
  entries : List (Location × Entry) := []
deriving Repr

inductive FileError where
  | notFound
  | notDirectory
  | isDirectory
  | notText
deriving DecidableEq, Repr

def FileError.message : FileError → Text
  | .notFound => "No such file or directory (os error 2)".toList
  | .notDirectory => "Not a directory (os error 20)".toList
  | .isDirectory => "Is a directory (os error 21)".toList
  | .notText => "stream did not contain valid UTF-8".toList

namespace FileTree

/-- The entry at a place. The root is always a directory. -/
def entry? (tree : FileTree) : Location → Option Entry
  | [] => some .directory
  | location => tree.entries.lookup location

def set (tree : FileTree) (location : Location) (entry : Entry) : FileTree where
  entries := insert tree.entries
where
  insert : List (Location × Entry) → List (Location × Entry)
    | [] => [(location, entry)]
    | (l, e) :: rest => if l = location then (location, entry) :: rest else (l, e) :: insert rest

def addDirectories (tree : FileTree) (location : Location) : FileTree :=
  (Path.initialParts location).foldl
    (fun tree l => if (tree.entry? l).isNone then tree.set l .directory else tree) tree

def addFile (tree : FileTree) (location : Location) (content : Content) : FileTree :=
  (tree.addDirectories location.dropLast).set location (.file content)

/-- The place that names lead to. Every step needs a directory to start from; the place itself may be
empty. -/
def walk (tree : FileTree) (here : Location) : List Text → Except FileError Location
  | [] => .ok here
  | name :: rest =>
    match tree.entry? here with
    | none => .error .notFound
    | some (.file _) => .error .notDirectory
    | some .directory =>
      if name = [] ∨ name = ['.'] then walk tree here rest
      else if name = ['.', '.'] then walk tree here.dropLast rest
      else walk tree (here ++ [name]) rest

def locate (tree : FileTree) (directory : Location) (path : Text) : Except FileError Location :=
  if path.isEmpty then .error .notFound
  else tree.walk (if Path.isAbsolute path then [] else directory) (path.pieces '/')

def find? (tree : FileTree) (directory : Location) (path : Text) : Option Entry :=
  match tree.locate directory path with
  | .ok location => tree.entry? location
  | .error _ => none

def read (tree : FileTree) (directory : Location) (path : Text) : Except FileError Text := do
  match tree.entry? (← tree.locate directory path) with
  | none => .error .notFound
  | some .directory => .error .isDirectory
  | some (.file .binary) => .error .notText
  | some (.file (.text t)) => .ok t

def write (tree : FileTree) (directory : Location) (path text : Text) :
    Except FileError FileTree := do
  let location ← tree.locate directory path
  match tree.entry? location with
  | some .directory => .error .isDirectory
  | _ => .ok (tree.set location (.file (.text text)))

end FileTree

end FluentBuilder
