import FluentBuilder.Files.Tree

namespace FluentBuilder

inductive Kind where
  | file
  | directory
deriving DecidableEq, Repr

/-- File operations that act in `m`. Paths are taken from the working directory, and an operation that
fails gives the reason. A real disk has them, and so has a file tree that is a value. -/
class FileSystem (m : Type → Type) where
  kind? : (path : Text) → m (Option Kind)
  readText : (path : Text) → m (Except Text Text)
  writeText : (path text : Text) → m (Except Text Unit)

def Entry.kind : Entry → Kind
  | .directory => .directory
  | .file _ => .file

/-- Acts on a file tree from a working directory in it. -/
abbrev TreeM := ReaderT Location (StateM FileTree)

instance : FileSystem TreeM where
  kind? path := fun directory tree => ((tree.find? directory path).map Entry.kind, tree)
  readText path := fun directory tree =>
    ((tree.read directory path).mapError FileError.message, tree)
  writeText path text := fun directory tree =>
    match tree.write directory path text with
    | .ok tree => (.ok (), tree)
    | .error e => (.error e.message, tree)

end FluentBuilder
