import FluentBuilder.Proofs.Files.Location
import FluentBuilder.Proofs.Files.ReadOnly

namespace FluentBuilder.Settings

open TreeM

variable {env : Environment} {place : Location} {tree : FileTree}

def readIn (env : Environment) (place : Location) (tree : FileTree) (path : Text) :
    Except SetupError Settings :=
  match tree.read place path with
  | .error e => .error (.file e.message)
  | .ok document => ofDocument env document

def candidates (directory : Text) : List Text :=
  (Path.ancestors directory).map (Path.join · fileName)

def firstIn (place : Location) (tree : FileTree) (paths : List Text) : Option Text :=
  paths.find? fun path => (tree.find? place path).map Entry.kind = some .file

def loaded (env : Environment) (explicit : Option Text) (directory : Text) (place : Location)
    (tree : FileTree) : Except SetupError Settings :=
  match explicit with
  | some path =>
    if (tree.find? place path).map Entry.kind = some .file then readIn env place tree path
    else .error (.invalidPath path)
  | none =>
    match firstIn place tree (candidates directory) with
    | some path => readIn env place tree path
    | none => .ok {}

def readLines (env : Environment) : Except FileError Text → List LogLine
  | .error e => [.settingsUnreadable e.message]
  | .ok document => documentLines env document

def loadedLines (env : Environment) (explicit : Option Text) (directory : Text) (place : Location)
    (tree : FileTree) : List LogLine :=
  match explicit with
  | some path =>
    if (tree.find? place path).map Entry.kind = some .file then readLines env (tree.read place path)
    else [.settingsNotFound path]
  | none =>
    match firstIn place tree (candidates directory) with
    | some path => readLines env (tree.read place path)
    | none => []

theorem run_readFile (env : Environment) (path : Text) (place : Location) (tree : FileTree) :
    (readFile env path : TreeM _) place tree =
      ((readIn env place tree path, readLines env (tree.read place path)), tree) := by
  have hread : (FileSystem.readText path : TreeM _) place tree =
    ((tree.read place path).mapError FileError.message, tree) := rfl
  refine (run_bind _ hread).trans ?_
  unfold readIn
  cases tree.read place path with
  | error e => rfl
  | ok document => rfl

theorem run_firstFile? (paths : List Text) (place : Location) (tree : FileTree) :
    (firstFile? paths : TreeM _) place tree = (firstIn place tree paths, tree) := by
  induction paths with
  | nil => rfl
  | cons path paths ih =>
    have hkind : (FileSystem.kind? path : TreeM _) place tree =
      ((tree.find? place path).map Entry.kind, tree) := rfl
    refine (run_bind _ hkind).trans ?_
    by_cases hfile : (tree.find? place path).map Entry.kind = some .file
    · rw [if_pos hfile, firstIn, List.find?_cons_of_pos (by simpa using hfile)]
      rfl
    · rw [if_neg hfile, firstIn, List.find?_cons_of_neg (by simpa using hfile)]
      exact ih

theorem run_loadLogged (env : Environment) (explicit : Option Text) (directory : Text)
    (place : Location) (tree : FileTree) :
    (loadLogged env explicit directory : TreeM _) place tree =
      ((loaded env explicit directory place tree, loadedLines env explicit directory place tree),
        tree) := by
  cases explicit with
  | some path =>
    have hkind : (FileSystem.kind? path : TreeM _) place tree =
      ((tree.find? place path).map Entry.kind, tree) := rfl
    refine (run_bind _ hkind).trans ?_
    by_cases hfile : (tree.find? place path).map Entry.kind = some .file
    · simp only [loaded, loadedLines, hfile, if_true]
      exact run_readFile env path place tree
    · simp only [loaded, loadedLines, hfile, if_false]
      rfl
  | none =>
    have hfound := run_firstFile? (candidates directory) place tree
    refine (run_bind _ hfound).trans ?_
    unfold loaded loadedLines
    cases firstIn place tree (candidates directory) with
    | some path => exact run_readFile env path place tree
    | none => rfl

theorem run_load (env : Environment) (explicit : Option Text) (directory : Text) (place : Location)
    (tree : FileTree) :
    (load env explicit directory : TreeM _) place tree =
      (loaded env explicit directory place tree, tree) :=
  run_bind _ (run_loadLogged env explicit directory place tree)

def held (env : Environment) : Option Entry → Except SetupError Settings
  | none => .error (.file FileError.notFound.message)
  | some .directory => .error (.file FileError.isDirectory.message)
  | some (.file .binary) => .error (.file FileError.notText.message)
  | some (.file (.text document)) => ofDocument env document

def heldText : Option Entry → Except FileError Text
  | none => .error .notFound
  | some .directory => .error .isDirectory
  | some (.file .binary) => .error .notText
  | some (.file (.text document)) => .ok document

theorem read_of_locate {path : Text} {location : Location}
    (h : tree.locate place path = .ok location) :
    tree.read place path = heldText (tree.entry? location) := by
  rw [FileTree.read, h]
  simp only [bind, Except.bind]
  rcases tree.entry? location with _ | _ | _ | _ <;> rfl

theorem readIn_of_locate {path : Text} {location : Location}
    (h : tree.locate place path = .ok location) :
    readIn env place tree path = held env (tree.entry? location) := by
  rw [readIn, read_of_locate h]
  rcases tree.entry? location with _ | _ | _ | _ <;> rfl

def nearest? (tree : FileTree) (directories : List Location) : Option Location :=
  (directories.map (· ++ [fileName])).find? (tree.IsFile ·)

/-- The paths look for a settings file in the directories. -/
def LeadTo (place : Location) (tree : FileTree) (paths : List Text)
    (directories : List Location) : Prop :=
  List.Forall₂ (fun path directory =>
    tree.locate place (Path.join path fileName) = .ok (directory ++ [fileName])) paths directories

variable {paths : List Text} {directories : List Location}

theorem kind_of_locate {path : Text} {location : Location}
    (h : tree.locate place path = .ok location) :
    (tree.find? place path).map Entry.kind = some .file ↔ tree.IsFile location := by
  rw [FileTree.find?, h, FileTree.IsFile]

theorem firstIn_of_leadTo (h : LeadTo place tree paths directories) :
    (nearest? tree directories = none ∧ firstIn place tree (paths.map (Path.join · fileName)) = none) ∨
    ∃ path location, nearest? tree directories = some location ∧
      firstIn place tree (paths.map (Path.join · fileName)) = some path ∧
      tree.locate place path = .ok location := by
  induction h with
  | nil => exact Or.inl ⟨rfl, rfl⟩
  | @cons path directory paths directories hpath _ ih =>
    have hkind := kind_of_locate hpath
    simp only [nearest?, firstIn, List.map_cons] at ih ⊢
    by_cases hfile : tree.IsFile (directory ++ [fileName])
    · rw [List.find?_cons_of_pos (by simpa using hfile),
        List.find?_cons_of_pos (by simpa using hkind.mpr hfile)]
      exact Or.inr ⟨_, _, rfl, rfl, hpath⟩
    · rw [List.find?_cons_of_neg (by simpa using hfile),
        List.find?_cons_of_neg (by simpa using mt hkind.mp hfile)]
      exact ih

def fromNearest (env : Environment) (tree : FileTree) (directories : List Location) :
    Except SetupError Settings :=
  match nearest? tree directories with
  | some location => held env (tree.entry? location)
  | none => .ok {}

/-- Loading without a file that is asked for looks no further than the nearest settings file. -/
theorem loaded_none {start : Text} (h : LeadTo place tree (Path.ancestors start) directories) :
    loaded env none start place tree = fromNearest env tree directories := by
  rcases firstIn_of_leadTo h with ⟨hnone, hfirst⟩ | ⟨path, location, hsome, hfirst, hpath⟩
  · simp only [loaded, candidates, fromNearest, hfirst, hnone]
  · simp only [loaded, candidates, fromNearest, hfirst, hsome, readIn_of_locate hpath]

/-- Nor does it log anything about another one. -/
theorem loadedLines_none {start : Text} (h : LeadTo place tree (Path.ancestors start) directories) :
    loadedLines env none start place tree =
      match nearest? tree directories with
      | some location => readLines env (heldText (tree.entry? location))
      | none => [] := by
  rcases firstIn_of_leadTo h with ⟨hnone, hfirst⟩ | ⟨path, location, hsome, hfirst, hpath⟩
  · simp only [loadedLines, candidates, hfirst, hnone]
  · simp only [loadedLines, candidates, hfirst, hsome, read_of_locate hpath]

theorem load_none {start : Text} (h : LeadTo place tree (Path.ancestors start) directories) :
    (load env none start : TreeM _) place tree = (fromNearest env tree directories, tree) := by
  rw [run_load, loaded_none h]

def foundFrom (directory : Text) (place : Location) (tree : FileTree) :
    Option (Except FileError Location) :=
  ((firstFile? (candidates directory) : TreeM _) place tree).1.map (tree.locate place)

theorem foundFrom_of_leadTo {start : Text}
    (h : LeadTo place tree (Path.ancestors start) directories) :
    foundFrom start place tree = (nearest? tree directories).map .ok := by
  rw [foundFrom, run_firstFile?]
  rcases firstIn_of_leadTo h with ⟨hnone, hfirst⟩ | ⟨path, location, hsome, hfirst, hpath⟩
  · simp only [candidates, hfirst, hnone, Option.map_none]
  · simp only [candidates, hfirst, hsome, Option.map_some, hpath]

/-- A search upwards gets no further than its first directory: it ends there, or finds nothing above. -/
def SearchEndsAt (tree : FileTree) (directory : Location) : Prop :=
  tree.IsFile (directory ++ [fileName]) ∨
    ∀ above, above <+: directory → above ≠ directory → ¬ tree.IsFile (above ++ [fileName])

theorem nearest?_eq_none :
    nearest? tree directories = none ↔
      ∀ directory ∈ directories, ¬ tree.IsFile (directory ++ [fileName]) := by
  simp [nearest?]

theorem nearest?_cons_of_isFile {directory : Location} (h : tree.IsFile (directory ++ [fileName])) :
    nearest? tree (directory :: directories) = some (directory ++ [fileName]) := by
  rw [nearest?, List.map_cons, List.find?_cons_of_pos (by simpa using h)]

theorem nearest?_cons_of_not_isFile {directory : Location}
    (h : ¬ tree.IsFile (directory ++ [fileName])) :
    nearest? tree (directory :: directories) = nearest? tree directories := by
  rw [nearest?, List.map_cons, List.find?_cons_of_neg (by simpa using h), nearest?]

theorem nearest?_singleton_eq_upwards (directory : Location) :
    nearest? tree [directory] = nearest? tree (Path.upwards directory) ↔
      SearchEndsAt tree directory := by
  rw [Path.upwards_eq_cons]
  by_cases hown : tree.IsFile (directory ++ [fileName])
  · rw [nearest?_cons_of_isFile hown, nearest?_cons_of_isFile hown]
    exact iff_of_true rfl (Or.inl hown)
  · rw [nearest?_cons_of_not_isFile hown, nearest?_cons_of_not_isFile hown, SearchEndsAt,
      or_iff_right hown]
    have hnil : nearest? tree [] = none := rfl
    rw [hnil, eq_comm, nearest?_eq_none]
    simp only [List.mem_reverse, Path.mem_dropLast_inits, and_imp]

end FluentBuilder.Settings
