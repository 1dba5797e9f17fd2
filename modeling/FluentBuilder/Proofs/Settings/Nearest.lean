import FluentBuilder.Proofs.Settings.Search

namespace FluentBuilder

def FileTree.content? (tree : FileTree) (place : Location) (path : Text) : Option Content :=
  match tree.find? place path with
  | some (.file content) => some content
  | _ => none

namespace Settings

open TreeM

variable {env : Environment} {place place' : Location} {tree tree' : FileTree} {root path : Text}
  {paths : List Text} {explicit : Option Text} {content : Content}
  {result : Except SetupError Settings}

def ofContent (env : Environment) : Content → Except SetupError Settings
  | .text document => ofDocument env document
  | .binary => .error (.file FileError.notText.message)

/-- What loading gives, with a file that is asked for or with none, by the files that decide on it. -/
inductive Loads (env : Environment) (root : Text) (place : Location) (tree : FileTree) :
    Option Text → Except SetupError Settings → Prop
  | nearest {before after : List Text} {path : Text} {content : Content}
      (hcut : candidates root = before ++ path :: after)
      (hbefore : ∀ nearer ∈ before, tree.content? place nearer = none)
      (hcontent : tree.content? place path = some content) :
      Loads env root place tree none (ofContent env content)
  | default (hnone : ∀ path ∈ candidates root, tree.content? place path = none) :
      Loads env root place tree none (.ok {})
  | asked {path : Text} {content : Content} (hcontent : tree.content? place path = some content) :
      Loads env root place tree (some path) (ofContent env content)
  | missing {path : Text} (hnone : tree.content? place path = none) :
      Loads env root place tree (some path) (.error (.invalidPath path))

def upToFile (place : Location) (tree : FileTree) : List Text → List Text
  | [] => []
  | path :: paths =>
    if (tree.content? place path).isSome then [path] else path :: upToFile place tree paths

def consulted (root : Text) (place : Location) (tree : FileTree) : Option Text → List Text
  | some path => [path]
  | none => upToFile place tree (candidates root)

/-- The directories from one upwards as they are spelled: the directory itself, and then each time the
one with a name less at its end. -/
structure GoesUp (root : Text) (directories : List Text) : Prop where
  first : directories.head? = some root
  names : directories.map Path.names = Path.upwards (Path.names root)
  isAbsolute : ∀ directory ∈ directories, Path.isAbsolute directory = Path.isAbsolute root

theorem goesUp_ancestors (root : Text) : GoesUp root (Path.ancestors root) where
  first := rfl
  names := Path.map_names_ancestors root
  isAbsolute _ := Path.isAbsolute_of_mem_ancestors

theorem content?_eq_some_iff :
    tree.content? place path = some content ↔ tree.find? place path = some (.file content) := by
  unfold FileTree.content?
  rcases tree.find? place path with _ | _ | _ <;> simp

theorem kind_eq_file_iff :
    (tree.find? place path).map Entry.kind = some .file ↔ (tree.content? place path).isSome := by
  unfold FileTree.content?
  rcases tree.find? place path with _ | _ | _ <;> simp [Entry.kind]

theorem readIn_of_content? (h : tree.content? place path = some content) :
    readIn env place tree path = ofContent env content := by
  rw [content?_eq_some_iff, FileTree.find?] at h
  cases hlocate : tree.locate place path with
  | error e =>
    rw [hlocate] at h
    cases h
  | ok location =>
    have hentry : tree.entry? location = some (.file content) := by
      simpa [hlocate] using h
    rw [readIn_of_locate hlocate, hentry]
    cases content <;> rfl

theorem loaded_some_eq :
    loaded env (some path) root place tree =
      match tree.content? place path with
      | some content => ofContent env content
      | none => .error (.invalidPath path) := by
  simp only [loaded, kind_eq_file_iff]
  cases h : tree.content? place path with
  | none => rfl
  | some content => exact readIn_of_content? h

/-- The search reads the first content that its candidates name. -/
theorem loaded_none_eq :
    loaded env none root place tree =
      match (candidates root).findSome? (tree.content? place) with
      | some content => ofContent env content
      | none => .ok {} := by
  simp only [loaded, firstIn, kind_eq_file_iff]
  generalize candidates root = paths
  induction paths with
  | nil => rfl
  | cons path paths ih =>
    cases h : tree.content? place path with
    | none => simpa [h] using ih
    | some content => simpa [h] using readIn_of_content? h

theorem loads_loaded : Loads env root place tree explicit (loaded env explicit root place tree) := by
  cases explicit with
  | some path =>
    rw [loaded_some_eq]
    cases h : tree.content? place path with
    | none => exact .missing h
    | some content => exact .asked h
  | none =>
    rw [loaded_none_eq]
    cases h : (candidates root).findSome? (tree.content? place) with
    | none => exact .default (List.findSome?_eq_none_iff.mp h)
    | some content =>
      obtain ⟨before, path, after, hcut, hcontent, hbefore⟩ := List.findSome?_eq_some_iff.mp h
      exact .nearest hcut hbefore hcontent

theorem Loads.eq_loaded (h : Loads env root place tree explicit result) :
    result = loaded env explicit root place tree := by
  cases h with
  | nearest hcut hbefore hcontent =>
    rw [loaded_none_eq, List.findSome?_eq_some_iff.mpr ⟨_, _, _, hcut, hcontent, hbefore⟩]
  | default hnone => rw [loaded_none_eq, List.findSome?_eq_none_iff.mpr hnone]
  | asked hcontent => rw [loaded_some_eq, hcontent]
  | missing hnone => rw [loaded_some_eq, hnone]

theorem findSome?_eq_of_upToFile
    (h : ∀ path ∈ upToFile place tree paths, tree.content? place path = tree'.content? place' path) :
    paths.findSome? (tree.content? place) = paths.findSome? (tree'.content? place') := by
  induction paths with
  | nil => rfl
  | cons path paths ih =>
    rw [upToFile] at h
    cases hcontent : tree.content? place path with
    | some content =>
      have hother := h path (by simp [hcontent])
      rw [hcontent] at hother
      simp [hcontent, ← hother]
    | none =>
      simp only [hcontent] at h
      have hother := h path (by simp)
      rw [hcontent] at hother
      simpa [hcontent, ← hother] using ih fun path hpath => h path (by simp [hpath])

theorem loaded_eq_of_consulted (h : ∀ path ∈ consulted root place tree explicit,
      tree.content? place path = tree'.content? place' path) :
    loaded env explicit root place tree = loaded env explicit root place' tree' := by
  cases explicit with
  | some path => rw [loaded_some_eq, loaded_some_eq, h path (List.mem_singleton_self path)]
  | none => rw [loaded_none_eq, loaded_none_eq, findSome?_eq_of_upToFile h]

/-- Loading leaves the tree as it is and gives what the deciding file says. Trees in which the paths
that are looked at name the same contents, or none, give the same settings. -/
theorem load_nearest (env : Environment) (root : Text) (explicit : Option Text) (place : Location)
    (tree : FileTree) :
    GoesUp root (Path.ancestors root) ∧
      (∀ result after, (load env explicit root : TreeM _) place tree = (result, after) ↔
        after = tree ∧ Loads env root place tree explicit result) ∧
      ∀ place' tree', (∀ path ∈ consulted root place tree explicit,
          tree.content? place path = tree'.content? place' path) →
        ((load env explicit root : TreeM _) place tree).1 =
          ((load env explicit root : TreeM _) place' tree').1 := by
  refine ⟨goesUp_ancestors root, fun result after => ?_, fun place' tree' h => ?_⟩
  · rw [run_load, Prod.mk.injEq]
    constructor
    · rintro ⟨rfl, rfl⟩
      exact ⟨rfl, loads_loaded⟩
    · rintro ⟨rfl, h⟩
      exact ⟨h.eq_loaded.symm, rfl⟩
  · rw [run_load, run_load]
    exact loaded_eq_of_consulted h

def nestedTree (inner outer : Content) : FileTree where
  entries := [
    (["a".toList], .directory),
    (["a".toList, "b".toList], .directory),
    (["a".toList, "b".toList, fileName], .directory),
    (["a".toList, fileName], .file inner),
    ([fileName], .file outer)]

/-- The nearest file is no text. That is an error whatever the file at the root may hold. -/
theorem load_nearest_binary :
    (∀ path ∈ consulted "a/b".toList [] (nestedTree .binary (.text [])) none,
      (nestedTree .binary (.text [])).content? [] path =
        (nestedTree .binary .binary).content? [] path) ∧
      ((load (fun _ => none) none "a/b".toList : TreeM _) [] (nestedTree .binary (.text []))).1 =
        ((load (fun _ => none) none "a/b".toList : TreeM _) [] (nestedTree .binary .binary)).1 ∧
      ((load (fun _ => none) none "a/b".toList : TreeM _) [] (nestedTree .binary .binary)).1 =
        .error (.file FileError.notText.message) := by
  have hagree : ∀ path ∈ consulted "a/b".toList [] (nestedTree .binary (.text [])) none,
      (nestedTree .binary (.text [])).content? [] path =
        (nestedTree .binary .binary).content? [] path := by
    decide +kernel
  exact ⟨hagree, (load_nearest (fun _ => none) "a/b".toList none [] _).2.2 [] _ hagree,
    by decide +kernel⟩

end Settings

end FluentBuilder
