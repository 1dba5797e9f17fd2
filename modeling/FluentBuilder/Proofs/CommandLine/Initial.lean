import FluentBuilder.Proofs.CommandLine.Workspace
import FluentBuilder.Proofs.Settings.Nearest
import FluentBuilder.Proofs.Settings.Template

namespace FluentBuilder.CommandLine

open TreeM

variable {place : Location} {tree tree' : FileTree} {here : Surroundings} {options : Options}

def rootOf (here : Surroundings) (options : Options) : Text :=
  options.workspace.getD here.directory

def WorkspaceExists (options : Options) (place : Location) (tree : FileTree) : Prop :=
  ∀ path ∈ options.workspace, tree.find? place path = some .directory

theorem workspaceIn_of_exists (h : WorkspaceExists options place tree) :
    workspaceIn here options place tree = some (rootOf here options) := by
  cases hgiven : options.workspace with
  | none =>
    rw [workspaceIn_of_none hgiven, rootOf, hgiven]
    rfl
  | some path =>
    rw [workspaceIn_of_some hgiven, if_pos (h path hgiven), rootOf, hgiven]
    rfl

theorem initialPath_of_exists (h : WorkspaceExists options place tree) :
    initialPath here options place tree = Path.join (rootOf here options) Settings.fileName := by
  rw [initialPath, workspaceIn_of_exists h]
  rfl

theorem WorkspaceExists.of_write {path text : Text} (h : WorkspaceExists options place tree)
    (hwrite : tree.write place path text = .ok tree') : WorkspaceExists options place tree' :=
  fun directory hgiven => FileTree.find?_directory_of_write hwrite (h directory hgiven)

/-- A settings file at the first path that a search looks at decides. -/
theorem load_of_written {root : Text}
    (h : tree.write place (Path.join root Settings.fileName) template = .ok tree') (env : Environment) :
    (Settings.load env none root : TreeM _) place tree' = (.ok {}, tree') := by
  have hcontent : tree'.content? place (Path.join root Settings.fileName) = some (.text template) :=
    Settings.content?_eq_some_iff.mpr (FileTree.find?_of_write h)
  have hcandidates : Settings.candidates root = Path.join root Settings.fileName ::
    (Settings.candidates root).tail := rfl
  have hfirst : (Settings.candidates root).findSome? (tree'.content? place) = some (.text template) := by
    rw [hcandidates, List.findSome?_cons, hcontent]
  have hloaded : Settings.loaded env none root place tree' = .ok {} := by
    simp only [Settings.loaded_none_eq, hfirst, Settings.ofContent, Settings.ofDocument_default]
  rw [Settings.run_load, hloaded]

/-- Where a settings file has been written, one is written again just if it is forced, and then it is
the same one. -/
theorem initialized_again {root : Text} {force : Bool}
    (h : tree.write place (Path.join root Settings.fileName) template = .ok tree')
    (hpath : initialPath here options place tree' = Path.join root Settings.fileName) :
    initialized here options force place tree' =
      if force then (.ok (Path.join root Settings.fileName), tree')
      else (.error (.setup (.alreadyExists (Path.join root Settings.fileName))), tree') := by
  unfold initialized
  simp only [hpath, FileTree.find?_of_write h, FileTree.write_again h]
  cases force <;> rfl

/-- After a settings file has been written, loading from its directory gives the defaults, whatever
variables are set and whatever other settings files there are. A further run that is to write one
there changes nothing, and succeeds just if it is forced. -/
theorem run_init_restores {arguments : List Text} {force : Bool}
    (hasked : asked here place tree arguments = .ok (.init force, options))
    (hworkspace : WorkspaceExists options place tree)
    (hcode : ((run here arguments : TreeM Outcome) place tree).1.code = 0) :
    let after := ((run here arguments : TreeM Outcome) place tree).2
    (∀ env, (Settings.load env none (rootOf here options) : TreeM _) place after =
      (.ok {}, after)) ∧
    ∀ env arguments' force' options',
      asked { here with environment := env } place after arguments' = .ok (.init force', options') →
      options'.workspace = options.workspace →
        ∃ outcome, (run { here with environment := env } arguments' : TreeM Outcome) place after =
          (outcome, after) ∧ (outcome.code = 0 ↔ force' = true) := by
  intro after
  have hrun := run_init_eq hasked
  -- the run has written the template where the next search looks first
  have hwrite : tree.write place (Path.join (rootOf here options) Settings.fileName) template =
      .ok after := by
    rcases hresult : initialized (here.complete place tree) options force place tree with
      ⟨fault | path, tree'⟩
    · rw [hrun, hresult, fault.code_outcome] at hcode
      cases hcode
    · have hpath : initialPath (here.complete place tree) options place tree =
          Path.join (rootOf here options) Settings.fileName := initialPath_of_exists hworkspace
      have hafter : after = tree' := by
        simp only [after, hrun, hresult]
      rw [hafter, ← hpath]
      exact (initialized_ok hresult).1
  refine ⟨load_of_written hwrite, ?_⟩
  intro env arguments' force' options' hasked' hsame
  -- the workspace is still there, so a further run comes to the same path
  have hexists : WorkspaceExists options' place after := by
    unfold WorkspaceExists
    rw [hsame]
    exact hworkspace.of_write hwrite
  have hpath : initialPath (Surroundings.complete { here with environment := env } place after) options'
      place after = Path.join (rootOf here options) Settings.fileName := by
    rw [initialPath_of_exists hexists, rootOf, rootOf, hsame]
    rfl
  rw [run_init_eq hasked', initialized_again hwrite hpath]
  cases force' with
  | true => exact ⟨_, rfl, iff_of_true rfl rfl⟩
  | false => exact ⟨_, rfl, iff_of_false nofun nofun⟩

/-- Neither the file that is replaced nor the one above it can be read, and the second run finds a
variable gone. -/
theorem run_init_restores_unreadable :
    let here : Surroundings := {
      directory := "/work".toList
      environment := fun name =>
        if name = "TYPEBUILDER_CONFIG".toList then some "other.toml".toList else none }
    let tree : FileTree := {
      entries := [
        (["work".toList], .directory),
        (["work".toList, "sub".toList], .directory),
        (["work".toList, "sub".toList, Settings.fileName], .file .binary),
        (["work".toList, Settings.fileName], .file (.text "[".toList))] }
    let options : Options := {
      workspace := some "sub".toList
      settingsFile := some "other.toml".toList }
    let arguments := ["-w".toList, "sub".toList, "init".toList, "-f".toList]
    let after := ((run here arguments : TreeM Outcome) ["work".toList] tree).2
    asked here ["work".toList] tree arguments = .ok (.init true, options) ∧
      WorkspaceExists options ["work".toList] tree ∧
      ((run here arguments : TreeM Outcome) ["work".toList] tree).1.code = 0 ∧
      (Settings.load here.environment none "sub".toList : TreeM _) ["work".toList] after =
        (.ok {}, after) ∧
      ∃ outcome, (run { here with environment := fun _ => none } (arguments.take 3) : TreeM Outcome)
        ["work".toList] after = (outcome, after) ∧ outcome.code ≠ 0 := by
  intro here tree options arguments after
  have hasked : asked here ["work".toList] tree arguments = .ok (.init true, options) := by
    decide +kernel
  have hworkspace : WorkspaceExists options ["work".toList] tree := by
    rintro _ ⟨⟩
    decide +kernel
  have hcode : ((run here arguments : TreeM Outcome) ["work".toList] tree).1.code = 0 := by
    decide +kernel
  have hasked' : asked { here with environment := fun _ => none } ["work".toList] after
      (arguments.take 3) = .ok (.init false, { options with settingsFile := none }) := by
    decide +kernel
  obtain ⟨hload, hagain⟩ := run_init_restores hasked hworkspace hcode
  obtain ⟨outcome, hagain, hfails⟩ := hagain (fun _ => none) (arguments.take 3) false _ hasked' rfl
  exact ⟨hasked, hworkspace, hcode, hload here.environment, outcome, hagain,
    fun h => Bool.false_ne_true (hfails.mp h)⟩

end FluentBuilder.CommandLine
