import FluentBuilder.Proofs.CommandLine.Arguments
import FluentBuilder.Proofs.CommandLine.Commands
import FluentBuilder.Proofs.Settings.Search
import Mathlib.Data.List.Forall2

namespace FluentBuilder.CommandLine

open TreeM

variable {place : Location} {tree : FileTree} {here : Surroundings} {options : Options}
variable {file : Text} {command : Command}

/-- A run takes place in a directory of the tree, and knows its absolute path. -/
structure Surroundings.At (here : Surroundings) (place : Location) (tree : FileTree) : Prop where
  path : here.directory = Path.ofNames true place
  names : ∀ name ∈ place, Path.IsName name
  directory : tree.entry? place = some .directory

theorem isName_fileName : Path.IsName Settings.fileName := by
  decide

theorem Surroundings.At.locate (hat : here.At place tree) (htree : tree.Closed) :
    tree.locate place here.directory = .ok place := by
  rw [hat.path]
  exact FileTree.locate_ofNames htree hat.names hat.directory

theorem Surroundings.At.locate_dot (hat : here.At place tree) :
    tree.locate place ['.'] = .ok place := by
  have hpieces : Text.pieces '/' ['.'] = [['.']] := rfl
  rw [FileTree.locate_eq_walk (List.cons_ne_nil _ _), hpieces]
  simp [FileTree.start, Path.isAbsolute, FileTree.walk, hat.directory]

theorem Surroundings.At.leadTo_directory (hat : here.At place tree) (htree : tree.Closed) :
    Settings.LeadTo place tree (Path.ancestors here.directory) (Path.upwards place) := by
  rw [hat.path, Path.ancestors_ofNames hat.names, Settings.LeadTo, List.forall₂_map_left_iff,
    List.forall₂_same]
  intro above habove
  have hinitial : above <+: place := Path.mem_upwards.mp habove
  have hdirectory := FileTree.entry?_of_prefix htree hat.directory hinitial
  have hnames : ∀ name ∈ above, Path.IsName name := fun name hname =>
    hat.names name (hinitial.subset hname)
  exact FileTree.locate_join (FileTree.locate_ofNames htree hnames hdirectory) hdirectory
    isName_fileName

theorem Surroundings.At.leadTo_dot (hat : here.At place tree) :
    Settings.LeadTo place tree (Path.ancestors ['.']) [place] := by
  have hancestors : Path.ancestors ['.'] = [['.']] := by decide
  rw [hancestors, Settings.LeadTo, List.forall₂_cons]
  exact ⟨FileTree.locate_join hat.locate_dot hat.directory isName_fileName, List.Forall₂.nil⟩

theorem workspaceIn_of_none (h : options.workspace = none) :
    workspaceIn here options place tree = some here.directory := by
  rw [workspaceIn, workspace?, h]
  rfl

theorem workspaceIn_of_some {path : Text} (h : options.workspace = some path) :
    workspaceIn here options place tree =
      if tree.find? place path = some .directory then some path else none := by
  have hkind : (FileSystem.kind? path : TreeM _) place tree =
    ((tree.find? place path).map Entry.kind, tree) := rfl
  have hworkspace : (workspace? here options : TreeM _) = (do
      if (← FileSystem.kind? path) = some .directory then return some path else return none) := by
    unfold workspace?
    rw [h]
  rw [workspaceIn, hworkspace, TreeM.run_bind _ hkind]
  rcases tree.find? place path with _ | _ | content
  · rfl
  · rfl
  · rfl

theorem workspaceIn_dot (hat : here.At place tree) (hnone : options.workspace = none) :
    workspaceIn here (options.within ['.']) place tree = some ['.'] := by
  have hdot : tree.find? place ['.'] = some .directory := by
    rw [FileTree.find?, hat.locate_dot]
    exact hat.directory
  have hworkspace : (options.within ['.']).workspace = some ['.'] := by
    rw [Options.within, hnone]
    rfl
  rw [workspaceIn_of_some hworkspace, if_pos hdot]

theorem loaded_dot (hat : here.At place tree) (htree : tree.Closed) (env : Environment)
    {explicit : Option Text} (h : Settings.SearchEndsAt tree place ∨ explicit ≠ none) :
    Settings.loaded env explicit ['.'] place tree =
        Settings.loaded env explicit here.directory place tree ∧
      Settings.loadedLines env explicit ['.'] place tree =
        Settings.loadedLines env explicit here.directory place tree := by
  cases explicit with
  | some path => exact ⟨rfl, rfl⟩
  | none =>
    have hnearest := (Settings.nearest?_singleton_eq_upwards place).mpr
      (h.resolve_right (fun hnone => hnone rfl))
    have hdot := hat.leadTo_dot
    have hupwards := hat.leadTo_directory htree
    constructor
    · rw [Settings.loaded_none hdot, Settings.loaded_none hupwards, Settings.fromNearest,
        Settings.fromNearest, hnearest]
    · rw [Settings.loadedLines_none hdot, Settings.loadedLines_none hupwards, hnearest]

theorem settingsIn_dot (hat : here.At place tree) (htree : tree.Closed)
    (hnone : options.workspace = none)
    (h : Settings.SearchEndsAt tree place ∨ options.settingsFile ≠ none) :
    settingsIn here (options.within ['.']) place tree = settingsIn here options place tree := by
  rw [settingsIn_eq, settingsIn_eq, workspaceIn_dot hat hnone, workspaceIn_of_none hnone]
  exact congrArg some (loaded_dot hat htree here.environment h).1

theorem generateLines_dot (file : Text) (hat : here.At place tree) (htree : tree.Closed)
    (hnone : options.workspace = none)
    (h : Settings.SearchEndsAt tree place ∨ options.settingsFile ≠ none) :
    generateLines here (options.within ['.']) file place tree =
      generateLines here options file place tree := by
  have hfound : foundLines here (options.within ['.']) place tree =
      foundLines here options place tree := by
    rw [foundLines, foundLines, settingsLines, settingsLines, workspaceIn_dot hat hnone,
      workspaceIn_of_none hnone]
    exact (loaded_dot hat htree here.environment h).2
  rw [generateLines, generateLines, hfound, settingsIn_dot hat htree hnone h]

theorem previewLines_dot (file : Text) (hat : here.At place tree) (htree : tree.Closed)
    (hnone : options.workspace = none)
    (h : Settings.SearchEndsAt tree place ∨ options.settingsFile ≠ none) :
    previewLines here (options.within ['.']) file place tree =
      previewLines here options file place tree := by
  rw [previewLines, previewLines, generateLines_dot file hat htree hnone h, workspaceIn_dot hat hnone,
    workspaceIn_of_none hnone]
  rfl

theorem Surroundings.At.complete (hat : here.At place tree) : (here.complete place tree).At place tree :=
  ⟨hat.path, hat.names, hat.directory⟩

theorem within_of_some {path workspace : Text} (h : options.workspace = some path) :
    options.within workspace = options := by
  rw [Options.within, h]
  cases options
  cases h
  rfl

section Runs

variable {arguments arguments' before after : List Text} {name : Text} {outer : Given} {level : Level}

-- Only a generation and a preview look for settings, and nothing else in them depends on the spelling
-- of the workspace.
theorem run_of_asked_within (htree : tree.Closed) (hat : here.At place tree)
    (hasked : asked here place tree arguments' =
      (asked here place tree arguments).map fun (command, options) => (command, options.within ['.']))
    (hcommand : ∀ force options, asked here place tree arguments ≠ .ok (.init force, options))
    (h : Settings.SearchEndsAt tree place ∨ ∀ command options,
      asked here place tree arguments = .ok (command, options) → options.settingsFile ≠ none) :
    (run here arguments' : TreeM Outcome) place tree =
      (run here arguments : TreeM Outcome) place tree := by
  cases hplain : asked here place tree arguments with
  | error stop =>
    rw [hplain] at hasked
    rw [run_of_stop hplain, run_of_stop hasked]
  | ok read =>
    obtain ⟨command, options⟩ := read
    rw [hplain] at hasked
    replace hasked : asked here place tree arguments' = .ok (command, options.within ['.']) := hasked
    cases hgiven : options.workspace with
    -- an explicit workspace is not replaced by the dot
    | some path =>
      rw [within_of_some hgiven, ← hplain] at hasked
      exact run_congr hasked
    | none =>
      have hends := h.imp_right fun hfile => hfile command options hplain
      have hsettings := settingsIn_dot hat.complete htree hgiven hends
      have hfilter : (here.complete place tree).logFilter (options.within ['.']) =
        (here.complete place tree).logFilter options := rfl
      cases command with
      | generate file =>
        have hquiet : (options.within ['.']).quiet = options.quiet := rfl
        have hlines := generateLines_dot file hat.complete htree hgiven hends
        rw [run_generate_eq hplain, run_generate_eq hasked, hsettings, hlines, hfilter, hquiet]
      | preview file format =>
        have hlines := previewLines_dot file hat.complete htree hgiven hends
        rw [run_preview_eq hplain, run_preview_eq hasked, hsettings, hlines, hfilter]
      | init force => exact absurd hplain (hcommand force options)

theorem asked_ne_init (hbefore : readLevel .program {} before = .ok (outer, []))
    (hname : Level.ofName? name = some level) (hlevel : level ≠ .init) (force : Bool) :
    asked here place tree (before ++ name :: after) ≠ .ok (.init force, options) := by
  intro hasked
  replace hasked := readArguments_of_asked hasked
  cases hafter : readLevel level {} after with
  | error stop =>
    rw [readArguments_append_error hbefore hname hafter] at hasked
    cases hasked
  | ok read =>
    obtain ⟨inner, rest⟩ := read
    rw [readArguments_append hbefore hname hafter] at hasked
    split_ifs at hasked
    cases hcommand : inner.command? level with
    | error stop =>
      rw [hcommand] at hasked
      cases hasked
    | ok command =>
      rw [hcommand] at hasked
      cases hasked
      exact hlevel (level_eq_init hcommand)

/-- Naming the working directory by a dot changes nothing of a generation or a preview where a search
for settings gets no further than the working directory, or is not made. A search from the dot goes no
higher, so that in any other place it misses the settings file that is found without the dot. -/
theorem run_workspace_dot (after : List Text) (htree : tree.Closed) (hat : here.At place tree)
    (hbefore : readLevel .program {} before = .ok (outer, [])) (houter : outer.workspace = none)
    (hname : Level.ofName? name = some level) (hlevel : level ≠ .init) :
    (Settings.foundFrom ['.'] place tree = Settings.foundFrom here.directory place tree ↔
      Settings.SearchEndsAt tree place) ∧
    ((Settings.SearchEndsAt tree place ∨ ∀ command options,
        asked here place tree (before ++ name :: after) = .ok (command, options) →
          options.settingsFile ≠ none) →
      (run here ("--workspace".toList :: ['.'] :: (before ++ name :: after)) : TreeM Outcome)
          place tree =
        (run here (before ++ name :: after) : TreeM Outcome) place tree ∧
      ∀ inner, readLevel level {} after = .ok (inner, []) → inner.workspace = none →
        (run here (before ++ name :: "--workspace".toList :: ['.'] :: after) : TreeM Outcome)
            place tree =
          (run here (before ++ name :: after) : TreeM Outcome) place tree) ∧
    ∀ env,
      (Settings.load env none ['.'] : TreeM _) place tree =
        (Settings.fromNearest env tree [place], tree) ∧
      (Settings.load env none here.directory : TreeM _) place tree =
        (Settings.fromNearest env tree (Path.upwards place), tree) := by
  have hdot := hat.leadTo_dot
  have hupwards := hat.leadTo_directory htree
  have hne : ['.'] ≠ ([] : Text) := List.cons_ne_nil _ _
  have hword : isOption ['.'] = false := by decide
  have hcommand : ∀ force options,
      asked here place tree (before ++ name :: after) ≠ .ok (.init force, options) :=
    fun force options => asked_ne_init hbefore hname hlevel force
  refine ⟨?_, fun hends => ⟨?_, fun inner hinner hnone => ?_⟩, fun env => ⟨?_, ?_⟩⟩
  · rw [Settings.foundFrom_of_leadTo hdot, Settings.foundFrom_of_leadTo hupwards,
      ← Settings.nearest?_singleton_eq_upwards]
    exact (Option.map_injective fun _ _ => Except.ok.inj).eq_iff
  · refine run_of_asked_within htree hat (asked_map _ fun _ => ?_) hcommand hends
    exact readArguments_workspace_cons hne hword hbefore houter hname
  · refine run_of_asked_within htree hat (asked_map _ fun _ => ?_) hcommand hends
    exact readArguments_workspace_after hne hword hbefore houter hname hinner hnone
  · exact Settings.load_none hdot
  · exact Settings.load_none hupwards

end Runs

def workTree (settings : List Location) : FileTree where
  entries :=
    (["work".toList], .directory) ::
    (["work".toList, "user.ts".toList],
      .file (.text "export type User = \x7b name: string \x7d".toList)) ::
    settings.map fun above =>
      (above ++ [Settings.fileName], .file (.text "[generator]\nsetter_prefix = \"set\"\n".toList))

theorem run_workspace_dot_preview :
    let here : Surroundings := { directory := "/work".toList, environment := fun _ => none }
    let tree := workTree [["work".toList]]
    Settings.foundFrom ['.'] ["work".toList] tree =
      Settings.foundFrom "/work".toList ["work".toList] tree ∧
    (run here ["--workspace".toList, ".".toList, "-v".toList, "preview".toList, "user.ts".toList] :
        TreeM Outcome) ["work".toList] tree =
      (run here ["-v".toList, "preview".toList, "user.ts".toList] : TreeM Outcome)
        ["work".toList] tree := by
  intro here tree
  have hat : here.At ["work".toList] tree := ⟨by decide, by decide, by decide⟩
  have hends : Settings.SearchEndsAt tree ["work".toList] := Or.inl (by decide)
  obtain ⟨hfound, hruns, -⟩ := run_workspace_dot ["user.ts".toList]
    (by decide : tree.Closed) hat
    (rfl : readLevel .program {} ["-v".toList] = .ok ({ verbose := 1 }, [])) rfl
    (rfl : Level.ofName? "preview".toList = some .preview) (by decide)
  exact ⟨hfound.mpr hends, (hruns (Or.inl hends)).1⟩

/-- A settings file above the working directory is missed by a search from the dot. -/
theorem workspace_dot_misses_settings :
    let here : Surroundings := { directory := "/work".toList, environment := fun _ => none }
    let tree := workTree [[]]
    Settings.foundFrom ['.'] ["work".toList] tree = none ∧
    Settings.foundFrom "/work".toList ["work".toList] tree = some (.ok [Settings.fileName]) ∧
    ((run here ["preview".toList, "user.ts".toList] : TreeM Outcome) ["work".toList] tree).1 ≠
      ((run here ["--workspace".toList, ".".toList, "preview".toList, "user.ts".toList] :
        TreeM Outcome) ["work".toList] tree).1 := by
  decide +kernel

theorem initialized_of_locate {location : Location} {force : Bool}
    (h : tree.locate place (initialPath here options place tree) = .ok location) :
    initialized here options force place tree =
      if tree.entry? location ≠ none ∧ force = false then
        (.error (.setup (.alreadyExists (initialPath here options place tree))), tree)
      else if tree.entry? location = some .directory then
        (.error (.setup (.file FileError.isDirectory.message)), tree)
      else
        (.ok (initialPath here options place tree),
          tree.set location (.file (.text template))) := by
  unfold initialized
  simp only [FileTree.find?_of_locate h, FileTree.write_of_locate h]
  rcases tree.entry? location with _ | _ | content <;> cases force <;> rfl

section BadWorkspace

variable {path : Text} {arguments : List Text}

theorem workspaceIn_eq_none (hgiven : options.workspace = some path)
    (hbad : tree.find? place path ≠ some .directory) :
    workspaceIn here options place tree = none := by
  rw [workspaceIn_of_some hgiven, if_neg hbad]

theorem workspaceLines_none (hgiven : options.workspace = some path) :
    workspaceLines options none = [.noDirectory path] := by
  rw [workspaceLines, hgiven]
  rfl

theorem run_eq_noWorkspace (hasked : asked here place tree arguments = .ok (command, options))
    (hgiven : options.workspace = some path) (hbad : tree.find? place path ≠ some .directory)
    (hcommand : ∀ force, command ≠ .init force) :
    (run here arguments : TreeM Outcome) place tree =
      ({ code := 1, stderr := Failure.noWorkspace.message ++ ['\n'],
         log := [LogLine.noDirectory path].filter ((here.complete place tree).logFilter options) },
        tree) := by
  have hnone : workspaceIn (here.complete place tree) options place tree = none :=
    workspaceIn_eq_none hgiven hbad
  have hsettings : settingsIn (here.complete place tree) options place tree = none := by
    rw [settingsIn, hnone]
    rfl
  have hlines : ∀ file, generateLines (here.complete place tree) options file place tree =
      [.noDirectory path] := by
    intro file
    rw [generateLines, hsettings, foundLines, settingsLines, hnone, workspaceLines_none hgiven]
    rfl
  cases command with
  | generate file =>
    rw [run_generate_eq hasked, hsettings, hlines]
    rfl
  | preview file format =>
    have hpreview : previewLines (here.complete place tree) options file place tree =
        [.noDirectory path] := by
      rw [previewLines, hlines, hnone, workspaceLines_none hgiven]
      cases opened file place tree <;> rfl
    rw [run_preview_eq hasked, hsettings, hpreview]
    rfl
  | init force => exact absurd rfl (hcommand force)

theorem initialPath_of_none (h : workspaceIn here options place tree = none) :
    initialPath here options place tree = Path.join here.directory Settings.fileName := by
  rw [initialPath, h]
  rfl

/-- The settings file of the working directory. -/
theorem Surroundings.At.locate_settings (hat : here.At place tree) (htree : tree.Closed) :
    tree.locate place (Path.join here.directory Settings.fileName) =
      .ok (place ++ [Settings.fileName]) :=
  FileTree.locate_join (hat.locate htree) hat.directory isName_fileName

/-- Without a workspace, settings are written unless something in the working directory is in the way. -/
theorem run_init_fails_iff {force : Bool} (htree : tree.Closed) (hat : here.At place tree)
    (hasked : asked here place tree arguments = .ok (.init force, options))
    (hnone : workspaceIn (here.complete place tree) options place tree = none) :
    let after : Outcome × FileTree := (run here arguments : TreeM Outcome) place tree
    let own := tree.entry? (place ++ [Settings.fileName])
    after.1.code ≠ 0 ∧ after.2 = tree ↔ own = some .directory ∨ own ≠ none ∧ force = false := by
  intro after own
  have hlocate : tree.locate place (initialPath (here.complete place tree) options place tree) =
      .ok (place ++ [Settings.fileName]) := by
    rw [initialPath_of_none hnone]
    exact hat.complete.locate_settings htree
  have hafter : after = (run here arguments : TreeM Outcome) place tree := rfl
  rw [run_init_eq hasked, initialized_of_locate hlocate] at hafter
  -- what is there already stops the run, and a directory does so even when forced
  by_cases hthere : own ≠ none ∧ force = false
  · rw [if_pos hthere] at hafter
    rw [hafter]
    exact iff_of_true ⟨Nat.one_ne_zero, rfl⟩ (Or.inr hthere)
  · rw [if_neg hthere] at hafter
    by_cases hdirectory : own = some .directory
    · rw [if_pos hdirectory] at hafter
      rw [hafter]
      exact iff_of_true ⟨Nat.one_ne_zero, rfl⟩ (Or.inl hdirectory)
    · rw [if_neg hdirectory] at hafter
      rw [hafter]
      refine iff_of_false (fun h => h.1 rfl) ?_
      rintro (h | h)
      · exact hdirectory h
      · exact hthere h

theorem Fault.outcome_append (shows : LogFilter) (lines more : List LogLine) (fault : Fault) :
    fault.outcome shows (lines ++ more) =
      { fault.outcome shows more with log := lines.filter shows ++ (fault.outcome shows more).log } := by
  cases fault with
  | failure f => simp only [Fault.outcome, List.filter_append]
  | setup e => simp only [Fault.outcome, List.filter_append, List.append_assoc]

/-- Settings are written as if no workspace were named, but for a line in the log. -/
theorem run_init_bad {force : Bool} {arguments' : List Text}
    (hasked : asked here place tree arguments = .ok (.init force, options))
    (hgiven : options.workspace = some path)
    (hnone : workspaceIn (here.complete place tree) options place tree = none)
    (hasked' : asked here place tree arguments' =
      .ok (.init force, { options with workspace := none })) :
    let plain : Outcome × FileTree := (run here arguments' : TreeM Outcome) place tree
    (run here arguments : TreeM Outcome) place tree =
      ({ plain.1 with
          log := [LogLine.noDirectory path].filter ((here.complete place tree).logFilter options) ++
            plain.1.log }, plain.2) := by
  intro plain
  -- without a workspace the file goes to the working directory, just as if none were named
  have hpath : initialPath (here.complete place tree) { options with workspace := none } place tree =
      initialPath (here.complete place tree) options place tree := by
    rw [initialPath_of_none hnone, initialPath, workspaceIn_of_none rfl]
    rfl
  have hsame : initialized (here.complete place tree) { options with workspace := none } force place
      tree = initialized (here.complete place tree) options force place tree := by
    unfold initialized
    rw [hpath]
  have hplain : plain = _ := run_init_eq hasked'
  rw [workspaceIn_of_none rfl, hsame] at hplain
  rw [run_init_eq hasked, hplain, hnone, workspaceLines_none hgiven]
  rcases initialized (here.complete place tree) options force place tree with ⟨fault | written, tree'⟩
  · refine Prod.ext ?_ rfl
    exact Fault.outcome_append _ [LogLine.noDirectory path] [] fault
  · refine Prod.ext ?_ rfl
    exact congrArg (notice _ _) (List.append_nil _).symm

/-- A workspace that is no directory stops a generation and a preview. The writing of settings goes on
in the working directory, as if no workspace were named; it is stopped only by what is there already. -/
theorem run_bad_workspace (htree : tree.Closed) (hat : here.At place tree)
    (hasked : asked here place tree arguments = .ok (command, options))
    (hgiven : options.workspace = some path) (hbad : tree.find? place path ≠ some .directory) :
    let after : Outcome × FileTree := (run here arguments : TreeM Outcome) place tree
    let own := tree.entry? (place ++ [Settings.fileName])
    let warned := [LogLine.noDirectory path].filter ((here.complete place tree).logFilter options)
    (after.1.code ≠ 0 ∧ after.2 = tree ↔
      ∀ force, command = .init force → own = some .directory ∨ own ≠ none ∧ force = false) ∧
    ((∀ force, command ≠ .init force) →
      after = ({ code := 1, stderr := Failure.noWorkspace.message ++ ['\n'], log := warned }, tree)) ∧
    ∀ force arguments', command = .init force →
      asked here place tree arguments' = .ok (.init force, { options with workspace := none }) →
      let plain : Outcome × FileTree := (run here arguments' : TreeM Outcome) place tree
      after = ({ plain.1 with log := warned ++ plain.1.log }, plain.2) := by
  intro after own warned
  have hstopped : (∀ force, command ≠ .init force) →
      after = ({ code := 1, stderr := Failure.noWorkspace.message ++ ['\n'], log := warned }, tree) :=
    run_eq_noWorkspace hasked hgiven hbad
  have hnone : workspaceIn (here.complete place tree) options place tree = none :=
    workspaceIn_eq_none hgiven hbad
  refine ⟨?_, hstopped, ?_⟩
  · cases command with
    | init force =>
      refine (run_init_fails_iff htree hat hasked hnone).trans ⟨?_, fun h => h force rfl⟩
      rintro h _ ⟨⟩
      exact h
    | _ =>
      rw [hstopped (fun _ => nofun)]
      exact iff_of_true ⟨Nat.one_ne_zero, rfl⟩ nofun
  · rintro force arguments' rfl hasked' plain
    exact run_init_bad hasked hgiven hnone hasked'

end BadWorkspace

theorem run_bad_workspace_preview :
    let here : Surroundings := { directory := "/work".toList, environment := fun _ => none }
    let tree := workTree [[]]
    let after : Outcome × FileTree :=
      (run here ["-w".toList, "gone".toList, "preview".toList, "user.ts".toList] : TreeM Outcome)
        ["work".toList] tree
    after.1.code ≠ 0 ∧ after.2 = tree := by
  intro here tree after
  have hat : here.At ["work".toList] tree := ⟨by decide, by decide, by decide⟩
  have hasked : asked here ["work".toList] tree
      ["-w".toList, "gone".toList, "preview".toList, "user.ts".toList] =
      .ok (.preview "user.ts".toList .text, { workspace := some "gone".toList }) := by decide +kernel
  obtain ⟨hstopped, -⟩ := run_bad_workspace (by decide : tree.Closed) hat hasked rfl (by decide)
  exact hstopped.mpr nofun

/-- The writing of settings is not stopped by a workspace that does not exist. -/
theorem bad_workspace_does_not_stop_init :
    let here : Surroundings := { directory := "/".toList, environment := fun _ => none }
    let after : Outcome × FileTree :=
      (run here ["-w".toList, "gone".toList, "init".toList] : TreeM Outcome) [] {}
    FileTree.find? {} [] "gone".toList = none ∧ after.1.code = 0 ∧
      FileTree.IsFile after.2 [Settings.fileName] := by
  decide +kernel

end FluentBuilder.CommandLine
