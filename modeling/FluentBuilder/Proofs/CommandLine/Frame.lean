import FluentBuilder.Proofs.Builder.Destination
import FluentBuilder.Proofs.CommandLine.Workspace
import FluentBuilder.Proofs.Settings.Valid

namespace FluentBuilder.CommandLine

open FileTree

variable {place location source : Location} {tree tree' : FileTree} {here : Surroundings}
variable {options : Options} {file : Text} {command : Command} {arguments : List Text}

/-- The places that a command may change: for a generation the builder file under the settings it
finds, for the writing of settings the file in its directory, which is a new one unless forced. -/
def Command.MayChange (here : Surroundings) (options : Options) (place : Location) (tree : FileTree) :
    Command → Location → Prop
  | .generate file, location => ∃ s, settingsIn here options place tree = some (.ok s) ∧
      tree.locate place (Destination.ofDocument file s.suffix) = .ok location
  | .preview _ _, _ => False
  | .init force, location => ∃ directory,
      tree.locate place ((workspaceIn here options place tree).getD here.directory) =
        .ok directory ∧
      location = directory ++ [Settings.fileName] ∧
      (force = false → tree.entry? location = none)

theorem generated_written {found : Option (Except SetupError Settings)} {path : Text}
    (h : generated found file place tree = (.ok path, tree')) :
    ∃ s location, found = some (.ok s) ∧
      tree.locate place (Destination.ofDocument file s.suffix) = .ok location ∧
      Written place tree tree' location := by
  obtain ⟨s, document, builder, hfound, -, -, hwrite⟩ := generated_ok h
  obtain ⟨location, hlocate, hwritten⟩ := written_of_write hwrite
  exact ⟨s, location, hfound, hlocate, hwritten⟩

theorem locate_workspace (htree : tree.Closed) (hat : here.At place tree) (options : Options) :
    ∃ directory,
      tree.locate place ((workspaceIn here options place tree).getD here.directory) =
        .ok directory ∧
      tree.entry? directory = some .directory := by
  have hhere : ∃ directory, tree.locate place here.directory = .ok directory ∧
      tree.entry? directory = some .directory := ⟨place, hat.locate htree, hat.directory⟩
  cases hgiven : options.workspace with
  | none =>
    rw [workspaceIn_of_none hgiven]
    exact hhere
  | some path =>
    rw [workspaceIn_of_some hgiven]
    by_cases hpath : tree.find? place path = some .directory
    · rw [if_pos hpath, Option.getD_some]
      rw [find?] at hpath
      split at hpath
      · rename_i directory hlocate
        exact ⟨directory, hlocate, hpath⟩
      · cases hpath
    · rw [if_neg hpath]
      exact hhere

theorem initialized_written {force : Bool} {path : Text} (htree : tree.Closed)
    (hat : here.At place tree) (h : initialized here options force place tree = (.ok path, tree')) :
    ∃ location, (Command.init force).MayChange here options place tree location ∧
      Written place tree tree' location := by
  obtain ⟨directory, hdirectory, hentry⟩ := locate_workspace htree hat options
  have hlocate : tree.locate place (initialPath here options place tree) =
      .ok (directory ++ [Settings.fileName]) :=
    locate_join hdirectory hentry isName_fileName
  obtain ⟨hwrite, hnew⟩ := initialized_ok h
  rw [find?_of_locate hlocate] at hnew
  exact ⟨_, ⟨directory, hdirectory, rfl, hnew⟩, _, template, hlocate, hwrite⟩

/-- A run leaves the tree as it was, and then it was a preview or did not succeed; or it succeeds and
has written one file that it may change. -/
theorem run_written (htree : tree.Closed) (hat : here.At place tree) (arguments : List Text) :
    let after : Outcome × FileTree := (run here arguments : TreeM Outcome) place tree
    (after.2 = tree ∧ ∀ command options, asked here place tree arguments = .ok (command, options) →
      after.1.code = 0 → ∃ file format, command = .preview file format) ∨
    after.1.code = 0 ∧ ∃ command options location,
      asked here place tree arguments = .ok (command, options) ∧
      command.MayChange (here.complete place tree) options place tree location ∧
      Written place tree after.2 location := by
  intro after
  have hafter : after = (run here arguments : TreeM Outcome) place tree := rfl
  cases hasked : asked here place tree arguments with
  -- a run that carries out no command writes nothing
  | error stop =>
    rw [run_of_stop hasked] at hafter
    rw [hafter]
    exact Or.inl ⟨rfl, nofun⟩
  | ok read =>
    obtain ⟨command, options⟩ := read
    cases command with
    | generate file =>
      rw [run_generate_eq hasked] at hafter
      rcases hresult : generated (settingsIn (here.complete place tree) options place tree) file
        place tree with ⟨fault | path, tree'⟩
      · rw [hafter, hresult]
        refine Or.inl ⟨generated_error hresult, fun _ _ _ hcode => ?_⟩
        rw [fault.code_outcome] at hcode
        cases hcode
      · obtain ⟨s, location, hfound, hlocate, hwritten⟩ := generated_written hresult
        rw [hafter, hresult]
        exact Or.inr ⟨rfl, _, _, location, rfl, ⟨s, hfound, hlocate⟩, hwritten⟩
    -- a preview writes nothing either, and is the only command that succeeds so
    | preview file format =>
      have hsame : after.2 = tree := by
        rw [hafter, run_preview_eq hasked]
        cases previewed (settingsIn (here.complete place tree) options place tree) file place tree with
        | error fault => rfl
        | ok b => rfl
      refine Or.inl ⟨hsame, ?_⟩
      rintro _ _ ⟨⟩ -
      exact ⟨file, format, rfl⟩
    | init force =>
      rw [run_init_eq hasked] at hafter
      rcases hresult : initialized (here.complete place tree) options force place tree with
        ⟨fault | path, tree'⟩
      · rw [hafter, hresult]
        refine Or.inl ⟨initialized_error hresult, fun _ _ _ hcode => ?_⟩
        rw [fault.code_outcome] at hcode
        cases hcode
      · obtain ⟨location, hmay, hwritten⟩ := initialized_written htree hat.complete hresult
        rw [hafter, hresult]
        exact Or.inr ⟨rfl, _, _, location, rfl, hmay, hwritten⟩

/-- After a run, the next one finds a tree of directories and its own place in it again. -/
theorem run_keeps_place (htree : tree.Closed) (hat : here.At place tree) (arguments : List Text) :
    let after : Outcome × FileTree := (run here arguments : TreeM Outcome) place tree
    after.2.Closed ∧ here.At place after.2 := by
  intro after
  rcases run_written htree hat arguments with ⟨hsame, -⟩ | ⟨-, -, -, location, -, -, hwritten⟩
  · rw [hsame]
    exact ⟨htree, hat⟩
  · have hplace : place ≠ location := ne_of_directory hwritten.eq_set.1 hat.directory
    refine ⟨hwritten.closed htree hat.directory, hat.path, hat.names, ?_⟩
    rw [hwritten.entry?_of_ne hplace]
    exact hat.directory

theorem valid_of_settingsIn {s : Settings} (h : settingsIn here options place tree = some (.ok s)) :
    s.Valid := by
  obtain ⟨directory, -, hload⟩ := Option.map_eq_some_iff.mp h
  rw [Settings.run_load] at hload
  exact Settings.valid_of_loaded hload

/-- The path of a builder file never leads to the document, whatever the file is called. -/
theorem locate_ofDocument_ne {s : Settings} (htree : tree.Closed) (hs : s.Valid)
    (hlocation : tree.entry? location ≠ some .directory)
    (h : tree.locate place (Destination.ofDocument file s.suffix) = .ok location) :
    tree.locate place file ≠ .ok location := by
  intro hsource
  obtain ⟨names, hnames⟩ := Destination.pieces_split file
  obtain ⟨names', hnames'⟩ := Destination.pieces_split (Destination.ofDocument file s.suffix)
  rcases locate_last htree hnames hsource with hdirectory | ⟨above, hlast⟩
  · exact hlocation hdirectory
  · rcases locate_last htree hnames' h with hdirectory | ⟨above', hlast'⟩
    · exact hlocation hdirectory
    · -- Both paths end in the name of the place, but they end differently.
      have hname : (Destination.split (Destination.ofDocument file s.suffix)).2 =
          (Destination.split file).2 := by
        rw [hlast] at hlast'
        exact (List.cons.inj (List.append_inj_right' hlast' rfl)).1.symm
      exact Destination.split_ofDocument_ne file hs.slash hs.backslash hname

theorem Command.MayChange.locate_ne (htree : tree.Closed)
    (h : (Command.generate file).MayChange here options place tree location)
    (hlocation : tree.entry? location ≠ some .directory) : tree.locate place file ≠ .ok location := by
  obtain ⟨s, hfound, hlocate⟩ := h
  exact locate_ofDocument_ne htree (valid_of_settingsIn hfound) hlocation hlocate

/-- A run changes one file at most, and none if it does not succeed. What it changes is a text then,
where no directory was, and in a place that its command allows: for a generation never the place of
the document, and for a preview none. A generation that succeeds, or the writing of settings, leaves
a text in such a place. -/
theorem run_frame (htree : tree.Closed) (hat : here.At place tree) (arguments : List Text) :
    let after : Outcome × FileTree := (run here arguments : TreeM Outcome) place tree
    (∃ changed, ∀ location, location ≠ changed →
      entry? after.2 location = tree.entry? location) ∧
    (after.1.code ≠ 0 → after.2 = tree) ∧
    (∀ location, entry? after.2 location ≠ tree.entry? location →
      tree.entry? location ≠ some .directory ∧
      (∃ text, entry? after.2 location = some (.file (.text text))) ∧
      ∃ command options, asked here place tree arguments = .ok (command, options) ∧
        command.MayChange (here.complete place tree) options place tree location ∧
        ∀ file, command = .generate file → tree.locate place file ≠ .ok location) ∧
    ∀ command options, asked here place tree arguments = .ok (command, options) →
      ((∃ file format, command = .preview file format) → after.2 = tree) ∧
      (after.1.code = 0 → (∃ file format, command = .preview file format) ∨
        ∃ location, command.MayChange (here.complete place tree) options place tree location ∧
          ∃ text, entry? after.2 location = some (.file (.text text))) := by
  intro after
  rcases run_written htree hat arguments with ⟨hsame, hpreview⟩ |
    ⟨hcode, command, options, changed, hasked, hmay, hwritten⟩
  · refine ⟨⟨[], fun location _ => by rw [hsame]⟩, fun _ => hsame, ?_, ?_⟩
    · intro location hchanged
      exact absurd (by rw [hsame]) hchanged
    · intro command options hasked
      exact ⟨fun _ => hsame, fun hcode => Or.inl (hpreview command options hasked hcode)⟩
  · refine ⟨⟨changed, fun location hne => hwritten.entry?_of_ne hne⟩, absurd hcode, ?_, ?_⟩
    · intro location hchanged
      -- what has changed must be the one place that was written
      obtain rfl : location = changed := by
        by_contra hne
        exact hchanged (hwritten.entry?_of_ne hne)
      refine ⟨hwritten.eq_set.1, hwritten.entry?_self, command, options, hasked, hmay, ?_⟩
      rintro file rfl
      exact hmay.locate_ne htree hwritten.eq_set.1
    · intro command' options' hasked'
      rw [hasked] at hasked'
      cases hasked'
      refine ⟨?_, fun _ => Or.inr ⟨changed, hmay, hwritten.entry?_self⟩⟩
      rintro ⟨file, format, rfl⟩
      exact hmay.elim

theorem run_frame_generate :
    let here : Surroundings := { directory := "/work".toList, environment := fun _ => none }
    let tree := workTree []
    let after : Outcome × FileTree :=
      (run here ["generate".toList, "user.ts".toList] : TreeM Outcome) ["work".toList] tree
    after.1.code = 0 ∧
      (∃ text, entry? after.2 ["work".toList, "user.builder.ts".toList] =
        some (.file (.text text))) ∧
      ∀ location, location ≠ ["work".toList, "user.builder.ts".toList] →
        entry? after.2 location = tree.entry? location := by
  intro here tree after
  have hat : here.At ["work".toList] tree := ⟨by decide, by decide, by decide⟩
  obtain ⟨⟨changed, hothers⟩, -, hchanges, -⟩ := run_frame (by decide : tree.Closed) hat
    ["generate".toList, "user.ts".toList]
  have hnew : entry? after.2 ["work".toList, "user.builder.ts".toList] ≠
      tree.entry? ["work".toList, "user.builder.ts".toList] := by decide +kernel
  refine ⟨by decide +kernel, (hchanges _ hnew).2.1, ?_⟩
  have hplace : ["work".toList, "user.builder.ts".toList] = changed := by
    by_contra hne
    exact hnew (hothers _ hne)
  rw [hplace]
  exact hothers

end FluentBuilder.CommandLine
