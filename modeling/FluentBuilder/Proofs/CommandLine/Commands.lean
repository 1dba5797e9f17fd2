import FluentBuilder.Proofs.CommandLine.Console
import FluentBuilder.Proofs.CommandLine.Request
import FluentBuilder.Proofs.Settings.Search

namespace FluentBuilder.CommandLine

open TreeM

variable {place : Location} {tree tree' : FileTree} {console console' : Console}
variable {here : Surroundings} {options : Options} {file : Text}

def workspaceIn (here : Surroundings) (options : Options) (place : Location) (tree : FileTree) :
    Option Text :=
  ((workspace? here options : TreeM _) place tree).1

def settingsIn (here : Surroundings) (options : Options) (place : Location) (tree : FileTree) :
    Option (Except SetupError Settings) :=
  (workspaceIn here options place tree).map fun directory =>
    ((Settings.load here.environment options.settingsFile directory : TreeM _) place tree).1

theorem run_workspace? (here : Surroundings) (options : Options) (place : Location)
    (tree : FileTree) :
    (workspace? here options : TreeM _) place tree = (workspaceIn here options place tree, tree) :=
  (readOnly_workspace? here options).run_eq place tree

def settingsLines (here : Surroundings) (options : Options) (place : Location) (tree : FileTree) :
    List LogLine :=
  match workspaceIn here options place tree with
  | none => []
  | some directory =>
    Settings.loadedLines here.environment options.settingsFile directory place tree

def foundLines (here : Surroundings) (options : Options) (place : Location) (tree : FileTree) :
    List LogLine :=
  workspaceLines options (workspaceIn here options place tree) ++
    settingsLines here options place tree

theorem run_openWorkspace (here : Surroundings) (options : Options) (console : Console)
    (place : Location) (tree : FileTree) :
    (openWorkspace here options : StateT Console TreeM _) console place tree =
      ((workspaceIn here options place tree,
        console.withLines (workspaceLines options (workspaceIn here options place tree))), tree) := by
  refine (run_bind _ (run_liftM (run_workspace? here options place tree) console)).trans ?_
  exact run_bind _ (run_log _ console place tree)

theorem run_loadSettings (here : Surroundings) (options : Options) (directory : Text)
    (console : Console) (place : Location) (tree : FileTree) :
    (loadSettings here options directory : StateT Console TreeM _) console place tree =
      ((Settings.loaded here.environment options.settingsFile directory place tree,
        console.withLines
          (Settings.loadedLines here.environment options.settingsFile directory place tree)),
        tree) := by
  have hload := Settings.run_loadLogged here.environment options.settingsFile directory place tree
  refine (run_bind _ (run_liftM hload console)).trans ?_
  exact run_bind _ (run_log _ console place tree)

def generated (found : Option (Except SetupError Settings)) (file : Text) (place : Location)
    (tree : FileTree) : Except Fault Text × FileTree :=
  match found with
  | none => (.error (.failure .noWorkspace), tree)
  | some (.error e) => (.error (.setup e), tree)
  | some (.ok s) =>
    match opened file place tree with
    | .error failure => (.error (.failure failure), tree)
    | .ok document =>
      ((saved s file document place tree).1.mapError .failure, (saved s file document place tree).2)

/-- What a preview comes to. It looks at its document before its settings. -/
def previewed (found : Option (Except SetupError Settings)) (file : Text) (place : Location)
    (tree : FileTree) : Except Fault Builder :=
  match found with
  | none => .error (.failure .noWorkspace)
  | some settings =>
    match opened file place tree with
    | .error failure => .error (.failure failure)
    | .ok document =>
      match settings with
      | .error e => .error (.setup e)
      | .ok s => (Builder.ofDocument s.generator document).mapError .failure

def initialPath (here : Surroundings) (options : Options) (place : Location) (tree : FileTree) :
    Text :=
  Path.join ((workspaceIn here options place tree).getD here.directory) Settings.fileName

def initialized (here : Surroundings) (options : Options) (force : Bool) (place : Location)
    (tree : FileTree) : Except Fault Text × FileTree :=
  let path := initialPath here options place tree
  if (tree.find? place path).isSome && !force then (.error (.setup (.alreadyExists path)), tree)
  else
    match tree.write place path template with
    | .error e => (.error (.setup (.file e.message)), tree)
    | .ok tree' => (.ok path, tree')

def reported (console : Console) : Fault → Console
  | .failure failure => { console with stderr := console.stderr ++ failure.message ++ ['\n'] }
  | .setup _ => console

def noticed (quiet : Bool) (console : Console) (notice : Text) : Console :=
  if quiet then console else { console with stdout := console.stdout ++ notice }

def printed (b : Builder) : Format → Text
  | .text => b.classText
  | .json => b.jsonText ++ ['\n']

theorem settingsIn_eq (here : Surroundings) (options : Options) (place : Location) (tree : FileTree) :
    settingsIn here options place tree = (workspaceIn here options place tree).map fun directory =>
      Settings.loaded here.environment options.settingsFile directory place tree := by
  simp only [settingsIn, Settings.run_load]

/-- What a generation logs before it ends. -/
def generateLines (here : Surroundings) (options : Options) (file : Text) (place : Location)
    (tree : FileTree) : List LogLine :=
  foundLines here options place tree ++
    match settingsIn here options place tree with
    | some (.ok _) => openedLines file place tree
    | _ => []

/-- What a preview logs before it ends. It does not look for settings unless it has its document. -/
def previewLines (here : Surroundings) (options : Options) (file : Text) (place : Location)
    (tree : FileTree) : List LogLine :=
  match opened file place tree with
  | .error _ => workspaceLines options (workspaceIn here options place tree)
  | .ok _ => generateLines here options file place tree

theorem generate_eq (here : Surroundings) (options : Options) (file : Text) (console : Console)
    (place : Location) (tree : FileTree) :
    let console' := console.withLines (generateLines here options file place tree)
    (generate here options file : StateT Console TreeM _) console place tree =
      match generated (settingsIn here options place tree) file place tree with
      | (.error fault, tree') => ((.error fault, reported console' fault), tree')
      | (.ok path, tree') => ((.ok (), noticed options.quiet console'
          ("Builder created: ".toList ++ path ++ ['\n'])), tree') := by
  refine (run_bind _ (run_openWorkspace here options console place tree)).trans ?_
  rw [generateLines, settingsIn_eq, foundLines, settingsLines]
  cases workspaceIn here options place tree with
  | none =>
    -- without a workspace no settings are looked for, and there is nothing else to log
    rw [List.append_nil, Option.map_none, List.append_nil]
    rfl
  | some directory =>
    refine (run_bind _ (run_loadSettings here options directory _ place tree)).trans ?_
    rw [Console.withLines_withLines, Option.map_some]
    dsimp only
    generalize workspaceLines options _ ++ _ = lines
    cases Settings.loaded here.environment options.settingsFile directory place tree with
    | error e =>
      rw [List.append_nil]
      rfl
    | ok s =>
      dsimp only
      rw [← Console.withLines_withLines]
      cases hopened : opened file place tree with
      | error failure =>
        have hsave := run_saveBuilder_error (console.withLines lines) s options.quiet directory hopened
        refine (run_bind _ (run_createBuilder hsave)).trans ?_
        simp only [generated, hopened]
        rfl
      | ok document =>
        have hsave := run_saveBuilder_ok (console.withLines lines) s options.quiet directory hopened
        refine (run_bind _ (run_createBuilder hsave)).trans ?_
        simp only [generated, hopened]
        rcases saved s file document place tree with ⟨_ | path, tree'⟩
        · rfl
        · rfl

theorem preview_eq (here : Surroundings) (options : Options) (file : Text) (format : Format)
    (console : Console) (place : Location) (tree : FileTree) :
    let console' := console.withLines (previewLines here options file place tree)
    (preview here options file format : StateT Console TreeM _) console place tree =
      match previewed (settingsIn here options place tree) file place tree with
      | .error fault => ((.error fault, reported console' fault), tree)
      | .ok b => ((.ok (), { console' with stdout := console'.stdout ++ printed b format }), tree) := by
  refine (run_bind _ (run_openWorkspace here options console place tree)).trans ?_
  rw [previewLines, generateLines, settingsIn_eq, foundLines, settingsLines]
  cases workspaceIn here options place tree with
  | none =>
    rw [List.append_nil, Option.map_none, List.append_nil]
    cases opened file place tree <;> rfl
  | some directory =>
    refine (run_bind _ (run_openText file options.quiet directory place tree _)).trans ?_
    rw [Option.map_some]
    -- the settings are not looked at before the document is there
    cases hopened : opened file place tree with
    | error failure =>
      simp only [previewed, hopened]
      rfl
    | ok document =>
      refine (run_bind _ (run_loadSettings here options directory _ place tree)).trans ?_
      rw [Console.withLines_withLines]
      dsimp only
      generalize workspaceLines options _ ++ _ = lines
      cases Settings.loaded here.environment options.settingsFile directory place tree with
      | error e =>
        simp only [previewed, hopened, List.append_nil]
        rfl
      | ok s =>
        simp only [previewed, hopened]
        refine (run_bind _ (run_log _ (console.withLines lines) place tree)).trans ?_
        rw [Console.withLines_withLines, openedLines_of_opened hopened]
        cases Builder.ofDocument s.generator document with
        | error failure => rfl
        | ok b =>
          cases format with
          | text => rfl
          | json => rfl

theorem init_eq (here : Surroundings) (options : Options) (force : Bool) (console : Console)
    (place : Location) (tree : FileTree) :
    let console' :=
      console.withLines (workspaceLines options (workspaceIn here options place tree))
    (init here options force : StateT Console TreeM _) console place tree =
      match initialized here options force place tree with
      | (.error fault, tree') => ((.error fault, reported console' fault), tree')
      | (.ok path, tree') => ((.ok (), noticed options.quiet console'
          ("Created ".toList ++ path ++ ['\n'])), tree') := by
  refine (run_bind _ (run_openWorkspace here options console place tree)).trans ?_
  generalize console.withLines _ = console'
  unfold initialized
  have hkind : (FileSystem.kind? (initialPath here options place tree) : TreeM _) place tree =
    ((tree.find? place (initialPath here options place tree)).map Entry.kind, tree) := rfl
  refine (run_bind _ (run_liftM hkind console')).trans ?_
  rw [Option.isSome_map]
  by_cases hexists : (tree.find? place (initialPath here options place tree)).isSome && !force
  · simp only [hexists, if_true]
    rfl
  · simp only [hexists]
    cases hwrite : tree.write place (initialPath here options place tree) template with
    | error e => exact run_bind _ (run_liftM (writeText_error hwrite) console')
    | ok tree' =>
      refine (run_bind _ (run_liftM (writeText_ok hwrite) console')).trans ?_
      cases options.quiet with
      | false => rfl
      | true => rfl

/-- What a generation has found when it has written a file. -/
theorem generated_ok {found : Option (Except SetupError Settings)} {path : Text}
    (h : generated found file place tree = (.ok path, tree')) :
    ∃ s document builder, found = some (.ok s) ∧ tree.read place file = .ok document ∧
      Builder.ofDocument s.generator document = .ok builder ∧
      tree.write place (Destination.ofDocument file s.suffix) builder.classText = .ok tree' := by
  unfold generated at h
  split at h
  · cases h
  · cases h
  · rename_i s
    split at h
    · cases h
    · rename_i document hopened
      rw [Prod.mk.injEq] at h
      obtain ⟨hpath, htree⟩ := h
      have hsaved : saved s file document place tree = (.ok path, tree') := by
        refine Prod.ext ?_ htree
        cases hresult : (saved s file document place tree).1 with
        | error failure =>
          rw [hresult] at hpath
          cases hpath
        | ok path' =>
          rw [hresult] at hpath
          cases hpath
          rfl
      obtain ⟨builder, hbuilder, hwrite⟩ := saved_ok hsaved
      exact ⟨s, document, builder, rfl, opened_ok.mp hopened, hbuilder, hwrite⟩

/-- A generation that fails has written nothing. -/
theorem generated_error {found : Option (Except SetupError Settings)} {fault : Fault}
    (h : generated found file place tree = (.error fault, tree')) : tree' = tree := by
  unfold generated at h
  split at h
  · cases h
    rfl
  · cases h
    rfl
  · split at h
    · cases h
      rfl
    · unfold saved at h
      split at h
      · cases h
        rfl
      · split at h
        · cases h
          rfl
        · cases h

/-- A settings file that is not written leaves the tree alone. -/
theorem initialized_error {force : Bool} {fault : Fault}
    (h : initialized here options force place tree = (.error fault, tree')) : tree' = tree := by
  unfold initialized at h
  simp only at h
  split at h
  · cases h
    rfl
  · split at h
    · cases h
      rfl
    · cases h

/-- A settings file that is written was missing, unless it was forced. -/
theorem initialized_ok {force : Bool} {path : Text}
    (h : initialized here options force place tree = (.ok path, tree')) :
    tree.write place (initialPath here options place tree) template = .ok tree' ∧
      (force = false → tree.find? place (initialPath here options place tree) = none) := by
  unfold initialized at h
  simp only at h
  split at h
  · cases h
  · rename_i hthere
    split at h
    · cases h
    · rename_i hwrite
      cases h
      refine ⟨hwrite, ?_⟩
      rintro rfl
      simpa using hthere

section Runs

variable {arguments : List Text} {command : Command} {stop : Stop} {format : Format} {force : Bool}
variable {r : Except Fault Unit} {shows : LogFilter} {lines : List LogLine}

theorem run_of_stop (h : asked here place tree arguments = .error stop) :
    (run here arguments : TreeM Outcome) place tree = (stop.outcome, tree) := by
  rw [run_of_stop_disk h, readOnly_withVariables here place tree]

theorem run_of_command (h : asked here place tree arguments = .ok (command, options))
    (hcommand : (command.run (here.complete place tree) options : StateT Console TreeM _) {} place
      tree = ((r, console), tree')) :
    (run here arguments : TreeM Outcome) place tree =
      (outcomeOf ((here.complete place tree).logFilter options) console r, tree') := by
  rw [run_of_asked h, readOnly_withVariables here place tree, hcommand]

/-- What a run leaves behind after a fault, when it has these lines for the log. -/
def Fault.outcome (shows : LogFilter) (lines : List LogLine) : Fault → Outcome
  | .failure f => { code := 1, stderr := f.message ++ ['\n'], log := lines.filter shows }
  | .setup e => { code := 1, log := (lines ++ [LogLine.stopped e]).filter shows }

theorem Fault.code_outcome (fault : Fault) : (fault.outcome shows lines).code = 1 := by
  cases fault with
  | failure f => rfl
  | setup e => rfl

theorem outcomeOf_reported (fault : Fault) :
    outcomeOf shows (reported (Console.withLines {} lines) fault) (.error fault) =
      fault.outcome shows lines := by
  cases fault with
  | failure f => rfl
  | setup e => rfl

theorem code_eq_zero (h : (outcomeOf shows console r).code = 0) : r = .ok () := by
  cases r with
  | ok _ => rfl
  | error fault =>
    cases fault with
    | failure f => cases h
    | setup e => cases h

def notice (quiet : Bool) (text : Text) (log : List LogLine) : Outcome :=
  { code := 0, stdout := if quiet then [] else text, log }

theorem outcomeOf_noticed (quiet : Bool) (text : Text) :
    outcomeOf shows (noticed quiet (Console.withLines {} lines) text) (.ok ()) =
      notice quiet text (lines.filter shows) := by
  cases quiet with
  | false => rfl
  | true => rfl

theorem run_generate_eq (h : asked here place tree arguments = .ok (.generate file, options)) :
    (run here arguments : TreeM Outcome) place tree =
      match generated (settingsIn (here.complete place tree) options place tree) file place tree with
      | (.error fault, tree') => (fault.outcome ((here.complete place tree).logFilter options)
          (generateLines (here.complete place tree) options file place tree), tree')
      | (.ok path, tree') =>
        (notice options.quiet ("Builder created: ".toList ++ path ++ ['\n'])
          ((generateLines (here.complete place tree) options file place tree).filter
            ((here.complete place tree).logFilter options)), tree') := by
  have hcommand := generate_eq (here.complete place tree) options file {} place tree
  rcases hgenerated : generated (settingsIn (here.complete place tree) options place tree) file
    place tree with ⟨fault | path, tree'⟩
  · rw [hgenerated] at hcommand
    rw [run_of_command h hcommand, outcomeOf_reported]
  · rw [hgenerated] at hcommand
    rw [run_of_command h hcommand, outcomeOf_noticed]

theorem run_preview_eq (h : asked here place tree arguments = .ok (.preview file format, options)) :
    (run here arguments : TreeM Outcome) place tree =
      match previewed (settingsIn (here.complete place tree) options place tree) file place tree with
      | .error fault => (fault.outcome ((here.complete place tree).logFilter options)
          (previewLines (here.complete place tree) options file place tree), tree)
      | .ok b => ({
          code := 0
          stdout := printed b format
          log := (previewLines (here.complete place tree) options file place tree).filter
            ((here.complete place tree).logFilter options) }, tree) := by
  have hcommand := preview_eq (here.complete place tree) options file format {} place tree
  cases hpreviewed : previewed (settingsIn (here.complete place tree) options place tree) file
    place tree with
  | error fault =>
    rw [hpreviewed] at hcommand
    rw [run_of_command h hcommand, outcomeOf_reported]
  | ok b =>
    rw [hpreviewed] at hcommand
    exact run_of_command h hcommand

theorem run_init_eq (h : asked here place tree arguments = .ok (.init force, options)) :
    let lines :=
      workspaceLines options (workspaceIn (here.complete place tree) options place tree)
    (run here arguments : TreeM Outcome) place tree =
      match initialized (here.complete place tree) options force place tree with
      | (.error fault, tree') =>
        (fault.outcome ((here.complete place tree).logFilter options) lines, tree')
      | (.ok path, tree') =>
        (notice options.quiet ("Created ".toList ++ path ++ ['\n'])
          (lines.filter ((here.complete place tree).logFilter options)), tree') := by
  intro lines
  have hcommand := init_eq (here.complete place tree) options force {} place tree
  rcases hinit : initialized (here.complete place tree) options force place tree with
    ⟨fault | path, tree'⟩
  · rw [hinit] at hcommand
    rw [run_of_command h hcommand, outcomeOf_reported]
  · rw [hinit] at hcommand
    rw [run_of_command h hcommand, outcomeOf_noticed]

end Runs

end FluentBuilder.CommandLine
