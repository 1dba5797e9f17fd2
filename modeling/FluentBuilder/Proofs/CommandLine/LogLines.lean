import FluentBuilder.Proofs.Builder.Document
import FluentBuilder.Proofs.CommandLine.Commands

namespace FluentBuilder

namespace LogLine

theorem errors_append (lines more : List LogLine) :
    errors (lines ++ more) = errors lines ++ errors more :=
  List.filter_append lines more

theorem errors_errors (lines : List LogLine) : errors (errors lines) = errors lines := by
  simp only [errors, List.filter_filter, Bool.and_self]

theorem errors_filter (shows : LogFilter) (lines : List LogLine) :
    errors (lines.filter shows) = (errors lines).filter shows :=
  List.filter_comm _ shows lines

end LogLine

open LogLine

theorem LogFilter.ofLimit_apply (limit : Severity) (line : LogLine) :
    LogFilter.ofLimit limit line = decide (line.severity.rank ≤ limit.rank) := by
  cases line <;> rfl

/-- Every limit lets errors pass. -/
theorem LogFilter.errors_filter_ofLimit (limit : Severity) (lines : List LogLine) :
    errors (lines.filter (LogFilter.ofLimit limit)) = errors lines := by
  rw [errors_filter, List.filter_eq_self]
  intro line hline
  have herror : line.severity = .error := by simpa using (List.mem_filter.mp hline).2
  rw [LogFilter.ofLimit_apply, herror]
  exact decide_eq_true (Nat.zero_le _)

theorem LogFilter.filter_ofLimit_error (lines : List LogLine) :
    lines.filter (LogFilter.ofLimit .error) = errors lines := by
  apply List.filter_congr
  intro line _
  rw [LogFilter.ofLimit_apply]
  cases line <;> rfl

theorem Builder.errors_documentLines (t : Text) : errors (Builder.documentLines t) = [] := by
  obtain h | ⟨h, -⟩ := Builder.documentLines_cases {} t
  · rw [h]
    rfl
  · rw [h]
    rfl

/-- The line in which the loading of settings tells of an error, before the run ends with it. -/
def SetupError.cause? : SetupError → Option LogLine
  | .file detail => some (.settingsUnreadable detail)
  | .malformed => some .settingsMalformed
  | .invalidPath path => some (.settingsNotFound path)
  | .invalidValue _ _ | .variableNotSet _ | .alreadyExists _ => none

namespace Settings

def causes : Except SetupError Settings → List LogLine
  | .error e => e.cause?.toList
  | .ok _ => []

theorem errors_defaultUsed (names : List Text) : errors (names.map .defaultUsed) = [] := by
  simp [errors, severity]

theorem errors_documentLines (env : Environment) (document : Text) :
    errors (documentLines env document) = causes (ofDocument env document) := by
  unfold documentLines ofDocument
  cases (Toml.document? document).bind decode? with
  | none => rfl
  | some written =>
    dsimp only
    rw [errors_defaultUsed]
    cases expandReferences env written with
    | error name => rfl
    | ok s =>
      dsimp only
      rcases s.fault? with _ | ⟨key, value⟩
      · rfl
      · rfl

section Disk

open CommandLine

variable {ρ σ : Type} [FileSystem (DiskM ρ σ)]

theorem errors_readFile (env : Environment) (path : Text) (place : ρ) (disk : σ) :
    let read := ((readFile env path : DiskM ρ σ _) place disk).1
    errors read.2 = causes read.1 := by
  intro read
  simp only [read, readFile, run_bind_disk]
  cases ((FileSystem.readText path : DiskM ρ σ _) place disk).1 with
  | error detail => rfl
  | ok document => exact errors_documentLines env document

/-- On every disk the errors that loading logs are told by what it comes to. -/
theorem errors_loadLogged (env : Environment) (explicit : Option Text) (directory : Text) (place : ρ)
    (disk : σ) :
    let loaded := ((loadLogged env explicit directory : DiskM ρ σ _) place disk).1
    errors loaded.2 = causes loaded.1 := by
  intro loaded
  cases explicit with
  | some path =>
    simp only [loaded, loadLogged, run_bind_disk]
    split_ifs
    · exact errors_readFile env path place _
    · rfl
  | none =>
    simp only [loaded, loadLogged, run_bind_disk]
    generalize (firstFile? _ : DiskM ρ σ _) place disk = found
    cases found.1 with
    | some path => exact errors_readFile env path place _
    | none => rfl

end Disk

end Settings

namespace CommandLine

variable {place : Location} {tree : FileTree} {here : Surroundings} {options : Options} {file : Text}

theorem errors_workspaceLines (options : Options) (workspace : Option Text) :
    errors (workspaceLines options workspace) = [] := by
  cases workspace with
  | some directory => rfl
  | none => simp [workspaceLines, errors, severity]

theorem errors_foundLines :
    errors (foundLines here options place tree) =
      (settingsIn here options place tree).elim [] Settings.causes := by
  rw [foundLines, errors_append, errors_workspaceLines, List.nil_append, settingsLines, settingsIn_eq]
  cases workspaceIn here options place tree with
  | none => rfl
  | some directory =>
    have herrors := Settings.errors_loadLogged here.environment options.settingsFile directory place
      tree
    rwa [Settings.run_loadLogged] at herrors

theorem errors_generateLines :
    errors (generateLines here options file place tree) =
      (settingsIn here options place tree).elim [] Settings.causes := by
  have hopened : errors (openedLines file place tree) = [] := by
    rw [openedLines]
    cases (tree.read place file).toOption with
    | none => rfl
    | some document => exact Builder.errors_documentLines document
  rw [generateLines, errors_append, errors_foundLines]
  rcases settingsIn here options place tree with _ | _ | s
  · rfl
  · exact List.append_nil _
  · exact (congrArg _ hopened).trans (List.append_nil _)

theorem previewLines_of_opened {document : Text} (h : tree.read place file = .ok document) :
    previewLines here options file place tree = generateLines here options file place tree := by
  rw [previewLines, opened_ok.mpr h]

theorem Fault.errors_outcome (shows : LogFilter) (lines : List LogLine) (fault : Fault) :
    (fault.outcome shows lines).errors =
      (fault.outcome shows (errors lines)).log := by
  cases fault with
  | failure f => exact errors_filter shows lines
  | setup e =>
    change errors ((lines ++ [LogLine.stopped e]).filter shows) = _
    rw [errors_filter, errors_append]
    rfl

end CommandLine

end FluentBuilder
