import FluentBuilder.CommandLine.Run
import FluentBuilder.Proofs.Files.ReadOnly

namespace FluentBuilder.CommandLine

open TreeM

variable {α β : Type} {place : Location} {tree tree' : FileTree} {console console' : Console}
variable {file : Text} {s : Settings}

theorem run_bind {act : StateT Console TreeM α} {a : α} (next : α → StateT Console TreeM β)
    (h : act console place tree = ((a, console'), tree')) :
    (act >>= next) console place tree = next a console' place tree' := by
  change next (act console place tree).1.1 (act console place tree).1.2 place
    (act console place tree).2 = _
  rw [h]

/-- A computation that prints nothing leaves the console as it is. -/
theorem run_liftM {act : TreeM α} {a : α} (h : act place tree = (a, tree')) (console : Console) :
    (liftM act : StateT Console TreeM α) console place tree = ((a, console), tree') := by
  change (((act place tree).1, console), (act place tree).2) = _
  rw [h]

def Console.withLines (console : Console) (lines : List LogLine) : Console :=
  { console with log := console.log ++ lines }

theorem Console.withLines_withLines (console : Console) (lines more : List LogLine) :
    (console.withLines lines).withLines more = console.withLines (lines ++ more) := by
  simp only [Console.withLines, List.append_assoc]

theorem run_log (lines : List LogLine) (console : Console) (place : Location) (tree : FileTree) :
    (log lines : StateT Console TreeM Unit) console place tree =
      (((), console.withLines lines), tree) :=
  rfl

theorem readOnly_workspace? (here : Surroundings) (options : Options) :
    ReadOnly (workspace? here options) := by
  unfold workspace?
  cases options.workspace with
  | none => exact readOnly_pure _
  | some path =>
    apply (readOnly_kind? path).bind
    intro kind
    by_cases hkind : kind = some .directory
    · rw [if_pos hkind]
      exact readOnly_pure _
    · rw [if_neg hkind]
      exact readOnly_pure _

theorem readOnly_withVariables (here : Surroundings) : ReadOnly (withVariables here) := by
  apply (readOnly_firstFile? _).bind
  intro found
  cases found with
  | none => exact readOnly_pure _
  | some path =>
    apply (readOnly_readText path).bind
    intro document
    cases document with
    | error detail => exact readOnly_pure _
    | ok document => exact readOnly_pure _

section Terminal

variable {quiet : Bool} {directory document : Text} {builder : Builder}

theorem run_documentText (file : Text) (quiet : Bool) (place : Location) (tree : FileTree)
    (console : Console) :
    (terminal file quiet : Editor (StateT Console TreeM)).documentText console place tree =
      (((tree.read place file).toOption, console), tree) := by
  have hread : (FileSystem.readText file : TreeM _) place tree =
    ((tree.read place file).mapError FileError.message, tree) := rfl
  refine (run_bind _ (run_liftM hread console)).trans ?_
  cases tree.read place file with
  | error e => rfl
  | ok document => rfl

def opened (file : Text) (place : Location) (tree : FileTree) : Except Failure Text :=
  (tree.read place file).mapError fun _ => .noActiveDocument

theorem opened_ok : opened file place tree = .ok document ↔ tree.read place file = .ok document := by
  unfold opened
  cases tree.read place file with
  | error e => exact ⟨nofun, nofun⟩
  | ok document' =>
    change Except.ok document' = Except.ok document ↔ _
    simp only [Except.ok.injEq]

theorem run_openText_of {editor : Editor (StateT Console TreeM)} (directory : Text)
    (h : editor.documentText console place tree =
      (((tree.read place file).toOption, console'), tree)) :
    editor.openText (some directory) console place tree =
      ((opened file place tree, console'), tree) := by
  refine (run_bind _ h).trans ?_
  unfold opened
  cases tree.read place file with
  | error e => rfl
  | ok document => rfl

theorem run_openText (file : Text) (quiet : Bool) (directory : Text) (place : Location)
    (tree : FileTree) (console : Console) :
    (terminal file quiet : Editor (StateT Console TreeM)).openText (some directory) console place
      tree = ((opened file place tree, console), tree) :=
  run_openText_of directory (run_documentText file quiet place tree console)

/-- What making a builder of a file logs. -/
def openedLines (file : Text) (place : Location) (tree : FileTree) : List LogLine :=
  ((tree.read place file).toOption.map Builder.documentLines).getD []

theorem openedLines_of_opened (h : opened file place tree = .ok document) :
    openedLines file place tree = Builder.documentLines document := by
  rw [openedLines, opened_ok.mp h]
  rfl

theorem run_openText_logging (file : Text) (quiet : Bool) (directory : Text) (place : Location)
    (tree : FileTree) (console : Console) :
    (logging (terminal file quiet) : Editor (StateT Console TreeM)).openText (some directory) console
      place tree = ((opened file place tree, console.withLines (openedLines file place tree)), tree) := by
  apply run_openText_of
  refine (run_bind _ (run_documentText file quiet place tree console)).trans ?_
  exact run_bind _ (run_log _ console place tree)

/-- What is saved for a document that has been opened, and the tree then. -/
def saved (s : Settings) (file document : Text) (place : Location) (tree : FileTree) :
    Except Failure Text × FileTree :=
  match Builder.ofDocument s.generator document with
  | .error failure => (.error failure, tree)
  | .ok builder =>
    match tree.write place (Destination.ofDocument file s.suffix) builder.classText with
    | .error e => (.error (.saveFailed e.message), tree)
    | .ok tree' => (.ok (Destination.ofDocument file s.suffix), tree')

section Logging

variable (console s quiet directory)

theorem run_saveBuilder_error {failure : Failure} (h : opened file place tree = .error failure) :
    (logging (terminal file quiet) : Editor (StateT Console TreeM)).saveBuilder (some directory) s
      console place tree =
      ((.error failure, console.withLines (openedLines file place tree)), tree) := by
  refine (run_bind _ (run_openText_logging file quiet directory place tree console)).trans ?_
  rw [h]
  rfl

theorem run_saveBuilder_ok (h : opened file place tree = .ok document) :
    (logging (terminal file quiet) : Editor (StateT Console TreeM)).saveBuilder (some directory) s
      console place tree =
      (((saved s file document place tree).1, console.withLines (openedLines file place tree)),
        (saved s file document place tree).2) := by
  refine (run_bind _ (run_openText_logging file quiet directory place tree console)).trans ?_
  rw [h]
  generalize console.withLines _ = console'
  have hpath : (logging (terminal file quiet) : Editor (StateT Console TreeM)).documentPath console'
    place tree = ((some file, console'), tree) := rfl
  refine (run_bind _ hpath).trans ?_
  unfold saved
  cases Builder.ofDocument s.generator document with
  | error failure => rfl
  | ok builder =>
    cases hwrite : tree.write place (Destination.ofDocument file s.suffix) builder.classText with
    | error e =>
      refine (run_bind _ (run_liftM (writeText_error hwrite) console')).trans ?_
      simp only [hwrite]
      rfl
    | ok tree' =>
      refine (run_bind _ (run_liftM (writeText_ok hwrite) console')).trans ?_
      simp only [hwrite]
      rfl

end Logging

theorem saved_ok {path : Text} (h : saved s file document place tree = (.ok path, tree')) :
    ∃ builder, Builder.ofDocument s.generator document = .ok builder ∧
      tree.write place (Destination.ofDocument file s.suffix) builder.classText = .ok tree' := by
  unfold saved at h
  split at h
  · cases h
  · rename_i builder hbuilder
    split at h
    · cases h
    · rename_i hwrite
      cases h
      exact ⟨builder, hbuilder, hwrite⟩

def told (quiet : Bool) (console : Console) : Except Failure Text → Console
  | .error failure => { console with stderr := console.stderr ++ failure.message ++ ['\n'] }
  | .ok path =>
    if quiet then console
    else { console with stdout := console.stdout ++ ("Builder created: ".toList ++ path ++ ['\n']) }

theorem run_createBuilder {workspace : Option Text} {r : Except Failure Text}
    (h : (logging (terminal file quiet) : Editor (StateT Console TreeM)).saveBuilder workspace s console
      place tree = ((r, console'), tree')) :
    (logging (terminal file quiet) : Editor (StateT Console TreeM)).createBuilder workspace s console
      place tree = ((r, told quiet console' r), tree') := by
  refine (run_bind _ h).trans ?_
  cases r with
  | error failure => rfl
  | ok path =>
    cases quiet with
    | false => rfl
    | true => rfl

end Terminal

end FluentBuilder.CommandLine
