import FluentBuilder.Proofs.CommandLine.Preview

namespace FluentBuilder.CommandLine

open TreeM

variable {place : Location} {tree tree' : FileTree} {here : Surroundings} {file : Text}
variable {found : Option (Except SetupError Settings)} {fault : Fault}

/-- The settings that were found are at fault, and so is the document. -/
def BothAtFault (found : Option (Except SetupError Settings)) (file : Text) (place : Location)
    (tree : FileTree) : Prop :=
  (∃ e, found = some (.error e)) ∧ ∃ e, tree.read place file = .error e

theorem opened_error {failure : Failure} :
    opened file place tree = .error failure ↔
      failure = .noActiveDocument ∧ ∃ e, tree.read place file = .error e := by
  unfold opened
  cases tree.read place file with
  | error e =>
    constructor
    · rintro h
      cases h
      exact ⟨rfl, e, rfl⟩
    · rintro ⟨rfl, -⟩
      rfl
  | ok document =>
    constructor
    · nofun
    · rintro ⟨-, e, he⟩
      cases he

theorem saved_error {s : Settings} {document : Text} {failure : Failure}
    (h : (saved s file document place tree).1 = .error failure)
    (hsave : ∀ detail, failure ≠ .saveFailed detail) :
    Builder.ofDocument s.generator document = .error failure := by
  unfold saved at h
  split at h
  · rename_i hbuilder
    cases h
    exact hbuilder
  · split at h
    · cases h
      exact absurd rfl (hsave _)
    · cases h

/-- A generation that fails, except in saving, leaves a preview with the same fault or with the
document's own. -/
theorem previewed_of_generated
    (h : generated found file place tree = (.error fault, tree'))
    (hsave : ∀ detail, fault ≠ .failure (.saveFailed detail)) :
    BothAtFault found file place tree ∧ (∃ e, fault = .setup e) ∧
        previewed found file place tree = .error (.failure .noActiveDocument) ∨
      ¬ BothAtFault found file place tree ∧ previewed found file place tree = .error fault := by
  rcases found with _ | e | s
  -- a preview looks for the workspace, the document and the settings in this order, a generation for the
  -- workspace, the settings and the document
  · cases h
    refine Or.inr ⟨?_, rfl⟩
    rintro ⟨⟨e, he⟩, -⟩
    cases he
  · cases h
    cases hopened : opened file place tree with
    | error failure =>
      obtain ⟨rfl, hread⟩ := opened_error.mp hopened
      refine Or.inl ⟨⟨⟨e, rfl⟩, hread⟩, ⟨e, rfl⟩, ?_⟩
      simp only [previewed, hopened]
    | ok document =>
      refine Or.inr ⟨?_, ?_⟩
      · rintro ⟨-, e', he'⟩
        rw [opened_ok.mp hopened] at he'
        cases he'
      · simp only [previewed, hopened]
  · have hboth : ¬ BothAtFault (some (.ok s)) file place tree := by
      rintro ⟨⟨e, he⟩, -⟩
      cases he
    cases hopened : opened file place tree with
    | error failure =>
      simp only [generated, hopened] at h
      cases h
      refine Or.inr ⟨hboth, ?_⟩
      simp only [previewed, hopened]
    | ok document =>
      simp only [generated, hopened, Prod.mk.injEq] at h
      obtain ⟨hresult, -⟩ := h
      cases hsaved : (saved s file document place tree).1 with
      | ok path =>
        rw [hsaved] at hresult
        cases hresult
      | error failure =>
        rw [hsaved] at hresult
        cases hresult
        -- the failure is in the document, since it was not in saving
        have hbuilder := saved_error hsaved fun detail hdetail =>
          hsave detail (congrArg Fault.failure hdetail)
        refine Or.inr ⟨hboth, ?_⟩
        simp only [previewed, hopened, hbuilder]
        rfl

theorem outcome_ne_saveFailed {shows : LogFilter} {lines : List LogLine} {detail : Text}
    (h : ∀ detail,
      (fault.outcome shows lines).stderr ≠ (Failure.saveFailed detail).message ++ ['\n']) :
    fault ≠ .failure (.saveFailed detail) := by
  rintro rfl
  exact h detail rfl

/-- Unless both are at fault, a preview logs all errors that a generation logs. -/
theorem errors_previewLines {options : Options}
    (h : ¬ BothAtFault (settingsIn here options place tree) file place tree) :
    LogLine.errors (previewLines here options file place tree) =
      LogLine.errors (generateLines here options file place tree) := by
  cases hread : tree.read place file with
  | ok document => rw [previewLines_of_opened hread]
  | error e =>
    have hopened : opened file place tree = .error .noActiveDocument :=
      opened_error.mpr ⟨rfl, e, hread⟩
    rw [previewLines, hopened, errors_generateLines, errors_workspaceLines]
    cases hsettings : settingsIn here options place tree with
    | none => rfl
    | some settings =>
      cases settings with
      | ok s => rfl
      | error e' => exact absurd ⟨⟨e', hsettings⟩, e, hread⟩ h

/-- Where a run of `generate` fails in anything but saving, a run of `preview` with the same options
fails too and nothing is written. Both report the same, in the errors of the log too, except where
neither settings nor document could be read. -/
theorem preview_of_failed_generate {before after : List Text} {outer inner : Given}
    {outcome : Outcome}
    (hbefore : readLevel .program {} before = .ok (outer, []))
    (hafter : readLevel .generate {} after = .ok (inner, []))
    (hrun : (run here (before ++ "generate".toList :: after) : TreeM Outcome) place tree =
      (outcome, tree'))
    (hcode : outcome.code = 1)
    (hsave : ∀ detail, outcome.stderr ≠ (Failure.saveFailed detail).message ++ ['\n']) :
    let env := environmentAt here place tree
    let options := Given.options (env "TYPEBUILDER_CONFIG".toList) outer inner
    let found := settingsIn (here.complete place tree) options place tree
    ∃ file, inner.file = some file ∧ tree' = tree ∧
      ∃ outcome', (run here (before ++ "preview".toList :: after) : TreeM Outcome) place tree =
          (outcome', tree) ∧
        outcome'.code = 1 ∧
        (outcome'.stderr = outcome.stderr ∧ outcome'.errors = outcome.errors ↔
          ¬ BothAtFault found file place tree) := by
  intro env options found
  obtain ⟨file, hfile, hgenerate, hpreview⟩ :=
    asked_generate hbefore hafter hrun hcode
  have hasked := hpreview none after (readLevel_inFormat none hafter)
  rw [run_generate_eq hgenerate] at hrun
  split at hrun
  · rename_i fault last hgenerated
    cases hrun
    have hfault := previewed_of_generated hgenerated fun _ => outcome_ne_saveFailed hsave
    refine ⟨file, hfile, generated_error hgenerated, ?_⟩
    rw [run_preview_eq hasked]
    rcases hfault with ⟨hboth, ⟨e, rfl⟩, hpreviewed⟩ | ⟨hboth, hpreviewed⟩
    · rw [hpreviewed]
      refine ⟨_, rfl, rfl, ?_⟩
      refine iff_of_false ?_ (not_not_intro hboth)
      rintro ⟨hstderr, -⟩
      cases hstderr
    · rw [hpreviewed]
      refine ⟨_, rfl, fault.code_outcome, ?_⟩
      refine iff_of_true ⟨?_, ?_⟩ hboth
      · cases fault <;> rfl
      · rw [Fault.errors_outcome, Fault.errors_outcome, errors_previewLines hboth]
  · cases hrun
    cases hcode

def unsettledTree : FileTree where
  entries :=
    [(["typebuilder.toml".toList], .file (.text "suffix".toList)),
      (["user.ts".toList], .file (.text "export type User = \x7b name: string \x7d".toList))]

theorem preview_of_failed_generate_user :
    let here : Surroundings := { directory := "/".toList, environment := fun _ => none }
    let generated : Outcome × FileTree :=
      (run here ["-q".toList, "generate".toList, "user.ts".toList] : TreeM Outcome) [] unsettledTree
    let previewed : Outcome × FileTree :=
      (run here ["-q".toList, "preview".toList, "user.ts".toList] : TreeM Outcome) [] unsettledTree
    generated.1.code = 1 ∧ previewed.1.code = 1 ∧
      previewed.1.stderr = generated.1.stderr ∧ previewed.1.errors = generated.1.errors := by
  intro here generated previewed
  have hcode : generated.1.code = 1 := by decide +kernel
  have hstderr : generated.1.stderr = [] := by decide +kernel
  have hsave : ∀ detail, generated.1.stderr ≠ (Failure.saveFailed detail).message ++ ['\n'] := by
    intro detail
    rw [hstderr]
    nofun
  have hrun : (run here (["-q".toList] ++ "generate".toList :: ["user.ts".toList]) :
      TreeM Outcome) [] unsettledTree = (generated.1, generated.2) := (Prod.eta _).symm
  obtain ⟨file, hfile, -, outcome, hpreview, hfails, hsame⟩ := preview_of_failed_generate
    (rfl : readLevel .program {} ["-q".toList] = .ok ({ quiet := true }, []))
    (rfl : readLevel .generate {} ["user.ts".toList] =
      .ok ({ file := some "user.ts".toList }, [])) hrun hcode hsave
  have houtcome : previewed.1 = outcome := congrArg Prod.fst hpreview
  have hread : unsettledTree.read [] "user.ts".toList =
    .ok "export type User = \x7b name: string \x7d".toList := rfl
  have halone : ¬ BothAtFault (settingsIn (here.complete ([] : Location) unsettledTree)
      (Given.options (environmentAt here ([] : Location) unsettledTree "TYPEBUILDER_CONFIG".toList)
        { quiet := true } { file := some "user.ts".toList }) [] unsettledTree) file []
      unsettledTree := by
    cases hfile
    rintro ⟨-, e, he⟩
    rw [hread] at he
    cases he
  rw [houtcome]
  exact ⟨hcode, hfails, hsame.mpr halone⟩

/-- With the settings and the document both at fault, the two commands report different things. -/
theorem reports_differ_without_document :
    let here : Surroundings := { directory := "/".toList, environment := fun _ => none }
    let generated : Outcome × FileTree :=
      (run here ["generate".toList, "missing.ts".toList] : TreeM Outcome) [] unsettledTree
    let previewed : Outcome × FileTree :=
      (run here ["preview".toList, "missing.ts".toList] : TreeM Outcome) [] unsettledTree
    generated.1 = { code := 1, log := [.settingsMalformed, .stopped .malformed] } ∧
      previewed.1 = { code := 1, stderr := Failure.noActiveDocument.message ++ ['\n'] } := by
  decide +kernel

end FluentBuilder.CommandLine
