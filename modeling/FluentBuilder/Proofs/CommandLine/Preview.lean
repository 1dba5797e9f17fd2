import FluentBuilder.Proofs.CommandLine.Arguments
import FluentBuilder.Proofs.CommandLine.LogLines
import FluentBuilder.Proofs.Files.Tree

namespace FluentBuilder.CommandLine

open TreeM

variable {place : Location} {tree tree' : FileTree} {console console' : Console}
variable {here : Surroundings} {options : Options} {file : Text} {s : Settings}

/-- What a generation and a preview have to find in a tree. -/
structure Prepared (here : Surroundings) (options : Options) (file : Text) (place : Location)
    (tree : FileTree) where
  directory : Text
  settings : Settings
  document : Text
  builder : Builder
  hdirectory : (workspace? here options : TreeM _) place tree = (some directory, tree)
  hsettings : (Settings.load here.environment options.settingsFile directory : TreeM _) place tree =
    (.ok settings, tree)
  hdocument : tree.read place file = .ok document
  hbuilder : Builder.ofDocument settings.generator document = .ok builder

theorem generate_ok
    (h : (generate here options file : StateT Console TreeM _) console place tree =
      ((.ok (), console'), tree')) :
    (∃ p : Prepared here options file place tree,
      tree.write place (Destination.ofDocument file p.settings.suffix) p.builder.classText =
        .ok tree') ∧
    console'.log = console.log ++ generateLines here options file place tree := by
  rw [generate_eq] at h
  split at h
  · cases h
  · rename_i path last hgenerated
    cases h
    obtain ⟨s, document, builder, hfound, hdocument, hbuilder, hwrite⟩ := generated_ok hgenerated
    obtain ⟨directory, hdirectory, hsettings⟩ := Option.map_eq_some_iff.mp hfound
    have hworkspace := run_workspace? here options place tree
    have hload := (readOnly_load here.environment options.settingsFile directory).run_eq place tree
    rw [hdirectory] at hworkspace
    rw [hsettings] at hload
    refine ⟨⟨⟨directory, s, document, builder, hworkspace, hload, hdocument, hbuilder⟩, hwrite⟩, ?_⟩
    cases options.quiet with
    | false => rfl
    | true => rfl

theorem Prepared.settingsIn_eq_some (p : Prepared here options file place tree) :
    settingsIn here options place tree = some (.ok p.settings) := by
  have hdirectory : workspaceIn here options place tree = some p.directory :=
    congrArg Prod.fst p.hdirectory
  have hsettings : ((Settings.load here.environment options.settingsFile p.directory : TreeM _)
      place tree).1 = .ok p.settings :=
    congrArg Prod.fst p.hsettings
  rw [settingsIn, hdirectory, Option.map_some, hsettings]

theorem run_preview (p : Prepared here options file place tree) (format : Format)
    (console : Console) :
    (preview here options file format : StateT Console TreeM _) console place tree =
      ((.ok (), { console.withLines (generateLines here options file place tree) with
        stdout := console.stdout ++ printed p.builder format }), tree) := by
  have hopened : opened file place tree = .ok p.document := opened_ok.mpr p.hdocument
  have hbuilt : previewed (settingsIn here options place tree) file place tree = .ok p.builder := by
    simp only [p.settingsIn_eq_some, previewed, hopened, p.hbuilder]
    rfl
  rw [preview_eq, hbuilt, previewLines_of_opened p.hdocument]
  rfl

/-- The arguments of a generation that is no wrong usage name a file, and name it for a preview too. -/
theorem asked_generate {before after : List Text} {outer inner : Given} {outcome : Outcome}
    {code : Nat}
    (hbefore : readLevel .program {} before = .ok (outer, []))
    (hafter : readLevel .generate {} after = .ok (inner, []))
    (hrun : (run here (before ++ "generate".toList :: after) : TreeM Outcome) place tree =
      (outcome, tree'))
    (hcode : outcome.code = code) (hused : code ≠ 2 := by decide) (halive : code ≠ 101 := by decide) :
    let settingsVariable := environmentAt here place tree "TYPEBUILDER_CONFIG".toList
    let options := Given.options settingsVariable outer inner
    ∃ file, inner.file = some file ∧
      asked here place tree (before ++ "generate".toList :: after) = .ok (.generate file, options) ∧
      ∀ format adds, readLevel .preview {} adds = .ok (inner.inFormat format, []) →
        asked here place tree (before ++ "preview".toList :: adds) =
          .ok (.preview file (format.getD .text), options) := by
  intro settingsVariable options
  have hstop : ∀ stop, asked here place tree (before ++ "generate".toList :: after) = .error stop →
      stop.outcome.code = code := by
    intro stop hasked
    rw [run_of_stop hasked] at hrun
    cases hrun
    exact hcode
  -- A run that ends with this code has got as far as its command, whose arguments are complete then.
  cases hvariables : variablesAt here place tree with
  | none =>
    have hcrash : asked here place tree (before ++ "generate".toList :: after) = .error .crash := by
      rw [asked, hvariables]
    exact absurd (hstop .crash hcrash).symm halive
  | some environment =>
    have hread : ∀ arguments,
        asked here place tree arguments = readArguments settingsVariable arguments :=
      fun arguments => asked_of_some hvariables
    simp only [hread] at hstop ⊢
    have hgenerate : readArguments settingsVariable (before ++ "generate".toList :: after) = _ :=
      readArguments_append hbefore rfl hafter
    by_cases hempty : settingsVariable = some [] ∧ (outer.config.isNone ∨ inner.config.isNone)
    · rw [if_pos hempty] at hgenerate
      exact absurd (hstop _ hgenerate).symm hused
    · rw [if_neg hempty] at hgenerate
      cases hfile : inner.file with
      | none =>
        simp only [Given.command?, hfile, Option.map_none, Option.elim_none] at hgenerate
        exact absurd (hstop _ hgenerate).symm hused
      | some file =>
        refine ⟨file, rfl, ?_, ?_⟩
        · rw [hgenerate]
          simp only [Given.command?, hfile]
          rfl
        · intro format adds hadds
          rw [readArguments_append hbefore rfl hadds]
          simp only [Given.command?, Given.inFormat, hfile, if_neg hempty]
          rfl

/-- Where a run of `generate` succeeds, a run of `preview` with the same options prints the text that
it leaves in its file, or on request the builder as JSON, and writes nothing. Both log the same, and no
errors. -/
theorem preview_of_generate {before after : List Text} {outer inner : Given} {outcome : Outcome}
    (hbefore : readLevel .program {} before = .ok (outer, []))
    (hafter : readLevel .generate {} after = .ok (inner, []))
    (hrun : (run here (before ++ "generate".toList :: after) : TreeM Outcome) place tree =
      (outcome, tree'))
    (hcode : outcome.code = 0) :
    let env := environmentAt here place tree
    let options := Given.options (env "TYPEBUILDER_CONFIG".toList) outer inner
    ∃ file, ∃ p : Prepared { here with environment := env } options file place tree,
      inner.file = some file ∧ outcome.errors = [] ∧
      tree.write place (Destination.ofDocument file p.settings.suffix) p.builder.classText =
        .ok tree' ∧
      tree'.read place (Destination.ofDocument file p.settings.suffix) = .ok p.builder.classText ∧
      (run here (before ++ "preview".toList :: after) : TreeM Outcome) place tree =
        ({ code := 0, stdout := p.builder.classText, log := outcome.log }, tree) ∧
      (run here (before ++ "preview".toList :: "--format".toList :: "json".toList :: after) :
        TreeM Outcome) place tree =
        ({ code := 0, stdout := p.builder.jsonText ++ ['\n'], log := outcome.log }, tree) ∧
      ∀ adds, readLevel .preview {} adds = .ok (inner.inFormat (some .json), []) →
        (run here (before ++ "preview".toList :: adds) : TreeM Outcome) place tree =
          ({ code := 0, stdout := p.builder.jsonText ++ ['\n'], log := outcome.log }, tree) := by
  intro env options
  obtain ⟨file, hfile, hgenerate, hpreview⟩ := asked_generate hbefore hafter hrun hcode
  -- The generation must have come to its last step, which hands over all that a preview needs.
  obtain ⟨⟨p, hwrite⟩, hlog⟩ :
      (∃ p : Prepared { here with environment := env } options file place tree,
        tree.write place (Destination.ofDocument file p.settings.suffix) p.builder.classText =
          .ok tree') ∧
      outcome.log = (generateLines (here.complete place tree) options file place tree).filter
        ((here.complete place tree).logFilter options) := by
    rcases hcommand : (generate (here.complete place tree) options file : StateT Console TreeM _)
      {} place tree with ⟨⟨r, console⟩, last⟩
    rw [run_of_command hgenerate hcommand] at hrun
    cases hrun
    cases code_eq_zero hcode
    obtain ⟨hprepared, hlines⟩ := generate_ok hcommand
    exact ⟨hprepared, congrArg (List.filter _) hlines⟩
  have herrors : outcome.errors = [] := by
    have hsettings : settingsIn (here.complete place tree) options place tree = some (.ok p.settings) :=
      p.settingsIn_eq_some
    rw [Outcome.errors, hlog, LogLine.errors_filter, errors_generateLines, hsettings]
    rfl
  have hrun' : ∀ format adds, readLevel .preview {} adds = .ok (inner.inFormat format, []) →
      (run here (before ++ "preview".toList :: adds) : TreeM Outcome) place tree =
        ({ code := 0, stdout := printed p.builder (format.getD .text), log := outcome.log },
          tree) := by
    intro format adds hadds
    rw [hlog]
    exact run_of_command (hpreview format adds hadds) (run_preview p _ {})
  refine ⟨file, p, hfile, herrors, hwrite, FileTree.read_of_write hwrite, ?_, ?_, ?_⟩
  · exact hrun' none after (readLevel_inFormat none hafter)
  · exact hrun' (some .json) _ (readLevel_json hafter)
  · exact hrun' (some .json)

def userTree : FileTree where
  entries :=
    [(["user.ts".toList], .file (.text "export type User = \x7b name: string \x7d".toList))]

theorem preview_of_generate_user :
    let here : Surroundings := { directory := "/".toList, environment := fun _ => none }
    let generated : Outcome × FileTree :=
      (run here ["-v".toList, "generate".toList, "user.ts".toList] : TreeM Outcome) [] userTree
    generated.1.code = 0 ∧
    ∃ path text, generated.2.read [] path = .ok text ∧
      (run here ["-v".toList, "preview".toList, "user.ts".toList] : TreeM Outcome) [] userTree =
        ({ code := 0, stdout := text }, userTree) := by
  intro here generated
  have hcode : generated.1.code = 0 := by decide +kernel
  have hlog : generated.1.log = [] := by decide +kernel
  have hrun : (run here (["-v".toList] ++ "generate".toList :: ["user.ts".toList]) :
      TreeM Outcome) [] userTree = (generated.1, generated.2) := (Prod.eta _).symm
  obtain ⟨file, p, _, _, _, hread, hpreview, _⟩ := preview_of_generate
    (rfl : readLevel .program {} ["-v".toList] = .ok ({ verbose := 1 }, []))
    (rfl : readLevel .generate {} ["user.ts".toList] =
      .ok ({ file := some "user.ts".toList }, [])) hrun hcode
  rw [hlog] at hpreview
  exact ⟨hcode, _, _, hread, hpreview⟩

end FluentBuilder.CommandLine
