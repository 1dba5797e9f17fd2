import FluentBuilder.Proofs.CommandLine.QuietOption
import FluentBuilder.Proofs.CommandLine.Report
import FluentBuilder.Proofs.CommandLine.Workspace

namespace FluentBuilder.CommandLine

open Editor

variable {ρ σ α β : Type} {here : Surroundings} {options : Options}

def Console.hushed (console : Console) : Console :=
  { console with stdout := [] }

/-- Begun with nothing but the errors on the console, `quiet` does on every disk what `loud` does, and
ends with nothing but the errors of `loud`. -/
def Hushes (loud quiet : StateT Console (DiskM ρ σ) α) : Prop :=
  ∀ console place disk,
    quiet console.hushed place disk =
      (((loud console place disk).1.1, (loud console place disk).1.2.hushed),
        (loud console place disk).2)

theorem hushes_pure (a : α) : Hushes (pure a : StateT Console (DiskM ρ σ) α) (pure a) :=
  fun _ _ _ => rfl

theorem hushes_liftM (act : DiskM ρ σ α) :
    Hushes (liftM act : StateT Console (DiskM ρ σ) α) (liftM act) :=
  fun _ _ _ => rfl

theorem hushes_printError (line : Text) :
    Hushes (printError line : StateT Console (DiskM ρ σ) Unit) (printError line) :=
  fun _ _ _ => rfl

theorem hushes_log (lines : List LogLine) :
    Hushes (log lines : StateT Console (DiskM ρ σ) Unit) (log lines) :=
  fun _ _ _ => rfl

/-- A notice is what a quiet run leaves out. -/
theorem hushes_print (notice : Text) :
    Hushes (print notice : StateT Console (DiskM ρ σ) Unit) (pure ()) :=
  fun _ _ _ => rfl

theorem Hushes.bind {loud quiet : StateT Console (DiskM ρ σ) α}
    {next next' : α → StateT Console (DiskM ρ σ) β} (h : Hushes loud quiet)
    (hnext : ∀ a, Hushes (next a) (next' a)) : Hushes (loud >>= next) (quiet >>= next') := by
  intro console place disk
  change next' (quiet console.hushed place disk).1.1 (quiet console.hushed place disk).1.2 place
    (quiet console.hushed place disk).2 = _
  rw [h console place disk]
  exact hnext _ _ place _

theorem composes_hushes :
    Composes fun α (loud quiet : StateT Console (DiskM ρ σ) α) => Hushes loud quiet where
  pure := hushes_pure
  bind := Hushes.bind

theorem hushes_pure_bind {a : α} {next next' : α → StateT Console (DiskM ρ σ) β}
    (h : Hushes (next a) (next' a)) : Hushes (pure a >>= next) (pure a >>= next') :=
  h

section Commands

variable [FileSystem (DiskM ρ σ)]

theorem hushes_openWorkspace :
    Hushes (openWorkspace here options : StateT Console (DiskM ρ σ) _)
      (openWorkspace here options.quietly) :=
  (hushes_liftM _).bind fun _ => (hushes_log _).bind fun _ => hushes_pure _

theorem hushes_loadSettings (directory : Text) :
    Hushes (loadSettings here options directory : StateT Console (DiskM ρ σ) _)
      (loadSettings here options.quietly directory) :=
  (hushes_liftM _).bind fun _ => (hushes_log _).bind fun _ => hushes_pure _

theorem hushes_createBuilder (file : Text) (workspace : Option Text) (s : Settings) :
    Hushes
      ((logging (terminal file false) : Editor (StateT Console (DiskM ρ σ))).createBuilder workspace
        s)
      ((logging (terminal file true) : Editor (StateT Console (DiskM ρ σ))).createBuilder workspace
        s) := by
  apply composes_hushes.createBuilder (logging (terminal file false)) (logging (terminal file true))
  · refine Hushes.bind ((hushes_liftM _).bind fun _ => hushes_pure _) fun text => ?_
    exact (hushes_log _).bind fun _ => hushes_pure _
  · exact hushes_pure _
  · exact fun _ _ => hushes_liftM _
  · exact hushes_printError
  · exact fun message => hushes_print (message ++ ['\n'])

/-- The same for what a generation does once it has its settings. -/
theorem hushes_made (file : Text) (workspace : Option Text) (s : Settings) :
    let made (quiet : Bool) : StateT Console (DiskM ρ σ) (Except Fault Unit) := do
      match ← (logging (terminal file quiet)).createBuilder workspace s with
      | .error failure => return .error (.failure failure)
      | .ok _ => return .ok ()
    Hushes (made false) (made true) := by
  refine (hushes_createBuilder file workspace s).bind fun r => ?_
  cases r with
  | error failure => exact hushes_pure _
  | ok path => exact hushes_pure _

theorem hushes_generate (hloud : options.quiet = false) (file : Text) :
    Hushes (generate here options file : StateT Console (DiskM ρ σ) _)
      (generate here options.quietly file) := by
  obtain ⟨path, settingsFile, verbose, quiet⟩ := options
  obtain rfl : quiet = false := hloud
  refine hushes_openWorkspace.bind fun workspace => ?_
  cases workspace with
  | none => exact hushes_pure_bind (hushes_made file none {})
  | some directory =>
    refine (hushes_loadSettings directory).bind fun settings => ?_
    cases settings with
    | error e => exact hushes_pure _
    | ok s => exact hushes_made file (some directory) s

theorem hushes_init (hloud : options.quiet = false) (force : Bool) :
    Hushes (init here options force : StateT Console (DiskM ρ σ) _)
      (init here options.quietly force) := by
  refine hushes_openWorkspace.bind fun workspace => ?_
  refine (hushes_liftM _).bind fun kind => ?_
  by_cases hexists : kind.isSome && !force
  · rw [if_pos hexists, if_pos hexists]
    exact hushes_pure _
  · rw [if_neg hexists, if_neg hexists]
    refine (hushes_liftM _).bind fun written => ?_
    cases written with
    | error detail => exact hushes_pure _
    | ok _ =>
      rw [hloud]
      exact (hushes_print _).bind fun _ => hushes_pure _

/-- A preview gives no notices, so there is none to keep back. -/
theorem preview_quietly (file : Text) (format : Format) :
    ((Command.preview file format).run here options.quietly : StateT Console (DiskM ρ σ) _) =
      (Command.preview file format).run here options :=
  rfl

theorem hushes_command {command : Command} (hloud : options.quiet = false)
    (hnotices : ∀ file format, command ≠ .preview file format) :
    Hushes (command.run here options : StateT Console (DiskM ρ σ) _)
      (command.run here options.quietly) := by
  cases command with
  | generate file => exact hushes_generate hloud file
  | preview file format => exact absurd rfl (hnotices file format)
  | init force => exact hushes_init hloud force

/-- What a quiet run prints where another prints this: a builder is no notice. -/
def Command.quietText : Command → Text → Text
  | .preview _ _, printed => printed
  | .generate _, _ | .init _, _ => []

/-- What a quiet run shows of the log: its errors, unless a filter was given. -/
def Outcome.quietLog (given? : Option LogFilter) (outcome : Outcome) : List LogLine :=
  match given? with
  | some _ => outcome.log
  | none => outcome.errors

theorem outcomeOf_hushed (shows : LogFilter) (console : Console) (r : Except Fault Unit) :
    outcomeOf shows console.hushed r = { outcomeOf shows console r with stdout := [] } := by
  rcases r with (f | e) | u
  · rfl
  · rfl
  · rfl

/-- Errors pass the filter of a quiet run, and nothing else does if the filter is its own. -/
theorem outcomeOf_quietly (here : Surroundings) (options : Options) (console : Console)
    (r : Except Fault Unit) :
    let loud := outcomeOf (here.logFilter options) console r
    outcomeOf (here.logFilter options.quietly) console r =
      { loud with log := loud.quietLog here.givenFilter? } := by
  intro loud
  cases hgiven : here.givenFilter? with
  -- a filter that was given holds whether the run is quiet or not
  | some given =>
    have hsame : here.logFilter options.quietly = here.logFilter options := by
      rw [Surroundings.logFilter, Surroundings.logFilter, hgiven, Option.getD_some, Option.getD_some]
    rw [hsame]
    rfl
  | none =>
    have hquiet : here.logFilter options.quietly = .ofLimit .error := by
      rw [Surroundings.logFilter, hgiven]
      rfl
    have hshown : ∀ lines : List LogLine, LogLine.errors (lines.filter (here.logFilter options)) =
        lines.filter (LogFilter.ofLimit .error) := by
      intro lines
      rw [Surroundings.logFilter, hgiven, Option.getD_none, LogFilter.errors_filter_ofLimit,
        LogFilter.filter_ofLimit_error]
    rw [hquiet]
    rcases r with (f | e) | u
    · simp only [loud, Outcome.quietLog, Outcome.errors, outcomeOf, hshown]
    · simp only [loud, Outcome.quietLog, Outcome.errors, outcomeOf, hshown]
    · simp only [loud, Outcome.quietLog, Outcome.errors, outcomeOf, hshown]

theorem errors_quietLog (given? : Option LogFilter) (outcome : Outcome) :
    LogLine.errors (outcome.quietLog given?) = outcome.errors := by
  cases given? with
  | some given => rfl
  | none => exact LogLine.errors_errors outcome.log

section Asked

variable {place : ρ} {disk : σ} {arguments arguments' : List Text} {command : Command}

theorem run_preview_quietly {file : Text} {format : Format}
    (hasked : asked here place disk arguments = .ok (.preview file format, options))
    (hquiet : asked here place disk arguments' = .ok (.preview file format, options.quietly)) :
    let loud : Outcome × σ := (run here arguments : DiskM ρ σ Outcome) place disk
    (run here arguments' : DiskM ρ σ Outcome) place disk =
      ({ loud.1 with log := loud.1.quietLog (here.complete place disk).givenFilter? }, loud.2) := by
  intro loud
  have hloud : loud = _ := run_of_asked hasked
  rw [run_of_asked hquiet, hloud, preview_quietly, outcomeOf_quietly]

/-- A quiet run of any other command leaves the same disk and all of the same outcome but its notices. -/
theorem run_hushed (hasked : asked here place disk arguments = .ok (command, options))
    (hquiet : asked here place disk arguments' = .ok (command, options.quietly))
    (hloud : options.quiet = false) (hnotices : ∀ file format, command ≠ .preview file format) :
    let loud : Outcome × σ := (run here arguments : DiskM ρ σ Outcome) place disk
    (run here arguments' : DiskM ρ σ Outcome) place disk =
      ({ loud.1 with
          stdout := []
          log := loud.1.quietLog (here.complete place disk).givenFilter? }, loud.2) := by
  intro loud
  let begun := ((withVariables here : DiskM ρ σ _) place disk).2
  let ended := (command.run (here.complete place disk) options :
    StateT Console (DiskM ρ σ) _) {} place begun
  have hhushed : (command.run (here.complete place disk) options.quietly :
      StateT Console (DiskM ρ σ) _) {} place begun = ((ended.1.1, ended.1.2.hushed), ended.2) :=
    hushes_command hloud hnotices {} place begun
  have hended : loud = (outcomeOf ((here.complete place disk).logFilter options) ended.1.2 ended.1.1,
    ended.2) := run_of_asked hasked
  rw [run_of_asked hquiet, hhushed, hended, outcomeOf_hushed, outcomeOf_quietly]

/-- The option to be quiet only keeps notices back, and warnings. Wherever it can stand among the
arguments of a command that is not quiet, the same is asked for quietly; anywhere else it is wrong usage.
And a run that is asked for the same quietly ends on every disk with the same code, the same errors, on
the console and in the log, and the same files. It prints the same for a preview, and for any other
command nothing, where the other run prints a notice if it succeeds. Of the log it shows the errors
alone, or all that a filter lets pass that was given. -/
theorem run_quiet (hasked : asked here place disk arguments = .ok (command, options))
    (hloud : options.quiet = false) :
    (∀ before after spelled, arguments = before ++ after → spelled ∈ quietSpellings →
      asked here place disk (before ++ spelled :: after) =
        if takesOption before then .ok (command, options.quietly) else .error .wrongUsage) ∧
    ∀ arguments', asked here place disk arguments' = .ok (command, options.quietly) →
      let loud : Outcome × σ := (run here arguments : DiskM ρ σ Outcome) place disk
      let quiet : Outcome × σ := (run here arguments' : DiskM ρ σ Outcome) place disk
      quiet.1.code = loud.1.code ∧ quiet.1.stderr = loud.1.stderr ∧
        quiet.1.errors = loud.1.errors ∧ quiet.2 = loud.2 ∧
        quiet.1.stdout = command.quietText loud.1.stdout ∧
        quiet.1.log = loud.1.quietLog (here.complete place disk).givenFilter? ∧
        (loud.1.code = 0 → command.Prints false loud.1.stdout) := by
  refine ⟨?_, fun arguments' hquiet => ?_⟩
  · rintro before after spelled rfl hspelled
    cases hvariables : variablesAt here place disk with
    | none =>
      rw [asked, hvariables] at hasked
      cases hasked
    | some environment =>
      rw [asked_of_some hvariables] at hasked ⊢
      exact readArguments_insert hspelled hasked hloud
  · intro loud quiet
    have hprints : loud.1.code = 0 → command.Prints false loud.1.stdout :=
      hloud ▸ run_prints hasked
    have herrors := errors_quietLog (here.complete place disk).givenFilter? loud.1
    cases command with
    | preview file format =>
      have hsame : quiet = _ := run_preview_quietly hasked hquiet
      rw [hsame]
      exact ⟨rfl, rfl, herrors, rfl, rfl, rfl, hprints⟩
    | generate _ | init _ =>
      have hhushed : quiet = _ := run_hushed hasked hquiet hloud (by rintro _ _ ⟨⟩)
      rw [hhushed]
      exact ⟨rfl, rfl, herrors, rfl, rfl, rfl, hprints⟩

end Asked

end Commands

theorem run_quiet_generate :
    let here : Surroundings := { directory := "/work".toList, environment := fun _ => none }
    let place : Location := ["work".toList]
    let tree := workTree [[]]
    let loud : Outcome × FileTree :=
      (run here ["generate".toList, "user.ts".toList] : DiskM Location FileTree Outcome) place tree
    let quiet : Outcome × FileTree :=
      (run here ["generate".toList, "-q".toList, "user.ts".toList] :
        DiskM Location FileTree Outcome) place tree
    quiet.1.code = 0 ∧ quiet.1.stdout = [] ∧ quiet.2 = loud.2 ∧
      ∃ path, loud.1.stdout = "Builder created: ".toList ++ path ++ ['\n'] := by
  intro here place tree
  have hasked : asked here place tree ["generate".toList, "user.ts".toList] =
      .ok (.generate "user.ts".toList, {}) := by decide +kernel
  have hcode : ((run here ["generate".toList, "user.ts".toList] :
      DiskM Location FileTree Outcome) place tree).1.code = 0 := by decide +kernel
  have hplace : takesOption ["generate".toList] = true := by decide
  obtain ⟨hinsert, hruns⟩ := run_quiet hasked rfl
  have hquiet : asked here place tree ["generate".toList, "-q".toList, "user.ts".toList] =
      .ok (.generate "user.ts".toList, Options.quietly {}) :=
    (hinsert ["generate".toList] ["user.ts".toList] "-q".toList rfl (by decide)).trans (if_pos hplace)
  obtain ⟨hsame, -, -, htree, hstdout, -, hprints⟩ := hruns _ hquiet
  exact ⟨hsame.trans hcode, hstdout, htree, hprints hcode⟩

end FluentBuilder.CommandLine
