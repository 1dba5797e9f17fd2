import FluentBuilder.Proofs.CommandLine.LogLines
import FluentBuilder.Proofs.Editor.Relation

namespace FluentBuilder.CommandLine

open Editor

variable {ρ σ α β : Type} {console : Console}

/-- Begun with a console, the computation ends on every disk with a result and a console that are as
described. -/
def Ends (act : StateT Console (DiskM ρ σ) α) (console : Console) (post : α → Console → Prop) : Prop :=
  ∀ place disk, post (act console place disk).1.1 (act console place disk).1.2

theorem ends_pure {post : α → Console → Prop} {a : α} (h : post a console) :
    Ends (pure a : StateT Console (DiskM ρ σ) α) console post :=
  fun _ _ => h

theorem Ends.bind {act : StateT Console (DiskM ρ σ) α} {next : α → StateT Console (DiskM ρ σ) β}
    {between : α → Console → Prop} {post : β → Console → Prop} (h : Ends act console between)
    (hnext : ∀ a console', between a console' → Ends (next a) console' post) :
    Ends (act >>= next) console post := by
  intro place disk
  exact hnext _ _ (h place disk) place (act console place disk).2

theorem ends_pure_bind {a : α} {next : α → StateT Console (DiskM ρ σ) β} {post : β → Console → Prop}
    (h : Ends (next a) console post) : Ends (pure a >>= next) console post :=
  h

theorem ends_print {text : Text} {next : Unit → StateT Console (DiskM ρ σ) α}
    {post : α → Console → Prop}
    (h : Ends (next ()) { console with stdout := console.stdout ++ text } post) :
    Ends (print text >>= next) console post :=
  h

theorem ends_printError {line : Text} {next : Unit → StateT Console (DiskM ρ σ) α}
    {post : α → Console → Prop}
    (h : Ends (next ()) { console with stderr := console.stderr ++ line ++ ['\n'] } post) :
    Ends (printError line >>= next) console post :=
  h

/-- Nothing has been printed, and these are the errors for the log. -/
def Told (errors : List LogLine) (console : Console) : Prop :=
  console.stdout = [] ∧ console.stderr = [] ∧ LogLine.errors console.log = errors

theorem told_empty : Told [] {} :=
  ⟨rfl, rfl, rfl⟩

theorem Told.withLines {errors : List LogLine} (h : Told errors console) (lines : List LogLine) :
    Told (errors ++ LogLine.errors lines) (console.withLines lines) := by
  obtain ⟨hstdout, hstderr, herrors⟩ := h
  refine ⟨hstdout, hstderr, ?_⟩
  rw [Console.withLines, LogLine.errors_append, herrors]

/-- The computation prints nothing and logs no errors. -/
def Discreet (act : StateT Console (DiskM ρ σ) α) : Prop :=
  ∀ errors console, Told errors console → Ends act console fun _ => Told errors

theorem discreet_pure (a : α) : Discreet (pure a : StateT Console (DiskM ρ σ) α) :=
  fun _ _ htold => ends_pure htold

theorem discreet_liftM (act : DiskM ρ σ α) : Discreet (liftM act : StateT Console (DiskM ρ σ) α) :=
  fun _ _ htold _ _ => htold

theorem discreet_log {lines : List LogLine} (h : LogLine.errors lines = []) :
    Discreet (log lines : StateT Console (DiskM ρ σ) Unit) := by
  intro errors console htold place disk
  have htold' := htold.withLines lines
  rwa [h, List.append_nil] at htold'

theorem Discreet.bind_ends {act : StateT Console (DiskM ρ σ) α}
    {next : α → StateT Console (DiskM ρ σ) β} {post : β → Console → Prop} {errors : List LogLine}
    (h : Discreet act) (htold : Told errors console)
    (hnext : ∀ a console', Told errors console' → Ends (next a) console' post) :
    Ends (act >>= next) console post :=
  (h errors console htold).bind hnext

theorem Discreet.bind {act : StateT Console (DiskM ρ σ) α} {next : α → StateT Console (DiskM ρ σ) β}
    (h : Discreet act) (hnext : ∀ a, Discreet (next a)) : Discreet (act >>= next) :=
  fun errors _ htold => h.bind_ends htold fun a => hnext a errors

theorem composes_discreet : Composes fun α (act _ : StateT Console (DiskM ρ σ) α) => Discreet act where
  pure := discreet_pure
  bind := Discreet.bind

/-- What a command prints when it succeeds: a notice of the file it has written, unless it is to be
quiet, or the builder for a preview. -/
def Command.Prints (quiet : Bool) : Command → Text → Prop
  | .generate _, text =>
    ∃ path, text = if quiet then [] else "Builder created: ".toList ++ path ++ ['\n']
  | .init _, text => ∃ path, text = if quiet then [] else "Created ".toList ++ path ++ ['\n']
  | .preview _ format, text => ∃ b, text = printed b format

/-- The errors that a command has logged itself when it ends with a fault. Writing settings reads
none. -/
def Command.causes : Command → Fault → List LogLine
  | .generate _, .setup e | .preview _ _, .setup e => e.cause?.toList
  | .init _, .setup _ | _, .failure _ => []

def Ended (command : Command) (quiet : Bool) (r : Except Fault Unit) (console : Console) : Prop :=
  match r with
  | .ok _ => console.stderr = [] ∧ LogLine.errors console.log = [] ∧ command.Prints quiet console.stdout
  | .error fault =>
    ∃ console', Told (command.causes fault) console' ∧ console = reported console' fault

section Commands

variable [FileSystem (DiskM ρ σ)] {command : Command} {quiet : Bool}

theorem told_openWorkspace (here : Surroundings) (options : Options) :
    Ends (openWorkspace here options : StateT Console (DiskM ρ σ) _) {} fun _ => Told [] := by
  refine (discreet_liftM _).bind_ends told_empty fun workspace _ htold => ?_
  refine (discreet_log (errors_workspaceLines options workspace)).bind_ends htold fun _ _ htold => ?_
  exact ends_pure htold

theorem told_loadSettings (here : Surroundings) (options : Options) (directory : Text)
    (h : Told [] console) :
    Ends (loadSettings here options directory : StateT Console (DiskM ρ σ) _) console
      fun settings => Told (Settings.causes settings) := by
  intro place disk
  let loaded := ((Settings.loadLogged here.environment options.settingsFile directory :
    DiskM ρ σ _) place disk).1
  have herrors : LogLine.errors loaded.2 = Settings.causes loaded.1 :=
    Settings.errors_loadLogged here.environment options.settingsFile directory place disk
  change Told (Settings.causes loaded.1) (console.withLines loaded.2)
  rw [← herrors]
  exact h.withLines loaded.2

theorem discreet_documentText (file : Text) (quiet : Bool) :
    Discreet (terminal file quiet : Editor (StateT Console (DiskM ρ σ))).documentText :=
  (discreet_liftM _).bind fun _ => discreet_pure _

theorem discreet_openText (file : Text) (quiet : Bool) (workspace : Option Text) :
    Discreet ((terminal file quiet : Editor (StateT Console (DiskM ρ σ))).openText workspace) :=
  composes_discreet.openText (terminal file quiet) (terminal file quiet)
    (discreet_documentText file quiet) workspace

theorem discreet_saveBuilder (file : Text) (quiet : Bool) (workspace : Option Text) (s : Settings) :
    Discreet ((logging (terminal file quiet) : Editor (StateT Console (DiskM ρ σ))).saveBuilder
      workspace s) := by
  apply composes_discreet.saveBuilder (logging (terminal file quiet)) (logging (terminal file quiet))
  · refine (discreet_documentText file quiet).bind fun text => ?_
    refine (discreet_log ?_).bind fun _ => discreet_pure _
    cases text with
    | none => rfl
    | some document => exact Builder.errors_documentLines document
  · exact discreet_pure _
  · exact fun _ _ => discreet_liftM _

/-- What a generation does once it has its settings. -/
theorem ended_made (file : Text) (quiet : Bool) (workspace : Option Text) (s : Settings)
    (h : Told [] console) :
    Ends (do
      match ← (logging (terminal file quiet)).createBuilder workspace s with
      | .error failure => return .error (.failure failure)
      | .ok _ => return .ok () : StateT Console (DiskM ρ σ) (Except Fault Unit)) console
      (Ended (.generate file) quiet) := by
  have hcreated : Ends ((logging (terminal file quiet) :
      Editor (StateT Console (DiskM ρ σ))).createBuilder workspace s) console
      fun r => Ended (.generate file) quiet ((r.mapError .failure).map fun _ => ()) := by
    refine (discreet_saveBuilder file quiet workspace s).bind_ends h fun r console htold => ?_
    obtain ⟨hstdout, hstderr, herrors⟩ := htold
    cases r with
    | error failure => exact ends_printError (ends_pure ⟨console, ⟨hstdout, hstderr, herrors⟩, rfl⟩)
    | ok path =>
      cases quiet with
      | true => exact ends_pure_bind (ends_pure ⟨hstderr, herrors, path, hstdout⟩)
      | false => exact ends_print (ends_pure ⟨hstderr, herrors, path, by rw [hstdout]; rfl⟩)
  refine hcreated.bind fun r console' hended => ?_
  cases r with
  | error failure => exact ends_pure hended
  | ok path => exact ends_pure hended

theorem ended_generate (here : Surroundings) (options : Options) (file : Text) :
    Ends (generate here options file : StateT Console (DiskM ρ σ) _) {}
      (Ended (.generate file) options.quiet) := by
  refine (told_openWorkspace here options).bind fun workspace console htold => ?_
  cases workspace with
  | none => exact ends_pure_bind (ended_made file options.quiet none {} htold)
  | some directory =>
    refine (told_loadSettings here options directory htold).bind fun settings console htold => ?_
    cases settings with
    | error e => exact ends_pure ⟨console, htold, rfl⟩
    | ok s => exact ended_made file options.quiet (some directory) s htold

theorem ended_preview (here : Surroundings) (options : Options) (file : Text) (format : Format) :
    Ends (preview here options file format : StateT Console (DiskM ρ σ) _) {}
      (Ended (.preview file format) options.quiet) := by
  refine (told_openWorkspace here options).bind fun workspace console htold => ?_
  refine (discreet_openText file options.quiet workspace).bind_ends htold fun opened console htold => ?_
  cases opened with
  | error failure => exact ends_printError (ends_pure ⟨console, htold, rfl⟩)
  | ok document =>
    refine (told_loadSettings here options _ htold).bind fun settings console htold => ?_
    cases settings with
    | error e => exact ends_pure ⟨console, htold, rfl⟩
    | ok s =>
      have hlog := discreet_log (ρ := ρ) (σ := σ) (Builder.errors_documentLines document)
      refine hlog.bind_ends htold fun _ console htold => ?_
      dsimp only
      obtain ⟨hstdout, hstderr, herrors⟩ := htold
      cases Builder.ofDocument s.generator document with
      | error failure => exact ends_printError (ends_pure ⟨console, ⟨hstdout, hstderr, herrors⟩, rfl⟩)
      | ok b =>
        cases format with
        | text => exact ends_print (ends_pure ⟨hstderr, herrors, b, by rw [hstdout]; rfl⟩)
        | json => exact ends_print (ends_pure ⟨hstderr, herrors, b, by rw [hstdout]; rfl⟩)

theorem ended_init (here : Surroundings) (options : Options) (force : Bool) :
    Ends (init here options force : StateT Console (DiskM ρ σ) _) {}
      (Ended (.init force) options.quiet) := by
  refine (told_openWorkspace here options).bind fun workspace console htold => ?_
  refine (discreet_liftM _).bind_ends htold fun kind console htold => ?_
  by_cases hexists : kind.isSome && !force
  · rw [if_pos hexists]
    exact ends_pure ⟨console, htold, rfl⟩
  · rw [if_neg hexists]
    refine (discreet_liftM _).bind_ends htold fun written console htold => ?_
    cases written with
    | error detail => exact ends_pure ⟨console, htold, rfl⟩
    | ok _ =>
      obtain ⟨hstdout, hstderr, herrors⟩ := htold
      cases hquiet : options.quiet with
      | true => exact ends_pure ⟨hstderr, herrors, [], hstdout⟩
      | false => exact ends_print (ends_pure ⟨hstderr, herrors, _, by rw [hstdout]; rfl⟩)

theorem ended_command (here : Surroundings) (options : Options) (command : Command) :
    Ends (command.run here options : StateT Console (DiskM ρ σ) _) {}
      (Ended command options.quiet) := by
  cases command with
  | generate file => exact ended_generate here options file
  | preview file format => exact ended_preview here options file format
  | init force => exact ended_init here options force

variable {here : Surroundings} {arguments : List Text} {place : ρ} {disk : σ} {options : Options}
variable {shows : LogFilter} {fault : Fault} {lines : List LogLine}

theorem outcomeOf_of_ended (h : Ended command quiet (.error fault) console) :
    outcomeOf shows console (.error fault) = fault.outcome shows console.log ∧
      LogLine.errors console.log = command.causes fault := by
  obtain ⟨⟨stdout, stderr, log⟩, ⟨hstdout, hstderr, herrors⟩, rfl⟩ := h
  cases hstdout
  cases hstderr
  have hlog : (reported (Console.withLines {} log) fault).log = log := by
    cases fault <;> rfl
  change outcomeOf shows (reported (Console.withLines {} log) fault) (.error fault) =
    fault.outcome shows (reported (Console.withLines {} log) fault).log ∧
      LogLine.errors (reported (Console.withLines {} log) fault).log = command.causes fault
  rw [hlog]
  exact ⟨outcomeOf_reported fault, herrors⟩

theorem quiet_of_ended {u : Unit} (h : Ended command quiet (.ok u) console) :
    (outcomeOf shows console (.ok u)).stderr = [] ∧ (outcomeOf shows console (.ok u)).errors = [] := by
  obtain ⟨hstderr, herrors, -⟩ := h
  refine ⟨hstderr, ?_⟩
  change LogLine.errors (console.log.filter shows) = []
  rw [LogLine.errors_filter, herrors, List.filter_nil]

/-- A run on a disk is asked for a command, and the command fails and has these lines for the log. -/
def FailsWith (here : Surroundings) (arguments : List Text) (place : ρ) (disk : σ) (command : Command)
    (options : Options) (fault : Fault) (lines : List LogLine) : Prop :=
  let begun := ((withVariables here : DiskM ρ σ _) place disk).2
  let ended := ((command.run (here.complete place disk) options : StateT Console (DiskM ρ σ) _) {}
    place begun).1
  asked here place disk arguments = .ok (command, options) ∧ ended.1 = .error fault ∧
    ended.2.log = lines

theorem run_of_fails (h : FailsWith here arguments place disk command options fault lines) :
    ((run here arguments : DiskM ρ σ Outcome) place disk).1 =
        fault.outcome ((here.complete place disk).logFilter options) lines ∧
      LogLine.errors lines = command.causes fault := by
  obtain ⟨hasked, hfault, rfl⟩ := h
  have hended := ended_command (here.complete place disk) options command place
    ((withVariables here : DiskM ρ σ _) place disk).2
  rw [run_of_asked hasked]
  rw [hfault] at hended ⊢
  exact outcomeOf_of_ended hended

/-- A run that is asked for a command fails with it, or ends with no errors. -/
theorem fails_or_quiet (h : asked here place disk arguments = .ok (command, options)) :
    (∃ fault lines, FailsWith here arguments place disk command options fault lines) ∨
      let outcome := ((run here arguments : DiskM ρ σ Outcome) place disk).1
      outcome.code = 0 ∧ outcome.stderr = [] ∧ outcome.errors = [] ∧
        command.Prints options.quiet outcome.stdout := by
  let ended := ((command.run (here.complete place disk) options : StateT Console (DiskM ρ σ) _) {}
    place ((withVariables here : DiskM ρ σ _) place disk).2).1
  have hended : Ended command options.quiet ended.1 ended.2 :=
    ended_command (here.complete place disk) options command place _
  cases hresult : ended.1 with
  | error fault => exact Or.inl ⟨fault, ended.2.log, h, hresult, rfl⟩
  | ok u =>
    rw [hresult] at hended
    have hrun : ((run here arguments : DiskM ρ σ Outcome) place disk).1 =
        outcomeOf ((here.complete place disk).logFilter options) ended.2 (.ok u) := by
      rw [run_of_asked h, ← hresult]
    obtain ⟨hstderr, herrors⟩ := quiet_of_ended hended
    refine Or.inr ?_
    simp only [hrun]
    exact ⟨rfl, hstderr, herrors, hended.2.2⟩

/-- A run that succeeds has printed what its command prints. -/
theorem run_prints (h : asked here place disk arguments = .ok (command, options))
    (hcode : ((run here arguments : DiskM ρ σ _) place disk).1.code = 0) :
    command.Prints options.quiet ((run here arguments : DiskM ρ σ _) place disk).1.stdout := by
  obtain ⟨fault, lines, hfails⟩ | ⟨-, -, -, hprints⟩ := fails_or_quiet h
  · rw [(run_of_fails hfails).1, fault.code_outcome] at hcode
    cases hcode
  · exact hprints

end Commands

end FluentBuilder.CommandLine
