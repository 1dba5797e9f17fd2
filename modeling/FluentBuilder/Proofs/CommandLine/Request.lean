import FluentBuilder.CommandLine.Run

namespace FluentBuilder.CommandLine

/-- Acts on a disk with states `σ` from a place in it. File trees are one kind of disk. -/
abbrev DiskM (ρ σ : Type) := ReaderT ρ (StateM σ)

example : DiskM Location FileTree = TreeM := rfl

variable {ρ σ α β : Type} {here : Surroundings} {place : ρ} {disk : σ} {arguments arguments' : List Text}
variable {command : Command} {options : Options} {stop : Stop}

theorem run_bind_disk (act : DiskM ρ σ α) (next : α → DiskM ρ σ β) (place : ρ) (disk : σ) :
    (act >>= next) place disk = next (act place disk).1 place (act place disk).2 :=
  rfl

variable [FileSystem (DiskM ρ σ)]

def variablesAt (here : Surroundings) (place : ρ) (disk : σ) : Option Environment :=
  ((withVariables here : DiskM ρ σ _) place disk).1

def environmentAt (here : Surroundings) (place : ρ) (disk : σ) : Environment :=
  (variablesAt here place disk).getD here.environment

def Surroundings.complete (here : Surroundings) (place : ρ) (disk : σ) : Surroundings :=
  { here with environment := environmentAt here place disk }

def asked (here : Surroundings) (place : ρ) (disk : σ) (arguments : List Text) :
    Except Stop (Command × Options) :=
  match variablesAt here place disk with
  | none => .error .crash
  | some environment => readArguments (environment "TYPEBUILDER_CONFIG".toList) arguments

theorem asked_of_some {environment : Environment}
    (h : variablesAt here place disk = some environment) :
    asked here place disk arguments =
      readArguments (environmentAt here place disk "TYPEBUILDER_CONFIG".toList) arguments := by
  rw [asked, environmentAt, h]
  rfl

theorem readArguments_of_asked {read : Command × Options}
    (h : asked here place disk arguments = .ok read) :
    readArguments (environmentAt here place disk "TYPEBUILDER_CONFIG".toList) arguments = .ok read := by
  cases hvariables : variablesAt here place disk with
  | none =>
    rw [asked, hvariables] at h
    cases h
  | some environment => rwa [asked_of_some hvariables] at h

/-- What holds of arguments under every value of the variable holds of what a run is asked to do. -/
theorem asked_map (change : Command × Options → Command × Options)
    (h : ∀ settingsVariable, readArguments settingsVariable arguments' =
      (readArguments settingsVariable arguments).map change) :
    asked here place disk arguments' = (asked here place disk arguments).map change := by
  unfold asked
  cases variablesAt here place disk with
  | none => rfl
  | some environment => exact h _

theorem run_of_stop_disk (h : asked here place disk arguments = .error stop) :
    (run here arguments : DiskM ρ σ Outcome) place disk =
      (stop.outcome, ((withVariables here : DiskM ρ σ _) place disk).2) := by
  rw [run, run_bind_disk]
  unfold asked variablesAt at h
  split at h
  · rename_i hvariables
    cases h
    rw [hvariables]
    rfl
  · rename_i environment hvariables
    rw [hvariables]
    dsimp only
    rw [h]
    rfl

theorem run_of_asked (h : asked here place disk arguments = .ok (command, options)) :
    let begun := ((withVariables here : DiskM ρ σ _) place disk).2
    let ended := (command.run (here.complete place disk) options : StateT Console (DiskM ρ σ) _)
      {} place begun
    (run here arguments : DiskM ρ σ Outcome) place disk =
      (outcomeOf ((here.complete place disk).logFilter options) ended.1.2 ended.1.1, ended.2) := by
  intro begun ended
  rw [run, run_bind_disk]
  unfold asked at h
  cases hvariables : variablesAt here place disk with
  | none =>
    rw [hvariables] at h
    cases h
  | some environment =>
    have hcomplete : here.complete place disk = { here with environment } := by
      rw [Surroundings.complete, environmentAt, hvariables]
      rfl
    rw [hvariables] at h
    unfold variablesAt at hvariables
    simp only [ended, hcomplete]
    rw [hvariables]
    dsimp only at h ⊢
    rw [h]
    rfl

/-- A run depends on its arguments only through what they ask for. -/
theorem run_congr (h : asked here place disk arguments' = asked here place disk arguments) :
    (run here arguments' : DiskM ρ σ Outcome) place disk =
      (run here arguments : DiskM ρ σ Outcome) place disk := by
  cases hasked : asked here place disk arguments with
  | error stop => rw [run_of_stop_disk hasked, run_of_stop_disk (h.trans hasked)]
  | ok read =>
    obtain ⟨command, options⟩ := read
    rw [run_of_asked hasked, run_of_asked (h.trans hasked)]

end FluentBuilder.CommandLine
