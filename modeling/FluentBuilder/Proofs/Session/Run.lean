import FluentBuilder.Proofs.Builder.Destination
import FluentBuilder.Proofs.Editor.Transcript
import FluentBuilder.Proofs.Session.Store

namespace FluentBuilder.Session

open Editor

variable {α β : Type} {session : Session}

def made (session : Session) : Call → Session
  | .save path text =>
    match session.saveError with
    | some _ => session
    | none => { session with files := session.files.put path text }
  | _ => session

def replay (session : Session) (calls : List Call) : Session :=
  calls.foldl made session

/-- A computation that keeps its calls does to every session what the new ones do. -/
def Accounted (act : StateT (List Call) (StateM Session) α) : Prop :=
  ∀ calls session, ∃ new, ((act.run calls).run session).1.2 = calls ++ new ∧
    ((act.run calls).run session).2 = session.replay new

theorem accounted_pure (a : α) : Accounted (pure a) := by
  intro calls session
  exact ⟨[], (List.append_nil calls).symm, rfl⟩

theorem Accounted.bind {act : StateT (List Call) (StateM Session) α}
    {next : α → StateT (List Call) (StateM Session) β} (h : Accounted act)
    (hnext : ∀ a, Accounted (next a)) : Accounted (act >>= next) := by
  intro calls session
  rcases hrun : (act.run calls).run session with ⟨⟨a, calls'⟩, between⟩
  obtain ⟨new, hcalls, hbetween⟩ := h calls session
  rw [hrun] at hcalls hbetween
  obtain ⟨later, hlater, hafter⟩ := hnext a calls' between
  rw [run_bind next hrun]
  refine ⟨new ++ later, ?_, ?_⟩
  · rw [hlater, ← List.append_assoc]
    exact congrArg (· ++ later) hcalls
  · rw [hafter, replay, replay, List.foldl_append]
    exact congrArg (later.foldl made) hbetween

theorem accounted_noted {call : Call} {act : StateM Session α}
    (h : ∀ session, (act.run session).2 = session.made call) : Accounted (noted call act) := by
  intro calls session
  rcases hact : act.run session with ⟨a, after⟩
  rw [run_noted hact]
  refine ⟨[call], rfl, ?_⟩
  have hafter := h session
  rw [hact] at hafter
  exact hafter

theorem run_save_snd (path text : Text) (session : Session) :
    ((editor.save path text).run session).2 = session.made (.save path text) := by
  obtain ⟨files, openPath, workspace, saveError, settings⟩ := session
  cases saveError with
  | none => rfl
  | some detail => rfl

theorem composes_accounted :
    Composes fun α (act _ : StateT (List Call) (StateM Session) α) => Accounted act where
  pure := accounted_pure
  bind := Accounted.bind

theorem accounted_createBuilder (workspace : Option Text) (s : Settings) :
    Accounted (editor.recorded.createBuilder workspace s) := by
  apply composes_accounted.createBuilder editor.recorded editor.recorded
  · exact accounted_noted fun _ => rfl
  · exact accounted_noted fun _ => rfl
  · exact fun path text => accounted_noted (run_save_snd path text)
  · exact fun _ => accounted_noted fun _ => rfl
  · exact fun _ => accounted_noted fun _ => rfl

theorem run_snd (session : Session) : session.run.2 = session.replay session.run.1.calls := by
  obtain ⟨new, hcalls, hafter⟩ :=
    accounted_createBuilder session.workspace session.settings [] session
  rw [List.nil_append] at hcalls
  rw [← hcalls] at hafter
  exact hafter

theorem replay_eq (session : Session) (calls : List Call) :
    session.replay calls = { session with files := (session.replay calls).files } := by
  induction calls generalizing session with
  | nil => rfl
  | cons call calls ih =>
    have hmade : session.made call = { session with files := (session.made call).files } := by
      obtain ⟨files, openPath, workspace, saveError, settings⟩ := session
      cases call with
      | save path text => cases saveError <;> rfl
      | _ => rfl
    have hlater := ih (session.made call)
    rw [hmade] at hlater
    rw [replay, List.foldl_cons, hmade]
    exact hlater

def filed (session : Session) (files : Store) : Store :=
  (replay { session with files } session.run.1.calls).files

theorem run_eq (session : Session) :
    session.run = (session.run.1, { session with files := session.filed session.files }) :=
  Prod.ext rfl ((run_snd session).trans (replay_eq session session.run.1.calls))

theorem answers_editor (session : Session) :
    editor.answers session =
      { text := session.openPath.bind session.files.text?
        path := session.openPath
        saved := fun _ _ =>
          match session.saveError with
          | some detail => .error detail
          | none => .ok () } := by
  obtain ⟨files, openPath, workspace, saveError, settings⟩ := session
  cases saveError with
  | none => rfl
  | some detail => rfl

theorem course_run (session : Session) :
    Course (editor.answers session) session.settings session.workspace session.run.1 :=
  course_transcript editor session session.workspace session.settings

/-- A run fails and leaves every file alone, or it puts the builder of the open document beside it. -/
theorem run_cases (session : Session) :
    (∃ f, session.run.1.result = .error f ∧ ∀ files, session.filed files = files) ∨
    ∃ path text b, session.openPath = some path ∧ session.files.text? path = some text ∧
      Builder.ofDocument session.settings.generator text = .ok b ∧
      session.run.1.result = .ok (Destination.ofDocument path session.settings.suffix) ∧
      ∀ files, session.filed files =
        files.put (Destination.ofDocument path session.settings.suffix) b.classText := by
  have hcourse := course_run session
  rw [answers_editor] at hcourse
  unfold filed
  generalize session.run.1 = t at hcourse ⊢
  obtain ⟨files, openPath, workspace, saveError, settings⟩ := session
  -- the only course of a run that ends well is the last one
  cases hcourse with
  | noWorkspace => exact Or.inl ⟨_, rfl, fun _ => rfl⟩
  | noDocument _ => exact Or.inl ⟨_, rfl, fun _ => rfl⟩
  | noPath _ _ => exact Or.inl ⟨_, rfl, fun _ => rfl⟩
  | notBuilt _ _ _ => exact Or.inl ⟨_, rfl, fun _ => rfl⟩
  | notSaved _ _ _ hsaved =>
    cases saveError with
    | none => cases hsaved
    | some detail => exact Or.inl ⟨_, rfl, fun _ => rfl⟩
  | @saved root text path b htext hpath hbuilder hsaved =>
    cases saveError with
    | some detail => cases hsaved
    | none =>
      obtain rfl : openPath = some path := hpath
      exact Or.inr ⟨path, text, b, rfl, htext, hbuilder, rfl, fun _ => rfl⟩

/-- Other files make no difference to a run if they hold the same open document. -/
theorem run_with_files {files : Store}
    (h : ∀ path, session.openPath = some path → files.text? path = session.files.text? path) :
    ({ session with files } : Session).run =
      (session.run.1, { session with files := session.filed files }) := by
  have htext : session.openPath.bind files.text? = session.openPath.bind session.files.text? := by
    cases hpath : session.openPath with
    | none => rfl
    | some path => exact h path hpath
  have hanswers : editor.answers { session with files } = editor.answers session := by
    rw [answers_editor, answers_editor]
    simp only [htext]
  have hcourse := course_run { session with files }
  rw [hanswers] at hcourse
  have hsame : ({ session with files } : Session).run.1 = session.run.1 :=
    hcourse.unique (course_run session)
  rw [run_eq, filed, hsame]
  rfl

/-- A run leaves every file alone but the builder file of the open document. -/
theorem text?_filed_of_ne {path other : Text} (hopen : session.openPath = some path)
    (h : other ≠ Destination.ofDocument path session.settings.suffix) (files : Store) :
    (session.filed files).text? other = files.text? other := by
  rcases run_cases session with ⟨f, -, hfiles⟩ | ⟨document, text, b, hdocument, -, -, -, hfiles⟩
  · rw [hfiles]
  · obtain rfl : document = path := Option.some.inj (hdocument.symm.trans hopen)
    rw [hfiles, Store.text?_put_of_ne h]

end FluentBuilder.Session
