import FluentBuilder.Proofs.Session.Run
import FluentBuilder.Proofs.Settings.Valid

namespace FluentBuilder.Session

variable {session : Session}

def play (session : Session) : List Step → List Answer × Session
  | [] => ([], session)
  | s :: steps =>
    let (answer, next) := session.step s
    let (answers, last) := next.play steps
    (answer :: answers, last)

theorem reachable_play (steps : List Step) (h : Reachable session) :
    Reachable (session.play steps).2 := by
  induction steps generalizing session with
  | nil => exact h
  | cons s steps ih => exact ih (h.step s)

/-- The files stand in order, and the settings have passed every check. -/
structure Intact (session : Session) : Prop where
  sorted : session.files.Sorted
  valid : session.settings.Valid

theorem intact_fresh : Intact {} where
  sorted := List.Pairwise.nil
  valid := Settings.valid_default

theorem Intact.put {path text : Text} (h : session.Intact) :
    Intact { session with files := session.files.put path text } where
  sorted := Store.sorted_put path text h.sorted
  valid := h.valid

theorem Intact.run (h : session.Intact) : session.run.2.Intact := by
  rw [run_eq]
  rcases run_cases session with ⟨f, -, hfiles⟩ | ⟨path, text, b, -, -, -, -, hfiles⟩
  · rw [hfiles]
    exact h
  · rw [hfiles]
    exact h.put

theorem Intact.configure (env : Environment) (document : Text) (h : session.Intact) :
    (session.step (.configure env document)).2.Intact := by
  cases hread : Settings.ofDocument env document with
  | error e =>
    simp only [Session.step, hread]
    exact h
  | ok s =>
    simp only [Session.step, hread]
    exact ⟨h.sorted, Settings.valid_of_ofDocument hread⟩

theorem Intact.step (h : session.Intact) (s : Step) : (session.step s).2.Intact := by
  cases s with
  | put path text => exact h.put
  | openDocument path => exact ⟨h.sorted, h.valid⟩
  | setWorkspace root => exact ⟨h.sorted, h.valid⟩
  | setSaveError detail => exact ⟨h.sorted, h.valid⟩
  | configure env document => exact h.configure env document
  | run => exact h.run
  | read path => exact h

theorem Reachable.intact (h : Reachable session) : session.Intact := by
  induction h with
  | fresh => exact intact_fresh
  | step s _ ih => exact ih.step s

/-- Settings come into force only when they are valid with all references expanded, so that every
builder file is saved in the directory of its document. -/
theorem settings_in_force (h : Reachable session) :
    (∀ env document s, Settings.ofDocument env document = .ok s ↔
      ∃ written, (Toml.document? document).bind Settings.decode? = some written ∧
        Settings.expandReferences env written = .ok s ∧ s.Valid) ∧
    session.settings.Valid ∧
    (∀ s : Settings, s.Valid ↔ 1 ≤ s.generator.indentWidth ∧
      ¬ Text.IsSpace s.generator.setterPrefix ∧ ¬ Text.IsSpace s.suffix ∧
      '/' ∉ s.suffix ∧ '\\' ∉ s.suffix) ∧
    ∀ destination text, .save destination text ∈ session.run.1.calls →
      ∃ path directory, session.openPath = some path ∧
        Destination.IsDirectoryOf directory destination ∧
        Destination.IsDirectoryOf directory (Destination.normalize path) := by
  refine ⟨fun _ _ _ => Settings.ofDocument_eq_ok_iff, h.intact.valid,
    fun _ => Settings.valid_iff, ?_⟩
  intro destination text hsave
  have hcourse := course_run session
  rw [answers_editor] at hcourse
  obtain ⟨path, hpath, rfl⟩ := hcourse.eq_of_save_mem hsave
  have hslash := h.intact.valid.slash
  refine ⟨path, _, hpath, ?_, Destination.isDirectoryOf_iff.mpr rfl⟩
  rw [Destination.isDirectoryOf_ofDocument hslash]
  exact Destination.isDirectoryOf_iff.mpr rfl

theorem settings_in_force_expanded :
    let env : Environment := fun name => if name = "KIND".toList then some "fluent".toList else none
    let session := (play {} [
      .configure env "[output]\nsuffix = \"$\x7bKIND\x7d\"".toList,
      .configure env "[output]\nsuffix = \"$\x7bNONE:-a/b\x7d\"".toList,
      .setWorkspace (some "/work".toList),
      .put "src\\user.ts".toList "export type User = \x7b name: string \x7d".toList,
      .openDocument (some "src\\user.ts".toList)]).2
    let destination := "src/user.fluent.ts".toList
    session.settings = { suffix := "fluent".toList } ∧ session.settings.Valid ∧
      session.run.1.result = .ok destination ∧
      ∃ directory, Destination.IsDirectoryOf directory destination ∧
        Destination.IsDirectoryOf directory (Destination.normalize "src\\user.ts".toList) := by
  intro env session destination
  have hreach : Reachable session := reachable_play _ .fresh
  obtain ⟨-, hvalid, -, hsaves⟩ := settings_in_force hreach
  have hsave : .save destination (Builder.ofMembers {} "User".toList
      [{ name := "name".toList, type := "string".toList, optional := false }]).classText ∈
      session.run.1.calls := by decide +kernel
  obtain ⟨path, directory, hopen, hdestination, hdocument⟩ := hsaves _ _ hsave
  cases hopen
  exact ⟨by decide +kernel, hvalid, by decide +kernel, directory, hdestination, hdocument⟩

end FluentBuilder.Session
