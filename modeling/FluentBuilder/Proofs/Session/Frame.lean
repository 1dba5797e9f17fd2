import FluentBuilder.Proofs.Session.Invariant

namespace FluentBuilder.Session

variable {session : Session} {path : Text}

theorem step_run (session : Session) :
    session.step .run = (.transcript session.run.1, session.run.2) :=
  rfl

theorem mem_paths_run (h : path ∈ session.files.paths) : path ∈ session.run.2.files.paths := by
  rw [run_eq]
  rcases run_cases session with ⟨f, -, hfiles⟩ | ⟨document, text, b, -, -, -, -, hfiles⟩
  · rw [hfiles]
    exact h
  · rw [hfiles]
    exact Store.mem_paths_put h

theorem mem_paths_step (h : path ∈ session.files.paths) (s : Step) :
    path ∈ (session.step s).2.files.paths := by
  cases s with
  | put other text => exact Store.mem_paths_put h
  | configure env document =>
    cases hread : Settings.ofDocument env document with
    | error e =>
      simp only [step, hread]
      exact h
    | ok s =>
      simp only [step, hread]
      exact h
  | run => exact mem_paths_run h
  | _ => exact h

theorem mem_paths_play (h : path ∈ session.files.paths) (steps : List Step) :
    path ∈ (session.play steps).2.files.paths := by
  induction steps generalizing session with
  | nil => exact h
  | cons s steps ih => exact ih (mem_paths_step h s)

theorem Intact.ofDocument_ne (h : session.Intact) (path : Text) :
    Destination.ofDocument path session.settings.suffix ≠ path :=
  Destination.ofDocument_ne path h.valid.slash h.valid.backslash

theorem filed_filed (session : Session) (files : Store) :
    session.filed (session.filed files) = session.filed files := by
  rcases run_cases session with ⟨f, -, hfiles⟩ | ⟨path, text, b, -, -, -, -, hfiles⟩
  · rw [hfiles]
  · rw [hfiles, hfiles, Store.put_put]

/-- A run finds its own document as the run before has found it, and has nothing new to save. -/
theorem Intact.run_again (h : session.Intact) : session.run.2.run = session.run := by
  have hdocument : ∀ path, session.openPath = some path →
      (session.filed session.files).text? path = session.files.text? path := by
    intro path hopen
    exact text?_filed_of_ne hopen (h.ofDocument_ne path).symm session.files
  have hagain := run_with_files hdocument
  rw [filed_filed] at hagain
  rw [run_eq session]
  exact hagain

/-- A run that fails changes nothing. A run that does not changes the builder file of the open document
and nothing else, and running again changes nothing more. No steps make a path disappear. -/
theorem run_framed (h : Reachable session) :
    ∃ t after, session.step .run = (.transcript t, after) ∧
      (∀ f, t.result = .error f → after = session) ∧
      (∀ p, t.result = .ok p → ∃ path text b, session.openPath = some path ∧
        session.files.text? path = some text ∧
        Builder.ofDocument session.settings.generator text = .ok b ∧ p ≠ path ∧
        after = { session with files := after.files } ∧
        after.files.text? p = some b.classText ∧ after.files.text? path = some text ∧
        ∀ other, other ≠ p → after.files.text? other = session.files.text? other) ∧
      (∀ steps, ∀ path ∈ session.files.paths, path ∈ (session.play steps).2.files.paths) ∧
      after.step .run = (.transcript t, after) := by
  have hintact := h.intact
  refine ⟨session.run.1, session.run.2, step_run session, ?_, ?_,
    fun steps _ hpath => mem_paths_play hpath steps, ?_⟩
  · intro f hf
    rw [run_eq]
    rcases run_cases session with ⟨-, -, hfiles⟩ | ⟨path, text, b, -, -, -, hok, -⟩
    · rw [hfiles]
    · rw [hok] at hf
      cases hf
  · intro p hp
    rw [run_eq]
    rcases run_cases session with ⟨f, hf, -⟩ | ⟨path, text, b, hopen, htext, hb, hok, hfiles⟩
    · rw [hf] at hp
      cases hp
    · obtain rfl : Destination.ofDocument path session.settings.suffix = p :=
        Except.ok.inj (hok.symm.trans hp)
      -- the settings in force are valid, so a builder file is never its own document
      have hne := hintact.ofDocument_ne path
      refine ⟨path, text, b, hopen, htext, hb, hne, rfl, ?_, ?_, ?_⟩
      · rw [hfiles, Store.text?_put_self]
      · exact (text?_filed_of_ne hopen hne.symm _).trans htext
      · exact fun other hother => text?_filed_of_ne hopen hother _
  · rw [step_run, hintact.run_again]

theorem run_framed_stale :
    let session := (play {} [
      .setWorkspace (some "/work".toList),
      .put "src\\user.ts".toList "export type User = \x7b name: string \x7d".toList,
      .put "src/user.builder.ts".toList "stale".toList,
      .openDocument (some "src\\user.ts".toList)]).2
    session.files.text? "src/user.builder.ts".toList = some "stale".toList ∧
    ∃ t after, session.step .run = (.transcript t, after) ∧
      t.result = .ok "src/user.builder.ts".toList ∧
      after.files.text? "src/user.builder.ts".toList ≠ some "stale".toList ∧
      after.files.text? "src\\user.ts".toList = session.files.text? "src\\user.ts".toList ∧
      after.step .run = (.transcript t, after) := by
  intro session
  have hreach : Reachable session := reachable_play _ .fresh
  obtain ⟨t, after, hrun, -, hok, -, hagain⟩ := run_framed hreach
  obtain ⟨ht, rfl⟩ := Prod.mk.inj ((step_run session).symm.trans hrun)
  obtain rfl := Answer.transcript.inj ht
  have hresult : session.run.1.result = .ok "src/user.builder.ts".toList := by decide +kernel
  obtain ⟨-, -, -, -, -, -, -, -, -, -, hothers⟩ := hok _ hresult
  exact ⟨by decide +kernel, _, _, hrun, hresult, by decide +kernel,
    hothers _ (by decide), hagain⟩

end FluentBuilder.Session
