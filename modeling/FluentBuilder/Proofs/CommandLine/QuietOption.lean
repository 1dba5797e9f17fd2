import FluentBuilder.Proofs.CommandLine.Arguments

namespace FluentBuilder.CommandLine

variable {level : Level} {g g' : Given} {spelled : Text} {read after rest : List Text}

def quietSpellings : List Text :=
  ["-q".toList, "--quiet".toList]

/-- Whether an option can stand behind these arguments: none of them waits for its value, and no double
dash has made words of all that follows. -/
def takesOption (arguments : List Text) : Bool :=
  match readLevel .program {} arguments with
  | .ok (_, []) => true
  | .ok (_, name :: rest) =>
    (Level.ofName? name).any fun level =>
      (readLevel level {} rest).isOk && !rest.contains ['-', '-']
  | .error _ => false

def Given.quietly (g : Given) : Given :=
  { g with quiet := true }

def Options.quietly (options : Options) : Options :=
  { options with quiet := true }

theorem note_quietly {flag : Flag} (h : g.note level flag = .ok g') (hQ : g'.quiet = false) :
    g.quiet = false ∧ g.quietly.note level flag = .ok g'.quietly := by
  revert h
  fun_cases Given.note g level flag <;> intro h <;> cases h <;>
    simp_all [Given.note, Given.quietly]

theorem noteValue_quietly {flag : Flag} {value : Text} (h : g.noteValue flag value = .ok g')
    (hQ : g'.quiet = false) :
    g.quiet = false ∧ g.quietly.noteValue flag value = .ok g'.quietly := by
  revert h
  fun_cases Given.noteValue g flag value <;> intro h <;> cases h <;>
    simp_all [Given.noteValue, Given.quietly]

theorem noteWord_quietly {word : Text} (h : g.noteWord level word = .ok g')
    (hQ : g'.quiet = false) :
    g.quiet = false ∧ g.quietly.noteWord level word = .ok g'.quietly := by
  revert h
  fun_cases Given.noteWord g level word <;> intro h <;> cases h
  simp_all [Given.noteWord, Given.quietly]

/-- What is read aloud is read alike when the run is to be quiet. -/
theorem carries_quietly (level : Level) :
    Carries level level Given.quietly fun g => g.quiet = false where
  program := Iff.rfl
  letter _ _ h := h
  long _ _ h := h
  note _ _ _ _ h hQ := note_quietly h hQ
  noteValue _ _ _ _ _ h hQ := noteValue_quietly h hQ
  noteWord _ _ _ h hQ := noteWord_quietly h hQ

theorem isOption_of_spelled (hspelled : spelled ∈ quietSpellings) : isOption spelled = true := by
  revert spelled
  decide

theorem readLevel_quiet_cons (hspelled : spelled ∈ quietSpellings) (hloud : g.quiet = false) :
    readLevel level g (spelled :: after) = readLevel level g.quietly after := by
  have hdashes : spelled ≠ ['-', '-'] := by
    rintro rfl
    exact absurd hspelled (by decide)
  have hnote : g.note level .quiet = .ok g.quietly := by
    simp only [Given.note, hloud]
    rfl
  have hread : readOption level g spelled = .ok (g.quietly, none) := by
    simp only [quietSpellings, List.mem_cons, List.not_mem_nil, or_false] at hspelled
    rcases hspelled with rfl | rfl
    · change (do let g ← g.note level .quiet; readLetters level g []) = _
      rw [hnote]
      rfl
    · change (do return (← g.note level .quiet, none)) = _
      rw [hnote]
      rfl
  rw [readLevel, if_neg hdashes, if_pos (isOption_of_spelled hspelled), hread]

theorem readLevel_insert_quiet (hspelled : spelled ∈ quietSpellings) {g₁ : Given}
    (hopen : level = .program ∨ ['-', '-'] ∉ read) (hread : readLevel level g read = .ok (g₁, []))
    (h : readLevel level g (read ++ after) = .ok (g', rest)) (hloud : g'.quiet = false) :
    readLevel level g (read ++ spelled :: after) = .ok (g'.quietly, rest) := by
  rw [readLevel_append_eq hopen hread] at h ⊢
  obtain ⟨hloud₁, hafter⟩ := (carries_quietly level).readLevel h hloud
  rw [readLevel_quiet_cons hspelled hloud₁]
  exact hafter

/-- An option does not take another for its value. -/
theorem readLevel_insert_error {stop : Stop} (hoption : isOption spelled = true)
    (hread : readLevel level g read = .error stop)
    (h : readLevel level g (read ++ after) = .ok (g', rest)) :
    readLevel level g (read ++ spelled :: after) = .error .wrongUsage := by
  -- Whatever else is at fault in the arguments is so too when more of them follow.
  fun_induction readLevel level g read with
  | case1 g => cases hread
  | case2 g words hp =>
    simp only [List.cons_append, readLevel, hp, if_true] at h
    cases h
  | case3 g words hp =>
    simp only [List.cons_append, readLevel, hp, if_true, if_false, List.foldlM_append] at h
    cases hwords : words.foldlM (·.noteWord level ·) g with
    | error stop' =>
      rw [hwords] at h
      cases h
    | ok g₁ =>
      rw [hwords] at hread
      cases hread
  | case4 g argument words hdash hopt stop' hreads =>
    simp only [List.cons_append, readLevel, hdash, hopt, hreads, if_true, if_false] at h
    cases h
  | case5 g argument words hdash hopt g₁ hreads ih =>
    simp only [List.cons_append, readLevel, hdash, hopt, hreads, if_true, if_false] at h ⊢
    exact ih hread h
  | case6 g argument hdash hopt g₁ flag hreads =>
    simp [readLevel, hdash, hopt, hreads, hoption]
  | case7 g argument hdash hopt g₁ flag hreads value words hvalue =>
    simp only [List.cons_append, readLevel, hdash, hopt, hreads, hvalue, if_true, if_false] at h
    cases h
  | case8 g argument hdash hopt g₁ flag hreads value words hvalue stop' hnote =>
    simp [readLevel, hdash, hopt, hreads, hvalue, hnote] at h
  | case9 g argument hdash hopt g₁ flag hreads value words hvalue g₂ hnote ih =>
    simp [List.cons_append, readLevel, hdash, hopt, hreads, hvalue, hnote] at h ⊢
    exact ih hread h
  | case10 => cases hread
  | case11 g argument words hdash hopt hp stop' hword =>
    simp only [List.cons_append, readLevel, hdash, hopt, hp, hword, if_false] at h
    cases h
  | case12 g argument words hdash hopt hp g₁ hword ih =>
    simp only [List.cons_append, readLevel, hdash, hopt, hp, hword, if_false] at h ⊢
    exact ih hread h

theorem noteWord_eq_error {word : Text} {stop : Stop} (h : g.noteWord level word = .error stop) :
    stop = .wrongUsage := by
  revert h
  fun_cases Given.noteWord g level word <;> intro h <;> cases h
  rfl

theorem noteWord_eq_ok {word : Text} (h : g.noteWord level word = .ok g') :
    (level = .generate ∨ level = .preview) ∧ g.file = none ∧ g'.file = some word := by
  revert h
  fun_cases Given.noteWord g level word with
  | case1 hfits =>
    intro h
    cases h
    exact ⟨hfits.1, Option.isNone_iff_eq_none.mp hfits.2.1, rfl⟩
  | case2 =>
    intro h
    cases h

theorem exists_file_of_command {command : Command} (hlevel : level = .generate ∨ level = .preview)
    (h : g.command? level = .ok command) : ∃ file, g.file = some file := by
  cases hfile : g.file with
  | some file => exact ⟨file, rfl⟩
  | none =>
    rcases hlevel with rfl | rfl
    · rw [Given.command?, hfile] at h
      cases h
    · rw [Given.command?, hfile] at h
      cases h

/-- A command takes no more words than it needs. -/
theorem noteWords_insert {command : Command} {before after : List Text}
    (h : (before ++ after).foldlM (·.noteWord level ·) g = .ok g')
    (hcommand : g'.command? level = .ok command) :
    (before ++ spelled :: after).foldlM (·.noteWord level ·) g = .error .wrongUsage := by
  induction before generalizing g with
  | cons word before ih =>
    rw [List.cons_append, List.foldlM_cons] at h ⊢
    obtain ⟨g₁, hword, hwords⟩ := bind_eq_ok.mp h
    rw [hword]
    exact ih hwords
  | nil =>
    rw [List.nil_append, List.foldlM_cons]
    cases hspelled : g.noteWord level spelled with
    | error stop =>
      rw [noteWord_eq_error hspelled]
      rfl
    | ok g₁ =>
      -- The option has been taken for the file, so the file itself is one word too many.
      obtain ⟨hlevel, hnone, hfile⟩ := noteWord_eq_ok hspelled
      cases after with
      | nil =>
        cases h
        obtain ⟨file, hsome⟩ := exists_file_of_command hlevel hcommand
        rw [hnone] at hsome
        cases hsome
      | cons word after =>
        change (g₁.noteWord level word >>= _) = _
        cases hword : g₁.noteWord level word with
        | error stop =>
          rw [noteWord_eq_error hword]
          rfl
        | ok g₂ =>
          obtain ⟨-, hnone₁, -⟩ := noteWord_eq_ok hword
          rw [hfile] at hnone₁
          cases hnone₁

theorem readLevel_insert_dashes {command : Command} {left : List Text} {g₁ : Given}
    (hlevel : level ≠ .program) (hdashes : ['-', '-'] ∈ read)
    (hread : readLevel level g read = .ok (g₁, left))
    (h : readLevel level g (read ++ after) = .ok (g', rest))
    (hcommand : g'.command? level = .ok command) :
    readLevel level g (read ++ spelled :: after) = .error .wrongUsage := by
  have htail : ∀ {argument : Text} {words : List Text}, argument ≠ ['-', '-'] →
      ['-', '-'] ∈ argument :: words → ['-', '-'] ∈ words :=
    fun hne hmem => (List.mem_cons.mp hmem).resolve_left hne.symm
  -- the case behind the double dash is the third: the option counts as one word too many there
  fun_induction readLevel level g read with
  | case1 g => cases hdashes
  | case2 g words hp => exact absurd hp hlevel
  | case3 g words hp =>
    simp only [List.cons_append, readLevel, hp, if_true, if_false] at h ⊢
    obtain ⟨g₂, hwords, hg⟩ := bind_eq_ok.mp h
    cases hg
    rw [noteWords_insert hwords hcommand]
    rfl
  | case5 g argument words hdash hopt g₂ hreads ih =>
    simp only [List.cons_append, readLevel, hdash, hopt, hreads, if_true, if_false] at h ⊢
    exact ih (htail hdash hdashes) hread h
  | case9 g argument hdash hopt g₂ flag hreads value words hvalue g₃ hnote ih =>
    simp [List.cons_append, readLevel, hdash, hopt, hreads, hvalue, hnote] at h ⊢
    have hne : value ≠ ['-', '-'] := ne_dashes_of_isOption (Bool.eq_false_iff.mpr hvalue)
    exact ih (htail hne (htail hdash hdashes)) hread h
  | case10 g argument words hdash hopt hp => exact absurd hp hlevel
  | case12 g argument words hdash hopt hp g₂ hword ih =>
    simp only [List.cons_append, readLevel, hdash, hopt, hp, hword, if_false] at h ⊢
    exact ih (htail hdash hdashes) hread h
  | _ => cases hread

theorem readLevel_left_eq_nil {left : List Text} {g₁ : Given} (hlevel : level ≠ .program)
    (h : readLevel level g read = .ok (g₁, left)) : left = [] := by
  fun_induction readLevel level g read with
  | case1 g =>
    cases h
    rfl
  | case3 g words hp =>
    obtain ⟨g₂, -, hg⟩ := bind_eq_ok.mp h
    cases hg
    rfl
  | case5 g argument words hdash hopt g₂ hreads ih => exact ih h
  | case9 g argument hdash hopt g₂ flag hreads value words hvalue g₃ hnote ih => exact ih h
  | case10 g argument words hdash hopt hp => exact absurd hp hlevel
  | case12 g argument words hdash hopt hp g₂ hword ih => exact ih h
  | _ => cases h

theorem ofName?_ne_program {name : Text} (h : Level.ofName? name = some level) :
    level ≠ .program := by
  rintro rfl
  unfold Level.ofName? at h
  split_ifs at h <;> cases h

/-- At the level of a command the option asks for the same quietly where it can stand, and is wrong
anywhere else. -/
theorem readLevel_insert {command : Command} (hspelled : spelled ∈ quietSpellings)
    (hlevel : level ≠ .program) (h : readLevel level {} (read ++ after) = .ok (g', rest))
    (hcommand : g'.command? level = .ok command) (hloud : g'.quiet = false) :
    readLevel level {} (read ++ spelled :: after) =
      if (readLevel level {} read).isOk && !read.contains ['-', '-'] then .ok (g'.quietly, rest)
      else .error .wrongUsage := by
  cases hread : readLevel level {} read with
  | error stop => exact readLevel_insert_error (isOption_of_spelled hspelled) hread h
  | ok reading =>
    obtain ⟨g₁, left⟩ := reading
    obtain rfl := readLevel_left_eq_nil hlevel hread
    by_cases hdashes : ['-', '-'] ∈ read
    · have hcontains : read.contains ['-', '-'] = true := List.contains_iff_mem.mpr hdashes
      rw [hcontains, readLevel_insert_dashes hlevel hdashes hread h hcommand]
      rfl
    · have hcontains : read.contains ['-', '-'] = false := by simpa using hdashes
      rw [hcontains, readLevel_insert_quiet hspelled (Or.inr hdashes) hread h hloud]
      rfl

section Arguments

variable {settingsVariable : Option Text} {before : List Text} {command : Command} {options : Options}

/-- Added to the arguments of a command that is not quiet, the option asks for the same quietly where it
can stand, and is wrong anywhere else. -/
theorem readArguments_insert (hspelled : spelled ∈ quietSpellings)
    (h : readArguments settingsVariable (before ++ after) = .ok (command, options))
    (hloud : options.quiet = false) :
    readArguments settingsVariable (before ++ spelled :: after) =
      if takesOption before then .ok (command, options.quietly) else .error .wrongUsage := by
  obtain ⟨outer, name, rest, level, inner, left, houter, hname, hinner, hempty, hcommand, rfl⟩ :=
    readArguments_eq_ok_iff.mp h
  obtain ⟨hinnerLoud, houterLoud⟩ : inner.quiet = false ∧ outer.quiet = false :=
    Bool.or_eq_false_iff.mp hloud
  rw [takesOption]
  cases hbefore : readLevel .program {} before with
  | error stop =>
    rw [readArguments, readLevel_insert_error (isOption_of_spelled hspelled) hbefore houter]
    rfl
  | ok reading =>
    obtain ⟨g₁, _ | ⟨name', read⟩⟩ := reading
    -- The place is in front of the name of the command.
    · have hquiet := readLevel_insert_quiet hspelled (Or.inl rfl) hbefore houter houterLoud
      have hoptions : (Given.options settingsVariable outer inner).quietly =
          Given.options settingsVariable outer.quietly inner := by
        simp only [Given.options, Options.quietly, Given.quietly, Bool.or_true]
      exact readArguments_eq_ok_iff.mpr
        ⟨outer.quietly, name, rest, level, inner, left, hquiet, hname, hinner, hempty, hcommand,
          hoptions⟩
    · -- The place is behind the name of the command.
      rw [readLevel_append_of_word hbefore] at houter
      cases houter
      have hcut : readLevel .program {} (before ++ spelled :: after) =
          .ok (outer, name :: (read ++ spelled :: after)) := readLevel_append_of_word hbefore
      have hinsert := readLevel_insert hspelled (ofName?_ne_program hname) hinner hcommand hinnerLoud
      simp only [hname, Option.any_some]
      split_ifs at hinsert ⊢ with hplace
      · have hquietly : inner.quietly.command? level = .ok command := by
          cases level <;> exact hcommand
        exact readArguments_eq_ok_iff.mpr
          ⟨outer, name, _, level, inner.quietly, left, hcut, hname, hinsert, hempty, hquietly, rfl⟩
      · exact readArguments_of_inner_error hcut hname hinsert

example :
    takesOption ["-w".toList] = false ∧ takesOption ["-w".toList, "sub".toList] = true ∧
      takesOption ["generate".toList, "--".toList] = false := by
  decide

end Arguments

end FluentBuilder.CommandLine
