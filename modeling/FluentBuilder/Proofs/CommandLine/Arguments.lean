import FluentBuilder.CommandLine.Arguments
import Mathlib.Tactic.SplitIfs

namespace FluentBuilder.CommandLine

variable {level level' : Level} {g g' outer inner : Given}

theorem ne_dashes_of_isOption {argument : Text} (h : isOption argument = false) :
    argument ≠ ['-', '-'] := by
  rintro rfl
  exact absurd h (by decide)

/-- What follows is read on from where the reading of the arguments has come to, or is left over with
what they leave. -/
theorem readLevel_append_eq_ite {read after left : List Text}
    (hopen : level = .program ∨ ['-', '-'] ∉ read) (h : readLevel level g read = .ok (g', left)) :
    readLevel level g (read ++ after) =
      if left = [] then readLevel level g' after else .ok (g', left ++ after) := by
  have htail : ∀ {argument : Text} {rest : List Text},
      (level = .program ∨ ['-', '-'] ∉ argument :: rest) → level = .program ∨ ['-', '-'] ∉ rest :=
    fun hopen => hopen.imp_right fun hdashes hmem => hdashes (List.mem_cons_of_mem _ hmem)
  -- the cases of `readLevel` that succeed; behind a double dash all is words, which is why there is none
  fun_induction readLevel level g read with
  | case1 g =>
    cases h
    rfl
  | case3 g rest hp =>
    rcases hopen with hopen | hdashes
    · exact absurd hopen hp
    · exact absurd List.mem_cons_self hdashes
  | case5 g argument rest hdash hopt g₁ hread ih =>
    simp only [List.cons_append, readLevel, hdash, hopt, hread, if_true, if_false]
    exact ih (htail hopen) h
  | case9 g argument hdash hopt g₁ flag hread value rest hvalue g₂ hnote ih =>
    simp [List.cons_append, readLevel, hdash, hopt, hread, hvalue, hnote]
    exact ih (htail (htail hopen)) h
  | case10 g argument rest hdash hopt hp =>
    cases h
    simp [readLevel, hdash, hopt, hp]
  | case12 g argument rest hdash hopt hp g₁ hword ih =>
    simp only [List.cons_append, readLevel, hdash, hopt, hp, hword, if_false]
    exact ih (htail hopen) h
  | _ => cases h

theorem readLevel_append_eq {read after : List Text} (hopen : level = .program ∨ ['-', '-'] ∉ read)
    (h : readLevel level g read = .ok (g', [])) :
    readLevel level g (read ++ after) = readLevel level g' after :=
  readLevel_append_eq_ite hopen h

theorem readLevel_append_of_word {read after rest : List Text} {name : Text}
    (h : readLevel .program g read = .ok (g', name :: rest)) :
    readLevel .program g (read ++ after) = .ok (g', name :: (rest ++ after)) :=
  readLevel_append_eq_ite (Or.inl rfl) h

theorem readLevel_append {before after : List Text} {name : Text}
    (hname : isOption name = false) (h : readLevel .program g before = .ok (outer, [])) :
    readLevel .program g (before ++ name :: after) = .ok (outer, name :: after) := by
  rw [readLevel_append_eq (Or.inl rfl) h]
  simp [readLevel, hname, ne_dashes_of_isOption hname]

def Flag.At (level : Level) (flag : Flag) : Prop :=
  (∃ c, Flag.ofLetter? level c = some flag) ∨ ∃ name, Flag.ofLong? level name = some flag

/-- `f` carries what is read at a level over to another, as long as `Q` holds of all that is given
in the end. -/
structure Carries (level level' : Level) (f : Given → Given) (Q : Given → Prop) : Prop where
  program : level = .program ↔ level' = .program
  letter : ∀ c flag, Flag.ofLetter? level c = some flag → Flag.ofLetter? level' c = some flag
  long : ∀ name flag, Flag.ofLong? level name = some flag → Flag.ofLong? level' name = some flag
  note : ∀ g g' flag, flag.At level → g.note level flag = .ok g' → Q g' →
    Q g ∧ (f g).note level' flag = .ok (f g')
  noteValue : ∀ g g' flag value, flag.At level → g.noteValue flag value = .ok g' → Q g' →
    Q g ∧ (f g).noteValue flag value = .ok (f g')
  noteWord : ∀ g g' word, g.noteWord level word = .ok g' → Q g' →
    Q g ∧ (f g).noteWord level' word = .ok (f g')

/-- A computation in two steps gives a value just when both steps do. -/
theorem bind_eq_ok {ε α β : Type} {x : Except ε α} {next : α → Except ε β} {b : β} :
    (x >>= next) = .ok b ↔ ∃ a, x = .ok a ∧ next a = .ok b := by
  cases x with
  | error e => exact ⟨(nomatch ·), fun ⟨_, h, _⟩ => nomatch h⟩
  | ok a => exact ⟨(⟨a, rfl, ·⟩), fun ⟨_, h, h'⟩ => by cases h; exact h'⟩

section Waiting

variable {flag : Flag}

theorem at_of_readLetters {letters : Text}
    (h : readLetters level g letters = .ok (g', some flag)) : flag.At level := by
  fun_induction readLetters level g letters with
  | case1 g => cases h
  | case2 => cases h
  | case3 g c rest flag hc hvalue hrest =>
    cases h
    exact Or.inl ⟨c, hc⟩
  | case4 g c rest flag hc hvalue hrest =>
    obtain ⟨_, _, hnone⟩ := bind_eq_ok.mp h
    cases hnone
  | case5 g c rest flag hc hvalue ih =>
    obtain ⟨g₁, _, hread⟩ := bind_eq_ok.mp h
    exact ih g₁ hread

theorem at_of_readLong {body : Text} (h : readLong level g body = .ok (g', some flag)) :
    flag.At level := by
  revert h
  fun_cases readLong level g body with
  | case2 name attached flag' hlong hvalue hattached =>
    intro h
    cases h
    exact Or.inr ⟨name, hlong⟩
  | case3 =>
    intro h
    obtain ⟨_, _, hnone⟩ := bind_eq_ok.mp h
    cases hnone
  | case4 =>
    intro h
    obtain ⟨_, _, hnone⟩ := bind_eq_ok.mp h
    cases hnone
  | _ =>
    intro h
    cases h

theorem at_of_readOption {argument : Text}
    (h : readOption level g argument = .ok (g', some flag)) : flag.At level := by
  unfold readOption at h
  split at h
  · exact at_of_readLong h
  · exact at_of_readLetters h

end Waiting

namespace Carries

variable {f : Given → Given} {Q : Given → Prop} {waiting : Option Flag}

theorem readLetters (hf : Carries level level' f Q) {letters : Text}
    (h : readLetters level g letters = .ok (g', waiting)) (hQ : Q g') :
    Q g ∧ CommandLine.readLetters level' (f g) letters = .ok (f g', waiting) := by
  fun_induction CommandLine.readLetters level g letters with
  | case1 g =>
    cases h
    exact ⟨hQ, rfl⟩
  | case2 => cases h
  | case3 g c rest flag hc hvalue hrest =>
    cases h
    refine ⟨hQ, ?_⟩
    simp [CommandLine.readLetters, hf.letter c flag hc, hvalue, hrest]
  | case4 g c rest flag hc hvalue hrest =>
    obtain ⟨g₁, hnote, hg⟩ := bind_eq_ok.mp h
    cases hg
    obtain ⟨hQg, hnote'⟩ := hf.noteValue g g' flag _ (Or.inl ⟨c, hc⟩) hnote hQ
    refine ⟨hQg, ?_⟩
    simp only [CommandLine.readLetters, hf.letter c flag hc, hvalue, hrest, if_true, hnote']
    rfl
  | case5 g c rest flag hc hvalue ih =>
    obtain ⟨g₁, hnote, hread⟩ := bind_eq_ok.mp h
    obtain ⟨hQ₁, hread'⟩ := ih g₁ hread
    obtain ⟨hQg, hnote'⟩ := hf.note g g₁ flag (Or.inl ⟨c, hc⟩) hnote hQ₁
    refine ⟨hQg, ?_⟩
    simp only [CommandLine.readLetters, hf.letter c flag hc, hvalue, hnote']
    exact hread'

theorem readLong (hf : Carries level level' f Q) {body : Text}
    (h : readLong level g body = .ok (g', waiting)) (hQ : Q g') :
    Q g ∧ CommandLine.readLong level' (f g) body = .ok (f g', waiting) := by
  simp only [CommandLine.readLong] at h ⊢
  cases hlong : Flag.ofLong? level (body.takeWhile (· != '=')) with
  | none =>
    rw [hlong] at h
    cases h
  | some flag =>
    have hat : flag.At level := Or.inr ⟨_, hlong⟩
    rw [hlong] at h
    rw [hf.long _ flag hlong]
    cases hvalue : flag.takesValue <;>
      cases hattached : (body.dropWhile (· != '=')).isEmpty <;>
      simp only [hvalue, hattached, if_true, if_false, Bool.false_eq_true] at h ⊢
    · cases h
    · obtain ⟨g₁, hnote, hg⟩ := bind_eq_ok.mp h
      cases hg
      obtain ⟨hQg, hnote'⟩ := hf.note g g' flag hat hnote hQ
      refine ⟨hQg, ?_⟩
      rw [hnote']
      rfl
    · obtain ⟨g₁, hnote, hg⟩ := bind_eq_ok.mp h
      cases hg
      obtain ⟨hQg, hnote'⟩ := hf.noteValue g g' flag _ hat hnote hQ
      refine ⟨hQg, ?_⟩
      rw [hnote']
      rfl
    · cases h
      exact ⟨hQ, rfl⟩

theorem readOption (hf : Carries level level' f Q) {argument : Text}
    (h : readOption level g argument = .ok (g', waiting)) (hQ : Q g') :
    Q g ∧ CommandLine.readOption level' (f g) argument = .ok (f g', waiting) := by
  by_cases hlong : argument.take 2 = ['-', '-']
  · simp only [CommandLine.readOption, hlong, if_true] at h ⊢
    exact hf.readLong h hQ
  · simp only [CommandLine.readOption, hlong, if_false] at h ⊢
    exact hf.readLetters h hQ

theorem noteWords (hf : Carries level level' f Q) {words : List Text}
    (h : words.foldlM (·.noteWord level ·) g = .ok g') (hQ : Q g') :
    Q g ∧ words.foldlM (·.noteWord level' ·) (f g) = .ok (f g') := by
  induction words generalizing g with
  | nil =>
    cases h
    exact ⟨hQ, rfl⟩
  | cons word words ih =>
    rw [List.foldlM_cons] at h ⊢
    obtain ⟨g₁, hword, hwords⟩ := bind_eq_ok.mp h
    obtain ⟨hQ₁, hwords'⟩ := ih hwords
    obtain ⟨hQg, hword'⟩ := hf.noteWord g g₁ word hword hQ₁
    refine ⟨hQg, ?_⟩
    rw [hword']
    exact hwords'

theorem readLevel (hf : Carries level level' f Q) {arguments rest : List Text}
    (h : readLevel level g arguments = .ok (g', rest)) (hQ : Q g') :
    Q g ∧ CommandLine.readLevel level' (f g) arguments = .ok (f g', rest) := by
  -- `Q` is known of the end alone, so every case goes through the rest before its own argument.
  fun_induction CommandLine.readLevel level g arguments with
  | case1 g =>
    cases h
    exact ⟨hQ, rfl⟩
  | case3 g rest hp =>
    obtain ⟨g₁, hwords, hg⟩ := bind_eq_ok.mp h
    cases hg
    obtain ⟨hQg, hwords'⟩ := hf.noteWords hwords hQ
    refine ⟨hQg, ?_⟩
    simp only [CommandLine.readLevel, mt hf.program.mpr hp, if_true, if_false, hwords']
    rfl
  | case5 g argument rest hdash hopt g₁ hread ih =>
    obtain ⟨hQ₁, hrest⟩ := ih h
    obtain ⟨hQg, hread'⟩ := hf.readOption hread hQ₁
    refine ⟨hQg, ?_⟩
    simp only [CommandLine.readLevel, hdash, hopt, hread', if_true, if_false]
    exact hrest
  | case9 g argument hdash hopt g₁ flag hread value rest hvalue g₂ hnote ih =>
    obtain ⟨hQ₂, hrest⟩ := ih h
    obtain ⟨hQ₁, hnote'⟩ := hf.noteValue g₁ g₂ flag value (at_of_readOption hread) hnote hQ₂
    obtain ⟨hQg, hread'⟩ := hf.readOption hread hQ₁
    refine ⟨hQg, ?_⟩
    simp [CommandLine.readLevel, hdash, hopt, hread', hvalue, hnote', hrest]
  | case10 g argument rest hdash hopt hp =>
    cases h
    refine ⟨hQ, ?_⟩
    simp [CommandLine.readLevel, hdash, hopt, hf.program.mp hp]
  | case12 g argument rest hdash hopt hp g₁ hword ih =>
    obtain ⟨hQ₁, hrest⟩ := ih h
    obtain ⟨hQg, hword'⟩ := hf.noteWord g g₁ argument hword hQ₁
    refine ⟨hQg, ?_⟩
    simp [CommandLine.readLevel, hdash, hopt, mt hf.program.mpr hp, hword', hrest]
  | _ => cases h

end Carries

def Given.inFormat (format : Option Format) (g : Given) : Given :=
  { g with format }

theorem ofLetter?_preview (c : Char) : Flag.ofLetter? .preview c = Flag.ofLetter? .generate c := by
  unfold Flag.ofLetter?
  split <;> rfl

theorem ofLetter?_ne_format (c : Char) : Flag.ofLetter? level c ≠ some .format := by
  unfold Flag.ofLetter?
  split <;> simp

theorem ofLong?_preview {name : Text} {flag : Flag}
    (h : Flag.ofLong? .generate name = some flag) :
    Flag.ofLong? .preview name = some flag ∧ flag ≠ .format := by
  have hformat : ¬ (Level.generate = .preview ∧ name = "format".toList) := fun h => nomatch h.1
  have hforce : ¬ (Level.generate = .init ∧ name = "force".toList) := fun h => nomatch h.1
  unfold Flag.ofLong? at h ⊢
  rw [if_neg hformat, if_neg hforce] at h
  split_ifs at h with h₁ h₂ h₃ h₄ h₅ h₆ <;> cases h <;> refine ⟨?_, nofun⟩
  · rw [if_pos h₁]
  · rw [if_neg h₁, if_pos h₂]
  · rw [if_neg h₁, if_neg h₂, if_pos h₃]
  · rw [if_neg h₁, if_neg h₂, if_neg h₃, if_pos h₄]
  · rw [if_neg h₁, if_neg h₂, if_neg h₃, if_neg h₄, if_pos h₅]
  · rw [if_neg h₁, if_neg h₂, if_neg h₃, if_neg h₄, if_neg h₅, if_pos h₆]

theorem ne_format_of_at {flag : Flag} (h : flag.At .generate) : flag ≠ .format := by
  rintro rfl
  rcases h with ⟨c, hc⟩ | ⟨name, hname⟩
  · exact ofLetter?_ne_format c hc
  · exact (ofLong?_preview hname).2 rfl

theorem note_inFormat {flag : Flag} (format : Option Format)
    (h : g.note .generate flag = .ok g') :
    (g.inFormat format).note .preview flag = .ok (g'.inFormat format) := by
  revert h
  fun_cases Given.note g .generate flag <;> intro h <;> cases h <;>
    simp_all [Given.note, Given.inFormat]

theorem noteValue_inFormat {flag : Flag} {value : Text} (format : Option Format)
    (hflag : flag ≠ .format) (h : g.noteValue flag value = .ok g') :
    (g.inFormat format).noteValue flag value = .ok (g'.inFormat format) := by
  revert h
  fun_cases Given.noteValue g flag value <;> intro h <;> cases h <;>
    simp_all [Given.noteValue, Given.inFormat]

theorem noteWord_inFormat {word : Text} (format : Option Format)
    (h : g.noteWord .generate word = .ok g') :
    (g.inFormat format).noteWord .preview word = .ok (g'.inFormat format) := by
  revert h
  fun_cases Given.noteWord g .generate word <;> intro h <;> cases h
  simp_all [Given.noteWord, Given.inFormat]

/-- A generation and a preview take the same arguments, but for the format of a preview. -/
theorem carries_inFormat (format : Option Format) :
    Carries .generate .preview (Given.inFormat format) fun _ => True where
  program := ⟨nofun, nofun⟩
  letter c _ h := (ofLetter?_preview c).trans h
  long _ _ h := (ofLong?_preview h).1
  note _ _ _ _ h _ := ⟨trivial, note_inFormat format h⟩
  noteValue _ _ _ _ hat h _ := ⟨trivial, noteValue_inFormat format (ne_format_of_at hat) h⟩
  noteWord _ _ _ h _ := ⟨trivial, noteWord_inFormat format h⟩

theorem readLevel_inFormat {arguments rest : List Text} (format : Option Format)
    (h : readLevel .generate g arguments = .ok (g', rest)) :
    readLevel .preview (g.inFormat format) arguments = .ok (g'.inFormat format, rest) :=
  ((carries_inFormat format).readLevel h trivial).2

theorem readLevel_json {arguments rest : List Text}
    (h : readLevel .generate {} arguments = .ok (g', rest)) :
    readLevel .preview {} ("--format".toList :: "json".toList :: arguments) =
      .ok (g'.inFormat (some .json), rest) := by
  have hformat : readOption .preview {} "--format".toList = .ok ({}, some .format) := rfl
  have hjson : Given.noteValue {} .format "json".toList =
      .ok (Given.inFormat (some .json) {}) := rfl
  have hdashes : "--format".toList ≠ ['-', '-'] := by decide
  have hoption : isOption "--format".toList = true := by decide
  have hvalue : isOption "json".toList = false := by decide
  rw [readLevel, if_neg hdashes, if_pos hoption, hformat]
  simp only [hvalue, hjson]
  exact readLevel_inFormat _ h

theorem ofName?_eq_some {name : Text} (h : Level.ofName? name = some level) :
    isOption name = false ∧ name ≠ "help".toList := by
  unfold Level.ofName? at h
  split_ifs at h with h₁ h₂ h₃
  · subst h₁
    exact ⟨by decide, by decide⟩
  · subst h₂
    exact ⟨by decide, by decide⟩
  · subst h₃
    exact ⟨by decide, by decide⟩

theorem level_eq_init {force : Bool} (h : g.command? level = .ok (.init force)) : level = .init := by
  cases level with
  | init => rfl
  | program => cases h
  | generate | preview =>
    rw [Given.command?] at h
    cases hfile : g.file <;> rw [hfile] at h <;> cases h

section Levels

variable {settingsVariable : Option Text} {arguments before after rest left : List Text} {name : Text}
variable {stop : Stop} {command : Command} {options : Options}

theorem readArguments_of_levels (houter : readLevel .program {} arguments = .ok (outer, name :: rest))
    (hname : Level.ofName? name = some level) (hinner : readLevel level {} rest = .ok (inner, left)) :
    readArguments settingsVariable arguments =
      if settingsVariable = some [] ∧ (outer.config.isNone ∨ inner.config.isNone) then
        .error .wrongUsage
      else
        (inner.command? level).map (·, Given.options settingsVariable outer inner) := by
  rw [readArguments, houter]
  simp only [bind, Except.bind, hname, if_neg (ofName?_eq_some hname).2, hinner]
  rfl

theorem readArguments_of_inner_error
    (houter : readLevel .program {} arguments = .ok (outer, name :: rest))
    (hname : Level.ofName? name = some level) (hinner : readLevel level {} rest = .error stop) :
    readArguments settingsVariable arguments = .error stop := by
  rw [readArguments, houter]
  simp only [bind, Except.bind, hname, if_neg (ofName?_eq_some hname).2, hinner]

/-- Arguments ask for a command if they are read at both levels without a fault, and no empty variable
has to be looked at. -/
theorem readArguments_eq_ok_iff :
    readArguments settingsVariable arguments = .ok (command, options) ↔
      ∃ outer name rest level inner left,
        readLevel .program {} arguments = .ok (outer, name :: rest) ∧
        Level.ofName? name = some level ∧ readLevel level {} rest = .ok (inner, left) ∧
        ¬ (settingsVariable = some [] ∧ (outer.config.isNone ∨ inner.config.isNone)) ∧
        inner.command? level = .ok command ∧
        options = Given.options settingsVariable outer inner := by
  constructor
  · intro h
    obtain ⟨⟨outer, words⟩, houter, hrest⟩ := bind_eq_ok.mp h
    cases words with
    | nil => cases hrest
    | cons name rest =>
      dsimp only at hrest
      split_ifs at hrest with hhelp
      cases hname : Level.ofName? name with
      | none =>
        rw [hname] at hrest
        cases hrest
      | some level =>
        rw [hname] at hrest
        obtain ⟨⟨inner, left⟩, hinner, hasked⟩ := bind_eq_ok.mp hrest
        dsimp only at hasked
        split_ifs at hasked with hempty
        obtain ⟨command', hcommand, hoptions⟩ := bind_eq_ok.mp hasked
        cases hoptions
        exact ⟨outer, name, rest, level, inner, left, houter, hname, hinner, hempty, hcommand, rfl⟩
  · rintro ⟨outer, name, rest, level, inner, left, houter, hname, hinner, hempty, hcommand, rfl⟩
    rw [readArguments_of_levels houter hname hinner, if_neg hempty, hcommand]
    rfl

theorem readArguments_append (hbefore : readLevel .program {} before = .ok (outer, []))
    (hname : Level.ofName? name = some level)
    (hafter : readLevel level {} after = .ok (inner, rest)) :
    readArguments settingsVariable (before ++ name :: after) =
      if settingsVariable = some [] ∧ (outer.config.isNone ∨ inner.config.isNone) then
        .error .wrongUsage
      else
        (inner.command? level).map (·, Given.options settingsVariable outer inner) :=
  readArguments_of_levels (readLevel_append (ofName?_eq_some hname).1 hbefore) hname hafter

theorem readArguments_append_error (hbefore : readLevel .program {} before = .ok (outer, []))
    (hname : Level.ofName? name = some level) (hafter : readLevel level {} after = .error stop) :
    readArguments settingsVariable (before ++ name :: after) = .error stop :=
  readArguments_of_inner_error (readLevel_append (ofName?_eq_some hname).1 hbefore) hname hafter

end Levels

section Workspace

variable {workspace : Text}

def Given.inWorkspace (workspace : Text) (g : Given) : Given :=
  { g with workspace := some workspace }

theorem note_inWorkspace {flag : Flag} (h : g.note level flag = .ok g') (hQ : g'.workspace = none) :
    g.workspace = none ∧
      (g.inWorkspace workspace).note level flag = .ok (g'.inWorkspace workspace) := by
  revert h
  fun_cases Given.note g level flag <;> intro h <;> cases h <;>
    simp_all [Given.note, Given.inWorkspace]

theorem noteValue_inWorkspace {flag : Flag} {value : Text} (h : g.noteValue flag value = .ok g')
    (hQ : g'.workspace = none) :
    g.workspace = none ∧
      (g.inWorkspace workspace).noteValue flag value = .ok (g'.inWorkspace workspace) := by
  revert h
  fun_cases Given.noteValue g flag value <;> intro h <;> cases h <;>
    simp_all [Given.noteValue, Given.inWorkspace]

theorem noteWord_inWorkspace {word : Text} (h : g.noteWord level word = .ok g')
    (hQ : g'.workspace = none) :
    g.workspace = none ∧
      (g.inWorkspace workspace).noteWord level word = .ok (g'.inWorkspace workspace) := by
  revert h
  fun_cases Given.noteWord g level word <;> intro h <;> cases h
  simp_all [Given.noteWord, Given.inWorkspace]

/-- What is read without a workspace is read alike with one. -/
theorem carries_inWorkspace (level : Level) (workspace : Text) :
    Carries level level (Given.inWorkspace workspace) fun g => g.workspace = none where
  program := Iff.rfl
  letter _ _ h := h
  long _ _ h := h
  note _ _ _ _ h hQ := note_inWorkspace h hQ
  noteValue _ _ _ _ _ h hQ := noteValue_inWorkspace h hQ
  noteWord _ _ _ h hQ := noteWord_inWorkspace h hQ

theorem readLevel_workspace {arguments rest : List Text} (hne : workspace ≠ [])
    (hword : isOption workspace = false) (h : readLevel level {} arguments = .ok (g, rest))
    (hg : g.workspace = none) :
    readLevel level {} ("--workspace".toList :: workspace :: arguments) =
      .ok (g.inWorkspace workspace, rest) := by
  have hoption : isOption "--workspace".toList = true := by decide
  have hdashes : "--workspace".toList ≠ ['-', '-'] := by decide
  have hread : readOption level {} "--workspace".toList = .ok ({}, some .workspace) := by
    cases level <;> rfl
  have hvalue : Given.noteValue {} .workspace workspace = .ok (Given.inWorkspace workspace {}) := by
    simp [Given.noteValue, Given.inWorkspace, hne]
  rw [readLevel, if_neg hdashes, if_pos hoption, hread]
  simp only [hword, hvalue]
  exact ((carries_inWorkspace level workspace).readLevel h hg).2

/-- The options of a run in a workspace, unless they name another one. -/
def Options.within (workspace : Text) (options : Options) : Options :=
  { options with workspace := options.workspace <|> some workspace }

theorem map_within {wrong : Prop} [Decidable wrong] (workspace : Text) (options : Options)
    (command : Except Stop Command) :
    (if wrong then .error .wrongUsage else command.map (·, options)).map
        (fun (command, options) => (command, options.within workspace)) =
      if wrong then .error .wrongUsage else command.map (·, options.within workspace) := by
  by_cases h : wrong
  · rw [if_pos h, if_pos h]
    rfl
  · rw [if_neg h, if_neg h]
    cases command <;> rfl

/-- A workspace before the name of a command is that of the run, unless one stands behind it. -/
theorem readArguments_workspace_cons {settingsVariable : Option Text} {before after : List Text}
    {name : Text} (hne : workspace ≠ []) (hword : isOption workspace = false)
    (hbefore : readLevel .program {} before = .ok (outer, [])) (houter : outer.workspace = none)
    (hname : Level.ofName? name = some level) :
    readArguments settingsVariable
        ("--workspace".toList :: workspace :: (before ++ name :: after)) =
      (readArguments settingsVariable (before ++ name :: after)).map
        fun (command, options) => (command, options.within workspace) := by
  have hleading := readLevel_workspace hne hword hbefore houter
  have hcons : "--workspace".toList :: workspace :: (before ++ name :: after) =
    ("--workspace".toList :: workspace :: before) ++ name :: after := rfl
  rw [hcons]
  cases hafter : readLevel level {} after with
  | error stop =>
    rw [readArguments_append_error hleading hname hafter,
      readArguments_append_error hbefore hname hafter]
    rfl
  | ok read =>
    obtain ⟨inner, rest⟩ := read
    have hoptions : Given.options settingsVariable (outer.inWorkspace workspace) inner =
        (Given.options settingsVariable outer inner).within workspace := by
      simp only [Given.options, Options.within, Given.inWorkspace, houter]
      cases inner.workspace <;> rfl
    rw [readArguments_append hleading hname hafter, readArguments_append hbefore hname hafter,
      map_within, hoptions]
    rfl

/-- So is one behind the name of the command. -/
theorem readArguments_workspace_after {settingsVariable : Option Text}
    {before after rest : List Text} {name : Text} (hne : workspace ≠ [])
    (hword : isOption workspace = false) (hbefore : readLevel .program {} before = .ok (outer, []))
    (houter : outer.workspace = none) (hname : Level.ofName? name = some level)
    (hafter : readLevel level {} after = .ok (inner, rest)) (hinner : inner.workspace = none) :
    readArguments settingsVariable
        (before ++ name :: "--workspace".toList :: workspace :: after) =
      (readArguments settingsVariable (before ++ name :: after)).map
        fun (command, options) => (command, options.within workspace) := by
  have htrailing := readLevel_workspace hne hword hafter hinner
  have hcommand : (inner.inWorkspace workspace).command? level = inner.command? level := by
    cases level <;> rfl
  have hoptions : Given.options settingsVariable outer (inner.inWorkspace workspace) =
      (Given.options settingsVariable outer inner).within workspace := by
    simp only [Given.options, Options.within, Given.inWorkspace, hinner, houter]
    rfl
  rw [readArguments_append hbefore hname htrailing, readArguments_append hbefore hname hafter,
    map_within, hcommand, hoptions]
  rfl

end Workspace

end FluentBuilder.CommandLine
