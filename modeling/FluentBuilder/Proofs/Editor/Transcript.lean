import FluentBuilder.Proofs.Editor.Relation

namespace FluentBuilder

namespace Call

def IsNotice : Call → Prop
  | .showError _ => True
  | .showInfo _ => True
  | _ => False

def notice : Except Failure Text → Call
  | .error failure => .showError failure.message
  | .ok path => .showInfo ("Builder created: ".toList ++ path)

end Call

namespace Editor

variable {σ α β : Type} {editor : Editor (StateM σ)} {s : Settings}
variable {start asked state : σ} {calls calls' : List Call}

/-- What an editor answers to the calls of a run, were they all made. -/
structure Answers where
  text : Option Text
  path : Option Text
  saved : (path text : Text) → Except Text Unit

/-- The answers of an editor to a run that starts in a state: each call acts on the next. -/
def answers (editor : Editor (StateM σ)) (start : σ) : Answers :=
  let document := editor.documentText.run start
  let place := editor.documentPath.run document.2
  { text := document.1
    path := place.1
    saved := fun path text => ((editor.save path text).run place.2).1 }

/-- The courses a run can take under given answers and settings, with or without a workspace. -/
inductive Course (a : Answers) (s : Settings) : Option Text → Transcript → Prop where
  | noWorkspace :
    Course a s none ⟨.error .noWorkspace, [.showError Failure.noWorkspace.message]⟩
  | noDocument {root : Text} (htext : a.text = none) :
    Course a s (some root)
      ⟨.error .noActiveDocument, [.documentText, .showError Failure.noActiveDocument.message]⟩
  | noPath {root text : Text} (htext : a.text = some text) (hpath : a.path = none) :
    Course a s (some root) ⟨.error .missingDocumentPath,
      [.documentText, .documentPath, .showError Failure.missingDocumentPath.message]⟩
  | notBuilt {root text path : Text} {f : Failure} (htext : a.text = some text)
    (hpath : a.path = some path) (hbuilder : Builder.ofDocument s.generator text = .error f) :
    Course a s (some root) ⟨.error f, [.documentText, .documentPath, .showError f.message]⟩
  | notSaved {root text path detail : Text} {b : Builder} (htext : a.text = some text)
    (hpath : a.path = some path) (hbuilder : Builder.ofDocument s.generator text = .ok b)
    (hsaved : a.saved (Destination.ofDocument path s.suffix) b.classText = .error detail) :
    Course a s (some root) ⟨.error (.saveFailed detail),
      [.documentText, .documentPath, .save (Destination.ofDocument path s.suffix) b.classText,
        .showError ("File save failed: ".toList ++ detail)]⟩
  | saved {root text path : Text} {b : Builder} (htext : a.text = some text)
    (hpath : a.path = some path) (hbuilder : Builder.ofDocument s.generator text = .ok b)
    (hsaved : a.saved (Destination.ofDocument path s.suffix) b.classText = .ok ()) :
    Course a s (some root) ⟨.ok (Destination.ofDocument path s.suffix),
      [.documentText, .documentPath, .save (Destination.ofDocument path s.suffix) b.classText,
        .showInfo ("Builder created: ".toList ++ Destination.ofDocument path s.suffix)]⟩

theorem run_bind {act : StateT (List Call) (StateM σ) α} {a : α}
    (next : α → StateT (List Call) (StateM σ) β)
    (h : (act.run calls).run start = ((a, calls'), state)) :
    ((act >>= next).run calls).run start = ((next a).run calls').run state := by
  change (((next ((act.run calls).run start).1.1).run ((act.run calls).run start).1.2).run
    ((act.run calls).run start).2) = _
  rw [h]

theorem run_noted {call : Call} {act : StateM σ α} {a : α} (h : act.run start = (a, state)) :
    ((noted call act).run calls).run start = ((a, calls ++ [call]), state) := by
  change (((act.run start).1, calls ++ [call]), (act.run start).2) = _
  rw [h]

theorem run_openText_none :
    ((editor.recorded.openText none).run calls).run start =
      ((.error .noWorkspace, calls), start) :=
  rfl

theorem run_openText_some (root : Text) (calls : List Call) {text : Option Text}
    (h : editor.documentText.run start = (text, state)) :
    ((editor.recorded.openText (some root)).run calls).run start =
      ((text.elim (.error .noActiveDocument) .ok, calls ++ [.documentText]), state) := by
  rw [openText]
  refine (run_bind _ (run_noted h)).trans ?_
  cases text with
  | none => rfl
  | some text => rfl

theorem run_saveBuilder_of_error {workspace : Option Text} {failure : Failure}
    (h : ((editor.recorded.openText workspace).run calls).run start =
      ((.error failure, calls'), state)) :
    ((editor.recorded.saveBuilder workspace s).run calls).run start =
      ((.error failure, calls'), state) := by
  rw [saveBuilder, run_bind _ h]
  rfl

theorem run_saveBuilder_noPath {workspace : Option Text} {text : Text}
    (htext : ((editor.recorded.openText workspace).run calls).run start =
      ((.ok text, calls'), asked))
    (hpath : editor.documentPath.run asked = (none, state)) :
    ((editor.recorded.saveBuilder workspace s).run calls).run start =
      ((.error .missingDocumentPath, calls' ++ [.documentPath]), state) := by
  rw [saveBuilder, run_bind _ htext]
  exact run_bind _ (run_noted hpath)

theorem run_saveBuilder_notBuilt {workspace : Option Text} {text path : Text} {failure : Failure}
    (htext : ((editor.recorded.openText workspace).run calls).run start =
      ((.ok text, calls'), asked))
    (hpath : editor.documentPath.run asked = (some path, state))
    (hbuilder : Builder.ofDocument s.generator text = .error failure) :
    ((editor.recorded.saveBuilder workspace s).run calls).run start =
      ((.error failure, calls' ++ [.documentPath]), state) := by
  rw [saveBuilder, run_bind _ htext]
  refine (run_bind _ (run_noted hpath)).trans ?_
  simp only [hbuilder]
  rfl

theorem run_saveBuilder_built {workspace : Option Text} {text path : Text} {b : Builder}
    {place : σ} {saved : Except Text Unit}
    (htext : ((editor.recorded.openText workspace).run calls).run start =
      ((.ok text, calls'), asked))
    (hpath : editor.documentPath.run asked = (some path, place))
    (hbuilder : Builder.ofDocument s.generator text = .ok b)
    (hsaved : (editor.save (Destination.ofDocument path s.suffix) b.classText).run place =
      (saved, state)) :
    ((editor.recorded.saveBuilder workspace s).run calls).run start =
      ((match saved with
        | .error detail => .error (.saveFailed detail)
        | .ok _ => .ok (Destination.ofDocument path s.suffix),
        calls' ++ [.documentPath] ++
          [.save (Destination.ofDocument path s.suffix) b.classText]), state) := by
  rw [saveBuilder, run_bind _ htext]
  refine (run_bind _ (run_noted hpath)).trans ?_
  simp only [hbuilder]
  refine (run_bind _ (run_noted hsaved)).trans ?_
  cases saved with
  | error detail => rfl
  | ok _ => rfl

/-- Whatever the attempt to save came to, telling the user is the last call. -/
theorem transcript_of_saveBuilder {workspace : Option Text} {r : Except Failure Text}
    (h : ((editor.recorded.saveBuilder workspace s).run []).run start = ((r, calls), state)) :
    ((editor.transcript workspace s).run start).1 = ⟨r, calls ++ [.notice r]⟩ := by
  have htold : (((editor.recorded.createBuilder workspace s).run []).run start).1 =
      (r, calls ++ [.notice r]) := by
    rw [createBuilder, run_bind _ h]
    cases r with
    | error failure => rfl
    | ok path => rfl
  change Transcript.mk (((editor.recorded.createBuilder workspace s).run []).run start).1.1
    (((editor.recorded.createBuilder workspace s).run []).run start).1.2 = _
  rw [htold]

section Recorded

variable {m : Type → Type} [Monad m] [LawfulMonad m]

/-- A computation that keeps calls comes to what another comes to without them. -/
def Keeps (x : StateT (List Call) m α) (y : m α) : Prop :=
  ∀ calls, Prod.fst <$> x.run calls = y

theorem keeps_noted (call : Call) (act : m α) : Keeps (noted call act) act := by
  intro calls
  change Prod.fst <$> (do return (← act, calls ++ [call])) = act
  simp only [map_bind, map_pure, bind_pure]

theorem keeps_pure (a : α) : Keeps (pure a : StateT (List Call) m α) (pure a) := by
  intro calls
  simp only [StateT.run_pure, map_pure]

theorem Keeps.bind {x : StateT (List Call) m α} {y : m α} {f : α → StateT (List Call) m β}
    {g : α → m β} (hx : Keeps x y) (hf : ∀ a, Keeps (f a) (g a)) : Keeps (x >>= f) (y >>= g) := by
  intro calls
  simp only [StateT.run_bind, map_bind, ← hx calls, bind_map_left]
  congr 1
  funext p
  exact hf p.1 p.2

theorem composes_keeps :
    Composes fun α (x : StateT (List Call) m α) (y : m α) => Keeps x y where
  pure := keeps_pure
  bind := Keeps.bind

theorem keeps_createBuilder (editor : Editor m) (workspace : Option Text) (s : Settings) :
    Keeps (editor.recorded.createBuilder workspace s) (editor.createBuilder workspace s) := by
  apply composes_keeps.createBuilder
  · exact keeps_noted _ _
  · exact keeps_noted _ _
  · exact fun _ _ => keeps_noted _ _
  · exact fun _ => keeps_noted _ _
  · exact fun _ => keeps_noted _ _

theorem map_result_transcript (editor : Editor m) (workspace : Option Text) (s : Settings) :
    Transcript.result <$> editor.transcript workspace s = editor.createBuilder workspace s := by
  rw [← keeps_createBuilder editor workspace s [], transcript]
  simp only [map_bind, map_pure]
  exact bind_pure_comp _ _

end Recorded

-- The cases follow the order in which a run asks: workspace, text, path, builder, saving.
theorem course_transcript (editor : Editor (StateM σ)) (start : σ) (workspace : Option Text)
    (s : Settings) :
    Course (editor.answers start) s workspace
      ((editor.transcript workspace s).run start).1 := by
  -- Each answer either ends the run or lets it ask for the next one; the state after an answer is that in
  -- which the next is given.
  cases workspace with
  | none =>
    rw [transcript_of_saveBuilder (run_saveBuilder_of_error run_openText_none)]
    exact Course.noWorkspace
  | some root =>
    rcases hdocument : editor.documentText.run start with ⟨_ | text, asked⟩
    · have hopen := run_openText_some root [] hdocument
      rw [transcript_of_saveBuilder (run_saveBuilder_of_error hopen)]
      exact Course.noDocument (congrArg Prod.fst hdocument)
    · have hopen := run_openText_some root [] hdocument
      have htext : (editor.answers start).text = some text := congrArg Prod.fst hdocument
      rcases hplace : editor.documentPath.run asked with ⟨_ | path, place⟩
      · have hpath : (editor.answers start).path = none := by
          change (editor.documentPath.run (editor.documentText.run start).2).1 = none
          rw [hdocument, hplace]
        rw [transcript_of_saveBuilder (run_saveBuilder_noPath hopen hplace)]
        exact Course.noPath htext hpath
      · have hpath : (editor.answers start).path = some path := by
          change (editor.documentPath.run (editor.documentText.run start).2).1 = some path
          rw [hdocument, hplace]
        cases hbuilder : Builder.ofDocument s.generator text with
        | error failure =>
          rw [transcript_of_saveBuilder (run_saveBuilder_notBuilt hopen hplace hbuilder)]
          exact Course.notBuilt htext hpath hbuilder
        | ok b =>
          rcases hsave : (editor.save (Destination.ofDocument path s.suffix) b.classText).run place
            with ⟨saved, last⟩
          have hsaved : (editor.answers start).saved (Destination.ofDocument path s.suffix)
              b.classText = saved := by
            change ((editor.save _ _).run
              (editor.documentPath.run (editor.documentText.run start).2).2).1 = saved
            rw [hdocument, hplace, hsave]
          rw [transcript_of_saveBuilder (run_saveBuilder_built hopen hplace hbuilder hsave)]
          cases saved with
          | error detail => exact Course.notSaved htext hpath hbuilder hsaved
          | ok _ => exact Course.saved htext hpath hbuilder hsaved

theorem Course.unique {a : Answers} {workspace : Option Text} {t t' : Transcript}
    (h : Course a s workspace t) (h' : Course a s workspace t') : t = t' := by
  -- Different constructors contradict each other in one of the answers.
  cases h <;> cases h' <;> simp_all

theorem Course.calls_eq {a : Answers} {workspace : Option Text} {t : Transcript}
    (h : Course a s workspace t) :
    ∃ earlier, t.calls = earlier ++ [.notice t.result] ∧ ∀ c ∈ earlier, ¬ c.IsNotice := by
  cases h with
  | noWorkspace => exact ⟨[], rfl, by simp⟩
  | noDocument _ => exact ⟨[.documentText], rfl, by simp [Call.IsNotice]⟩
  | noPath _ _ => exact ⟨[.documentText, .documentPath], rfl, by simp [Call.IsNotice]⟩
  | notBuilt _ _ _ => exact ⟨[.documentText, .documentPath], rfl, by simp [Call.IsNotice]⟩
  | notSaved _ _ _ _ =>
    exact ⟨[.documentText, .documentPath, .save _ _], rfl, by simp [Call.IsNotice]⟩
  | saved _ _ _ _ =>
    exact ⟨[.documentText, .documentPath, .save _ _], rfl, by simp [Call.IsNotice]⟩

theorem Course.exists_save_iff {a : Answers} {workspace : Option Text} {t : Transcript}
    (h : Course a s workspace t) :
    (∃ path text, .save path text ∈ t.calls) ↔
      ∃ root text path b, workspace = some root ∧ a.text = some text ∧ a.path = some path ∧
        Builder.ofDocument s.generator text = .ok b := by
  cases h <;> simp_all

/-- A run saves nothing but the builder file of its document. -/
theorem Course.eq_of_save_mem {a : Answers} {workspace : Option Text} {t : Transcript}
    {destination text : Text} (h : Course a s workspace t) (hsave : .save destination text ∈ t.calls) :
    ∃ path, a.path = some path ∧ destination = Destination.ofDocument path s.suffix := by
  cases h with
  | noWorkspace => simp at hsave
  | noDocument _ => simp at hsave
  | noPath _ _ => simp at hsave
  | notBuilt _ _ _ => simp at hsave
  | @notSaved _ _ path _ b _ hpath _ _ =>
    have hsame : destination = Destination.ofDocument path s.suffix ∧ text = b.classText := by
      simpa using hsave
    exact ⟨path, hpath, hsame.1⟩
  | @saved _ _ path b _ hpath _ _ =>
    have hsame : destination = Destination.ofDocument path s.suffix ∧ text = b.classText := by
      simpa using hsave
    exact ⟨path, hpath, hsame.1⟩

/-- The course of every run: just one transcript is possible, ending in the one notice that tells
its result, and a file is saved just when there is a builder to save. -/
theorem transcript_course (editor : Editor (StateM σ)) (start : σ) (workspace : Option Text)
    (s : Settings) :
    let a := editor.answers start
    let t := ((editor.transcript workspace s).run start).1
    (∀ t', Course a s workspace t' ↔ t' = t) ∧
    t.result = ((editor.createBuilder workspace s).run start).1 ∧
    (∃ earlier, t.calls = earlier ++ [.notice t.result] ∧ ∀ c ∈ earlier, ¬ c.IsNotice) ∧
    ((∃ path text, .save path text ∈ t.calls) ↔
      ∃ root text path b, workspace = some root ∧ a.text = some text ∧ a.path = some path ∧
        Builder.ofDocument s.generator text = .ok b) := by
  intro a t
  have hcourse : Course a s workspace t := course_transcript editor start workspace s
  have hresult : t.result = ((editor.createBuilder workspace s).run start).1 := by
    rw [← map_result_transcript]
    rfl
  refine ⟨fun t' => ⟨fun h => h.unique hcourse, ?_⟩, hresult, hcourse.calls_eq,
    hcourse.exists_save_iff⟩
  rintro rfl
  exact hcourse

end Editor

end FluentBuilder
