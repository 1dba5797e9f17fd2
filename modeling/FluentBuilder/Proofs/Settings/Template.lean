import FluentBuilder.CommandLine.Template
import FluentBuilder.Proofs.Settings.Reference
import FluentBuilder.Proofs.Settings.Valid
import FluentBuilder.Proofs.Toml.Lines

namespace FluentBuilder

def SetterCase.name : SetterCase → Text
  | capitalize => "capitalize".toList
  | pascal => "pascal".toList

namespace Settings

open Toml

variable {s : Settings} {env : Environment}

def templateLines (s : Settings) : List Toml.Line :=
  [.comment "# typebuilder configuration".toList,
    .empty,
    .table "generator".toList,
    .comment "# Prefix of every fluent setter method".toList,
    .assign "setter_prefix".toList (.string s.generator.setterPrefix),
    .comment "# \"capitalize\" upper-cases the first character, \"pascal\" converts snake_case too".toList,
    .assign "setter_case".toList (.string s.generator.setterCase.name),
    .comment "# Initial value of every private field".toList,
    .assign "field_initializer".toList (.string s.generator.fieldInitializer),
    .assign "indent_width".toList (.count s.generator.indentWidth),
    .assign "export_class".toList (.boolean s.generator.exportClass),
    .empty,
    .table "output".toList,
    .comment "# Builder files are written as <name>.<suffix>.<ext>".toList,
    .assign "suffix".toList (.string s.suffix)]

def template (s : Settings) : Text :=
  ofLines s.templateLines

theorem map_written_templateLines :
    (templateLines {}).map Toml.Line.written = CommandLine.templateLines :=
  (rfl)

theorem template_default : template {} = CommandLine.template :=
  congrArg Text.unlines map_written_templateLines

/-- The settings can be put into the file as they are: the texts need no escapes and hold no
references, and the count fits into a word. -/
structure IsWritable (s : Settings) : Prop where
  setterPrefix : IsUnescaped s.generator.setterPrefix
  fieldInitializer : IsUnescaped s.generator.fieldInitializer
  suffix : IsUnescaped s.suffix
  indentWidth : s.generator.indentWidth < UInt64.size
  literals : IsLiteral s.generator.setterPrefix ∧ IsLiteral s.generator.fieldInitializer ∧
    IsLiteral s.suffix

theorem isUnescaped_name (c : SetterCase) : IsUnescaped c.name := by
  cases c <;> decide

theorem caseNamed?_name (c : SetterCase) : caseNamed? c.name = some c := by
  cases c <;> rfl

-- The characters of a literal are known without evaluating it.
theorem isWritable_comment {t : Text} (h : t.all isPlain) :
    (Toml.Line.comment (String.ofList ('#' :: t)).toList).IsWritable := by
  rw [String.toList_ofList]
  exact ⟨rfl, List.forall_mem_cons.mpr ⟨rfl, List.all_eq_true.mp h⟩⟩

theorem isWritable_of_mem_templateLines (h : s.IsWritable) :
    ∀ l ∈ s.templateLines, l.IsWritable := by
  have hcount : s.generator.indentWidth < Nat.pow 2 128 := h.indentWidth.trans (by decide)
  rw [← List.forall_iff_forall_mem]
  unfold templateLines
  simp only [List.Forall]
  exact ⟨isWritable_comment (by decide), trivial,
    (by decide : IsBareWord "generator".toList),
    isWritable_comment (by decide),
    ⟨by decide, h.setterPrefix⟩,
    isWritable_comment (by decide),
    ⟨by decide, isUnescaped_name s.generator.setterCase⟩,
    isWritable_comment (by decide),
    ⟨by decide, h.fieldInitializer⟩,
    ⟨by decide, hcount⟩,
    ⟨by decide, trivial⟩,
    trivial,
    (by decide : IsBareWord "output".toList),
    isWritable_comment (by decide),
    ⟨by decide, h.suffix⟩⟩

def generatorEntries (s : ClassSettings) : Entries :=
  [("setter_prefix".toList, .string s.setterPrefix),
    ("setter_case".toList, .string s.setterCase.name),
    ("field_initializer".toList, .string s.fieldInitializer),
    ("indent_width".toList, .integer s.indentWidth),
    ("export_class".toList, .boolean s.exportClass)]

def entries (s : Settings) : Entries :=
  [("generator".toList, .table .header (generatorEntries s.generator)),
    ("output".toList, .table .header [("suffix".toList, .string s.suffix)])]

theorem document?_template (h : s.IsWritable) : document? s.template = some s.entries := by
  rw [template, document?_ofLines (isWritable_of_mem_templateLines h)]
  rfl

theorem decodeGenerator?_entries {s : ClassSettings} (h : s.indentWidth < UInt64.size) :
    decodeGenerator? (generatorEntries s) = some s := by
  have hstart : (generatorEntries s).lookup "setter_prefix".toList =
    some (.string s.setterPrefix) := rfl
  have hcase : (generatorEntries s).lookup "setter_case".toList =
    some (.string s.setterCase.name) := rfl
  have hinitializer : (generatorEntries s).lookup "field_initializer".toList =
    some (.string s.fieldInitializer) := rfl
  have hindent : (generatorEntries s).lookup "indent_width".toList =
    some (.integer s.indentWidth) := rfl
  have hexport : (generatorEntries s).lookup "export_class".toList =
    some (.boolean s.exportClass) := rfl
  have hcount : count? 2 (some (.integer s.indentWidth)) = some s.indentWidth := by
    simp [count?, h]
  simp only [decodeGenerator?, hstart, hcase, hinitializer, hindent, hexport, text?, setterCase?,
    caseNamed?_name, hcount, flag?]
  rfl

theorem decode?_entries (h : s.generator.indentWidth < UInt64.size) : decode? s.entries = some s := by
  have hgenerator : s.entries.lookup "generator".toList =
    some (.table .header (generatorEntries s.generator)) := rfl
  have houtput : s.entries.lookup "output".toList =
    some (.table .header [("suffix".toList, .string s.suffix)]) := rfl
  have hsuffix : List.lookup "suffix".toList [("suffix".toList, Value.string s.suffix)] =
    some (.string s.suffix) := rfl
  simp only [decode?, hgenerator, houtput, sectionEntries?, Option.bind_eq_bind, Option.bind_some,
    decodeGenerator?_entries h, hsuffix, text?]
  rfl

theorem expandReferences_of_isLiteral (h : IsLiteral s.generator.setterPrefix ∧
      IsLiteral s.generator.fieldInitializer ∧ IsLiteral s.suffix) :
    expandReferences env s = .ok s := by
  obtain ⟨hstart, hinitializer, hsuffix⟩ := h
  simp only [expandReferences, expand_of_isLiteral hstart, expand_of_isLiteral hinitializer,
    expand_of_isLiteral hsuffix]
  rfl

theorem ofDocument_of_isWritable (h : s.IsWritable) :
    ofDocument env s.template =
      match s.fault? with
      | some (key, value) => .error (.invalidValue key value)
      | none => .ok s := by
  have hread : (document? s.template).bind decode? = some s := by
    rw [document?_template h, Option.bind_some, decode?_entries h.indentWidth]
  rcases hfault : s.fault? with _ | ⟨key, value⟩ <;>
    simp only [ofDocument, hread, expandReferences_of_isLiteral h.literals, hfault]

theorem isWritable_default : IsWritable {} :=
  ⟨by decide +kernel, by decide +kernel, by decide +kernel, by decide, by decide +kernel⟩

/-- The settings file for a start gives the defaults, whatever variables are set. -/
theorem ofDocument_default : ofDocument env CommandLine.template = .ok {} := by
  rw [← template_default, ofDocument_of_isWritable isWritable_default, fault?_of_valid valid_default]

/-- The settings file for a start, with other settings put in, is read as just those settings if they
make sense, whatever variables are set. Otherwise the error is the first check that they fail. -/
theorem ofDocument_template (h : s.IsWritable) (env : Environment) :
    template {} = CommandLine.template ∧
      ofDocument env s.template =
        if s.generator.indentWidth = 0 then
          .error (.invalidValue "generator.indent_width".toList ['0'])
        else if Text.IsSpace s.generator.setterPrefix then
          .error (.invalidValue "generator.setter_prefix".toList s.generator.setterPrefix)
        else if Text.IsSpace s.suffix ∨ '/' ∈ s.suffix then
          .error (.invalidValue "output.suffix".toList s.suffix)
        else .ok s := by
  have hbackslash : '\\' ∉ s.suffix := fun hmem => (h.suffix _ hmem).2.1 rfl
  refine ⟨template_default, ?_⟩
  rw [ofDocument_of_isWritable h, fault?_eq hbackslash]
  split_ifs <;> rfl

/-- The largest count and texts with signs of the language are read as they are, and of two values that
make no sense the first is reported. -/
theorem ofDocument_template_extreme :
    let s : Settings := {
      generator := {
        setterPrefix := "'mit' # ".toList
        setterCase := .pascal
        fieldInitializer := []
        indentWidth := 18446744073709551615
        exportClass := false }
      suffix := "größe = $".toList }
    let faulty : Settings := {
      generator := { s.generator with setterPrefix := " \u3000".toList }
      suffix := "a/b".toList }
    s.IsWritable ∧ faulty.IsWritable ∧ ofDocument (fun _ => none) s.template = .ok s ∧
      ofDocument (fun _ => none) faulty.template =
        .error (.invalidValue "generator.setter_prefix".toList " \u3000".toList) := by
  intro s faulty
  have hs : s.IsWritable :=
    ⟨by decide +kernel, by decide, by decide +kernel, by decide, by decide +kernel⟩
  have hfaulty : faulty.IsWritable :=
    ⟨by decide +kernel, by decide, by decide +kernel, by decide, by decide +kernel⟩
  refine ⟨hs, hfaulty, ?_, ?_⟩
  · rw [(ofDocument_template hs _).2, if_neg (by decide), if_neg (by decide +kernel),
      if_neg (by decide +kernel)]
  · rw [(ofDocument_template hfaulty _).2, if_neg (by decide), if_pos (by decide +kernel)]

end Settings

end FluentBuilder
