import FluentBuilder.Proofs.Settings.Search
import FluentBuilder.Proofs.Text.Runs

namespace FluentBuilder.Settings

variable {s : Settings} {env : Environment} {place : Location} {tree : FileTree}

/-- The settings make sense, and a builder file stays in the directory of its document. -/
structure Valid (s : Settings) : Prop where
  indentWidth : 0 < s.generator.indentWidth
  setterPrefix : s.generator.setterPrefix.trim ≠ []
  suffix : s.suffix.trim ≠ []
  slash : '/' ∉ s.suffix
  backslash : '\\' ∉ s.suffix

theorem valid_of_fault? (h : s.fault? = none) : s.Valid := by
  unfold fault? at h
  split_ifs at h with hindent hprefix hsuffix
  simp only [Bool.or_eq_true, not_or, List.isEmpty_iff, List.contains_iff_mem] at hprefix hsuffix
  obtain ⟨⟨hblank, hslash⟩, hbackslash⟩ := hsuffix
  exact {
    indentWidth := Nat.pos_of_ne_zero hindent
    setterPrefix := hprefix
    suffix := hblank
    slash := hslash
    backslash := hbackslash }

/-- The checks in their order, for a suffix without a backslash. -/
theorem fault?_eq (h : '\\' ∉ s.suffix) :
    s.fault? =
      if s.generator.indentWidth = 0 then some ("generator.indent_width".toList, ['0'])
      else if Text.IsSpace s.generator.setterPrefix then
        some ("generator.setter_prefix".toList, s.generator.setterPrefix)
      else if Text.IsSpace s.suffix ∨ '/' ∈ s.suffix then some ("output.suffix".toList, s.suffix)
      else none := by
  simp only [fault?, List.isEmpty_iff, Text.trim_eq_nil_iff, Bool.or_eq_true, List.contains_iff_mem, h,
    or_false]

theorem fault?_of_valid (h : s.Valid) : s.fault? = none := by
  have hsuffix : (s.suffix.trim.isEmpty || s.suffix.contains '/' || s.suffix.contains '\\') = false := by
    simp [h.suffix, h.slash, h.backslash]
  rw [fault?, if_neg h.indentWidth.ne', if_neg (by simpa using h.setterPrefix), hsuffix]
  rfl

/-- The checks, one for each thing that a setting must not be. -/
theorem valid_iff :
    s.Valid ↔ 1 ≤ s.generator.indentWidth ∧ ¬ Text.IsSpace s.generator.setterPrefix ∧
      ¬ Text.IsSpace s.suffix ∧ '/' ∉ s.suffix ∧ '\\' ∉ s.suffix := by
  rw [← Text.trim_eq_nil_iff, ← Text.trim_eq_nil_iff]
  constructor
  · intro h
    exact ⟨h.indentWidth, h.setterPrefix, h.suffix, h.slash, h.backslash⟩
  · rintro ⟨hindent, hprefix, hsuffix, hslash, hbackslash⟩
    exact ⟨hindent, hprefix, hsuffix, hslash, hbackslash⟩

theorem valid_default : Valid {} :=
  valid_of_fault? rfl

/-- A document gives just the settings written in it, expanded, if those are valid. -/
theorem ofDocument_eq_ok_iff {document : Text} :
    ofDocument env document = .ok s ↔ ∃ written, (Toml.document? document).bind decode? = some written ∧
      expandReferences env written = .ok s ∧ s.Valid := by
  constructor
  · intro h
    unfold ofDocument at h
    split at h
    · cases h
    · rename_i written hwritten
      split at h
      · cases h
      · rename_i expanded hexpanded
        split at h
        · cases h
        · rename_i hfault
          cases h
          exact ⟨written, hwritten, hexpanded, valid_of_fault? hfault⟩
  · rintro ⟨written, hwritten, hexpanded, hvalid⟩
    simp only [ofDocument, hwritten, hexpanded, fault?_of_valid hvalid]

theorem valid_of_ofDocument {document : Text} (h : ofDocument env document = .ok s) : s.Valid := by
  obtain ⟨written, -, -, hvalid⟩ := ofDocument_eq_ok_iff.mp h
  exact hvalid

theorem valid_of_readIn {path : Text} (h : readIn env place tree path = .ok s) : s.Valid := by
  unfold readIn at h
  split at h
  · cases h
  · exact valid_of_ofDocument h

theorem valid_of_loaded {explicit : Option Text} {directory : Text}
    (h : loaded env explicit directory place tree = .ok s) : s.Valid := by
  unfold loaded at h
  split at h
  · split_ifs at h
    exact valid_of_readIn h
  · split at h
    · exact valid_of_readIn h
    · cases h
      exact valid_default

end FluentBuilder.Settings
