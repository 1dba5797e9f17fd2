import FluentBuilder.Builder.Basic
import FluentBuilder.Proofs.Alias.Signature

namespace FluentBuilder

open Unicode

theorem Alias.trim_ne_nil_of_hasMethod {t : Text} (h : Alias.hasMethod t) : t.trim ≠ [] := by
  obtain ⟨u, c, rest, rfl, hc, -⟩ := Alias.hasMethod_iff_exists.1 h
  exact Text.trim_ne_nil (c := c) (by simp) (isSpace_eq_false_of_isWord hc)

namespace Builder

variable {s : ClassSettings} {t : Text}

/-- A builder is made from a document with a name and members, provided that it has no method. -/
theorem ofDocument_eq_ok_iff {b : Builder} :
    ofDocument s t = .ok b ↔ t.trim ≠ [] ∧ Alias.hasMethod t = false ∧
      ∃ aliasName members, Alias.name t = .ok aliasName ∧ Alias.members t = .ok members ∧
        b = ofMembers s aliasName members := by
  unfold ofDocument
  by_cases hempty : t.trim = []
  · rw [if_pos (List.isEmpty_iff.mpr hempty)]
    exact iff_of_false nofun fun h => h.1 hempty
  rw [if_neg (by simpa using hempty)]
  by_cases hmethod : Alias.hasMethod t
  · rw [if_pos hmethod]
    exact iff_of_false nofun fun h => Bool.false_ne_true (h.2.1.symm.trans hmethod)
  rw [if_neg hmethod]
  cases hname : Alias.name t with
  | error failure => exact iff_of_false nofun fun ⟨_, _, _, _, h, _⟩ => nomatch h
  | ok aliasName =>
    cases hmembers : Alias.members t with
    | error failure => exact iff_of_false nofun fun ⟨_, _, _, _, _, h, _⟩ => nomatch h
    | ok members =>
      constructor
      · rintro ⟨⟩
        exact ⟨hempty, Bool.eq_false_iff.mpr hmethod, aliasName, members, rfl, rfl, rfl⟩
      · rintro ⟨-, -, _, _, ⟨⟩, ⟨⟩, rfl⟩
        rfl

theorem ofDocument_of_name_members {aliasName : Text} {members : List Member} (ht : t.trim ≠ [])
    (hm : Alias.hasMethod t = false) (hname : Alias.name t = .ok aliasName)
    (hmembers : Alias.members t = .ok members) :
    ofDocument s t = .ok (ofMembers s aliasName members) :=
  ofDocument_eq_ok_iff.mpr ⟨ht, hm, aliasName, members, hname, hmembers, rfl⟩

theorem exists_ofMembers_of_ofDocument {b : Builder} (h : ofDocument s t = .ok b) :
    ∃ aliasName members, b = ofMembers s aliasName members := by
  obtain ⟨-, -, aliasName, members, -, -, hb⟩ := ofDocument_eq_ok_iff.mp h
  exact ⟨aliasName, members, hb⟩

theorem ofDocument_of_hasMethod (h : Alias.hasMethod t) :
    ofDocument s t = .error .methodsNotSupported := by
  rw [ofDocument, if_neg (by simpa using Alias.trim_ne_nil_of_hasMethod h), if_pos h]

/-- A document that has something logged about it has no builder. -/
theorem documentLines_cases (s : ClassSettings) (t : Text) :
    documentLines t = [] ∨
      documentLines t = [.unpairable] ∧ ofDocument s t = .error .noDataTypes := by
  unfold documentLines
  by_cases hstop : t.trim.isEmpty || Alias.hasMethod t
  · rw [if_pos hstop]
    exact Or.inl rfl
  · rw [if_neg hstop]
    obtain ⟨hempty, hmethod⟩ := not_or.mp fun h => hstop ((Bool.or_eq_true _ _).mpr h)
    cases hname : Alias.name t with
    | error failure => exact Or.inl rfl
    | ok aliasName =>
      cases hlist : Alias.memberList t with
      | cons m ms => exact Or.inl rfl
      | nil =>
        by_cases hnone : Alias.propertyNames t = [] || Alias.typeTexts t = []
        · exact Or.inl (by simp only [hnone, if_true])
        · refine Or.inr ⟨by simp only [hnone]; rfl, ?_⟩
          have hmembers : Alias.members t = .error .noDataTypes := by
            rw [Alias.members, hlist]
            cases hnames : Alias.propertyNames t with
            | nil => simp [hnames] at hnone
            | cons name names => rfl
          rw [ofDocument, if_neg hempty, if_neg hmethod, hname, hmembers]
          rfl

end Builder

end FluentBuilder
