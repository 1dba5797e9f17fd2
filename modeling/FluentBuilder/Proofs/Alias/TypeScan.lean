import FluentBuilder.Proofs.Alias.PropertyScan

namespace FluentBuilder.Alias

open Unicode

def typeText? : Text → Option (Text × Text)
  | ':' :: t => (type? t).map fun found => (found.1.trim, found.2)
  | _ => none

theorem typeText?_cons_of_ne {c : Char} (hc : c ≠ ':') (t : Text) : typeText? (c :: t) = none := by
  simp [typeText?, hc]

theorem typeText?_eq_some {t rest type : Text} (h : typeText? t = some (type, rest)) :
    ∃ after written, t = ':' :: after ∧ type? after = some (written, rest) ∧ written.trim = type := by
  unfold typeText? at h
  split at h
  · rename_i after
    obtain ⟨⟨written, left⟩, hfound, heq⟩ := Option.map_eq_some_iff.mp h
    obtain ⟨htrim, rfl⟩ := Prod.mk.inj heq
    exact ⟨after, written, rfl, hfound, htrim⟩
  · cases h

theorem typeTexts_nil : typeTexts [] = [] := by
  rw [typeTexts]

theorem typeTexts_of_some {t rest type : Text} (h : typeText? t = some (type, rest)) :
    typeTexts t = type :: typeTexts rest := by
  obtain ⟨after, written, rfl, hfound, rfl⟩ := typeText?_eq_some h
  rw [typeTexts, if_pos rfl]
  split
  · rename_i heq
    rw [hfound] at heq
    cases heq
    rfl
  · rename_i heq
    rw [hfound] at heq
    cases heq

theorem typeTexts_of_none {t : Text} (h : typeText? t = none) :
    typeTexts t = typeTexts t.tail := by
  cases t with
  | nil => rfl
  | cons c t =>
    rw [typeTexts]
    split_ifs with hc
    · subst hc
      split
      · rename_i heq
        rw [typeText?, heq] at h
        cases h
      · rfl
    · rfl

theorem isScan_typeTexts : IsScan typeText? List.tail typeTexts where
  nil := typeTexts_nil
  found := typeTexts_of_some
  skipped := typeTexts_of_none
  length_step_lt := by
    intro t rest type h
    obtain ⟨after, written, rfl, hfound, -⟩ := typeText?_eq_some h
    exact Nat.lt_succ_of_le (length_le_of_type? hfound)
  length_skip_lt := by
    intro t ht
    have hpos := List.length_pos_iff.mpr ht
    rw [List.length_tail]
    omega

theorem stopsAtLineEnds_typeText? : StopsAtLineEnds typeText? List.tail where
  step?_append := by
    intro x hx s t
    obtain ⟨-, -, -, -, hcolon⟩ := class_of_endsLine hx
    cases s with
    | nil => exact typeText?_cons_of_ne hcolon t
    | cons c s =>
      by_cases hc : c = ':'
      · subst hc
        rw [List.cons_append, typeText?, type?_append_lineEnd hx, typeText?, Option.map_map,
          Option.map_map]
        rfl
      · rw [List.cons_append, typeText?_cons_of_ne hc, typeText?_cons_of_ne hc, Option.map_none]
  skip_append := by
    intro x hx s t
    cases s with
    | nil => exact .inr ⟨rfl, rfl⟩
    | cons c s => exact .inl rfl

theorem answers_types (t : Text) : Answers (typeTexts t) (types t) := by
  unfold types
  cases typeTexts t with
  | nil => exact .inr ⟨rfl, _, rfl⟩
  | cons type rest => exact .inl ⟨List.cons_ne_nil type rest, rfl⟩

/-- All three scans of a document go line by line. -/
theorem scans_isByLine :
    IsByLine (fun t => listed (members t)) ∧ IsByLine (fun t => listed (properties t)) ∧
      IsByLine fun t => listed (types t) := by
  simp only [(answers_members _).listed_eq, (answers_properties _).listed_eq,
    (answers_types _).listed_eq]
  exact ⟨isScan_memberList.isByLine stopsAtLineEnds_member?,
    isScan_propertyNames.isByLine stopsAtLineEnds_property?,
    isScan_typeTexts.isByLine stopsAtLineEnds_typeText?⟩

end FluentBuilder.Alias
