import FluentBuilder.Proofs.Alias.Cover
import FluentBuilder.Proofs.Alias.TypeScan

namespace FluentBuilder.Alias

open Unicode

variable {s t : Text}

def EveryColon (P : Text → Text → Prop) (t : Text) : Prop :=
  ∀ before after, t = before ++ ':' :: after → P before after

theorem everyColon_iff {P : Text → Text → Prop} :
    EveryColon P t ↔
      ∀ i ∈ List.range t.length, t[i]? = some ':' → P (t.take i) (t.drop (i + 1)) := by
  constructor
  · intro h i hi hcolon
    apply h
    rw [List.mem_range] at hi
    rw [List.getElem?_eq_getElem hi, Option.some.injEq] at hcolon
    rw [← hcolon, ← List.drop_eq_getElem_cons hi, List.take_append_drop]
  · rintro h before after rfl
    have hcolon := h before.length (by simp) (by simp)
    simpa using hcolon

instance {P : Text → Text → Prop} [∀ before after, Decidable (P before after)] :
    Decidable (EveryColon P t) :=
  @decidable_of_iff _ _ everyColon_iff.symm (List.decidableBAll _ _)

/-- In front of the blanks at its end, the text has a character with the property. -/
def EndsWith (P : Char → Prop) (t : Text) : Prop :=
  ∃ c ∈ (t.rdropWhile isBlank).getLast?, P c

-- Deciding looks at that character, not at all characters there are.
instance {P : Char → Prop} [DecidablePred P] : Decidable (EndsWith P t) :=
  Option.decidableExistsMem _

theorem exists_of_endsWith {P : Char → Prop} (h : EndsWith P t) :
    ∃ c b, c :: b <:+ t ∧ Text.IsBlank b ∧ P c := by
  obtain ⟨c, hlast, hc⟩ := h
  have hcut : t.rdropWhile isBlank ++ t.rtakeWhile isBlank = t :=
    List.rdropWhile_append_rtakeWhile
  obtain ⟨p, hp⟩ := List.getLast?_eq_some_iff.mp hlast
  refine ⟨c, t.rtakeWhile isBlank, ⟨p, ?_⟩, fun d hd => List.mem_rtakeWhile_imp hd, hc⟩
  rw [List.append_cons, ← hp, hcut]

theorem endsWith_of_suffix {P : Char → Prop} {b : Text} {c : Char} (h : c :: b <:+ t)
    (hb : b.IsBlank) (hkeep : isBlank c = false) (hc : P c) : EndsWith P t := by
  obtain ⟨p, rfl⟩ := h
  refine ⟨c, ?_, hc⟩
  have hdrop : (p ++ c :: b).rdropWhile isBlank = p ++ [c] := by
    rw [List.rdropWhile, List.reverse_append, List.reverse_cons, List.append_assoc,
      List.singleton_append, Text.dropWhile_run (fun d hd => hb d (List.mem_reverse.mp hd)) hkeep]
    simp
  rw [hdrop]
  simp

/-- The text ends with what ends a head, and not with another colon: behind it there are blanks at
most. -/
def EndsHead (t : Text) : Prop :=
  EndsWith (fun c => isSpace c = false ∧ c ≠ ':') t

instance : Decidable (EndsHead t) :=
  inferInstanceAs (Decidable (EndsWith _ t))

theorem endsHead_append (h : EndsHead (s ++ t)) :
    EndsHead t ∨ ∃ r c b, r <:+ s ∧ r ≠ [] ∧ r ++ t = c :: b ∧ Text.IsBlank b ∧ isSpace c = false := by
  obtain ⟨c, b, ⟨p, hp⟩, hb, hc, hcolon⟩ := exists_of_endsWith h
  have hkeep := isBlank_eq_false_of_isSpace_eq_false hc
  rcases List.append_eq_append_iff.mp hp with ⟨r, rfl, hr⟩ | ⟨r, rfl, rfl⟩
  · by_cases hnil : r = []
    · subst hnil
      exact .inl (endsWith_of_suffix (hr ▸ List.suffix_rfl) hb hkeep ⟨hc, hcolon⟩)
    · exact .inr ⟨r, c, b, List.suffix_append p r, hnil, hr.symm, hb, hc⟩
  · exact .inl (endsWith_of_suffix (List.suffix_append r (c :: b)) hb hkeep ⟨hc, hcolon⟩)

theorem starts_of_type? {b after : Text} {c : Char} (hb : b.IsBlank) (hc : isSpace c = false)
    (htype : type? after ≠ none) : Starts (c :: b ++ ':' :: after) := by
  obtain ⟨⟨type, rest⟩, htype⟩ := Option.ne_none_iff_exists'.mp htype
  obtain ⟨o, hfits, htext, -⟩ := exists_occurrence (mem_heads (w := []) (by simp) hc hb after) htype
  exact ⟨o, rest, hfits, htext⟩

/-- The type scan passes colons that no type follows. -/
theorem typeTexts_append (h : ∀ before after, s = before ++ ':' :: after → type? (after ++ t) = none) :
    typeTexts (s ++ t) = typeTexts t := by
  induction s with
  | nil => rfl
  | cons c s ih =>
    have hnone : typeText? (c :: (s ++ t)) = none := by
      by_cases hc : c = ':'
      · rw [hc, typeText?, h [] s (by rw [hc]; rfl), Option.map_none]
      · exact typeText?_cons_of_ne hc _
    rw [List.cons_append, typeTexts_of_none hnone, List.tail_cons]
    exact ih fun before after hs => h (c :: before) after (by rw [hs]; rfl)

theorem typeTexts_append_of_no_colon (h : ':' ∉ s) : typeTexts (s ++ t) = typeTexts t :=
  typeTexts_append fun before after hs => absurd (by simp [hs]) h

def TypesHeaded (t : Text) : Prop :=
  EveryColon (fun before after => type? after ≠ none → EndsHead before) t

theorem TypesHeaded.colon_not_mem_head {o : Occurrence} {rest : Text} (ho : o.Fits rest)
    (h : TypesHeaded (o.text ++ rest)) : ':' ∉ o.head := by
  have htype : type? (o.afterColon ++ (o.type ++ rest)) ≠ none := by
    rw [ho.type?]
    exact Option.some_ne_none _
  obtain ⟨c, b, ⟨p, hp⟩, hb, hc, hcolon⟩ := exists_of_endsWith (h _ _ (o.text_append rest) htype)
  obtain ⟨-, rfl, -⟩ := Text.append_cons_blank_inj (isBlank_eq_false_of_isSpace_eq_false hc)
    (isBlank_eq_false_of_isSpace_eq_false ho.last) hb ho.beforeColon hp
  have hword : ':' ∉ o.word := fun hmem => absurd (ho.word ':' hmem) (by decide)
  have hblanks : ':' ∉ o.beforeColon := ho.beforeColon.not_mem (by decide)
  simp [Occurrence.head, hword, hblanks, hcolon.symm]

theorem typeTexts_occurrence {o : Occurrence} {rest : Text} (ho : o.Fits rest)
    (h : TypesHeaded (o.text ++ rest)) :
    typeTexts (o.text ++ rest) = o.type.trim :: typeTexts rest := by
  have hcolon : typeText? (':' :: (o.afterColon ++ (o.type ++ rest))) = some (o.type.trim, rest) := by
    rw [typeText?, ho.type?, Option.map_some]
  rw [o.text_append, typeTexts_append_of_no_colon (h.colon_not_mem_head ho), typeTexts_of_some hcolon]

/-- What ends a type is no blank, so the head of a later colon stands behind the type. -/
theorem TypesHeaded.rest {o : Occurrence} {rest : Text} (ho : o.Fits rest)
    (h : TypesHeaded (o.text ++ rest)) : TypesHeaded rest := by
  rintro before after rfl htype
  rcases endsHead_append (h (o.text ++ before) after (by simp) htype) with
    hhead | ⟨r, c, b, -, hne, hcut, hb, -⟩
  · exact hhead
  · obtain ⟨d, r, rfl⟩ := List.exists_cons_of_ne_nil hne
    obtain ⟨-, rfl⟩ := List.cons.inj hcut
    cases before with
    | nil => exact absurd (ho.type.stops ':' rfl) (by decide)
    | cons e before =>
      have hblank : isBlank e := hb e (by simp)
      have hends := ho.type.stops e rfl
      rw [endsType_eq_false_of_isBlank hblank] at hends
      cases hends

section Gap

variable {gap behind : Text} (hgap : NoneStartsIn gap behind) (h : TypesHeaded (gap ++ behind))

include hgap h

theorem typeTexts_gap : typeTexts (gap ++ behind) = typeTexts behind := by
  apply typeTexts_append
  rintro before after rfl
  by_contra htype
  obtain ⟨c, b, hsuffix, hb, hc, -⟩ := exists_of_endsWith (h before (after ++ behind) (by simp) htype)
  have hinside : c :: b ++ ':' :: after <:+ before ++ ':' :: after := by
    obtain ⟨p, rfl⟩ := hsuffix
    exact ⟨p, by simp⟩
  refine hgap _ hinside (by simp) ?_
  rw [List.append_assoc, List.cons_append]
  exact starts_of_type? hb hc htype

theorem TypesHeaded.of_gap : TypesHeaded behind := by
  rintro before after rfl htype
  rcases endsHead_append (h (gap ++ before) after (by simp) htype) with
    hhead | ⟨r, c, b, hr, hne, hcut, hb, hc⟩
  · exact hhead
  · refine absurd (starts_of_type? hb hc htype) ?_
    rw [← hcut, List.append_assoc]
    exact hgap r hr hne

end Gap

theorem typeTexts_eq_map_memberList (h : TypesHeaded t) :
    typeTexts t = (memberList t).map Member.type := by
  fun_induction memberList t with
  | case1 => exact typeTexts_nil
  | case2 t ht m rest hfound ih =>
    obtain ⟨o, ⟨ho, -⟩, rfl, rfl⟩ := exists_of_member? hfound
    rw [typeTexts_occurrence ho h, ih (h.rest ho)]
    rfl
  | case3 t ht hnone ih =>
    obtain ⟨gap, hcut, hgap⟩ := exists_gap_of_not_starts (member?_eq_none_iff.mp hnone)
    rw [← hcut] at h
    rw [← ih (TypesHeaded.of_gap hgap h), ← typeTexts_gap hgap h, hcut]

/-- If every colon stands behind a head, then the types of a document are those of its members. -/
theorem types_eq_ok_iff_members {document : Text}
    (h : EveryColon (fun before _ => EndsHead before) document) (texts : List Text) :
    types document = .ok texts ↔
      ∃ ms, members document = .ok ms ∧ texts = ms.map Member.type := by
  have hlists : typeTexts document = (memberList document).map Member.type :=
    typeTexts_eq_map_memberList fun before after hcut _ => h before after hcut
  simp only [(answers_types document).eq_ok_iff, (answers_members document).eq_ok_iff, hlists]
  constructor
  · rintro ⟨rfl, hne⟩
    exact ⟨memberList document, ⟨rfl, fun hnil => hne (by rw [hnil, List.map_nil])⟩, rfl⟩
  · rintro ⟨ms, ⟨rfl, hne⟩, rfl⟩
    exact ⟨rfl, fun hnil => hne (List.map_eq_nil_iff.mp hnil)⟩

/-- Colons inside of types, without a type, and directly behind a comma that ends one. -/
theorem types_of_headed_colons :
    EveryColon (fun before _ => EndsHead before) "\x7b a: , b?: c: d,: g+ :h \x7d".toList ∧
      types "\x7b a: , b?: c: d,: g+ :h \x7d".toList =
        .ok ["c: d".toList, "g+ :h".toList] := by
  have hheads : EveryColon (fun before _ => EndsHead before)
      "\x7b a: , b?: c: d,: g+ :h \x7d".toList := by
    decide +kernel
  refine ⟨hheads, (types_eq_ok_iff_members hheads _).mpr ?_⟩
  refine ⟨[
    { name := "b".toList, type := "c: d".toList, optional := true },
    { name := ",".toList, type := "g+ :h".toList }], ?_, rfl⟩
  decide +kernel

/-- A colon without a head has a type for one scan and no member for the other. -/
example : types ": a".toList = .ok ["a".toList] ∧ members ": a".toList = .error .noProperties := by
  decide +kernel

end FluentBuilder.Alias
