import FluentBuilder.Proofs.Alias.Occurrence

namespace FluentBuilder.Alias

open Unicode

/-- A type that the scan takes whole: no character in it ends a type, none at its ends is trimmed away,
and no colon at its start is taken for that of a head. -/
structure IsSimpleType (t : Text) : Prop where
  ne_nil : t ≠ []
  isTrimmed : t.IsTrimmed
  head?_ne_colon : t.head? ≠ some ':'
  endsType_eq_false : ∀ c ∈ t, endsType c = false

instance (t : Text) : Decidable (IsSimpleType t) :=
  decidable_of_iff
    (t ≠ [] ∧ t.IsTrimmed ∧ t.head? ≠ some ':' ∧ t.any endsType = false) <| by
      simp only [List.any_eq_false, Bool.not_eq_true]
      exact ⟨fun ⟨hne, htrimmed, hcolon, hends⟩ => ⟨hne, htrimmed, hcolon, hends⟩,
        fun h => ⟨h.ne_nil, h.isTrimmed, h.head?_ne_colon, h.endsType_eq_false⟩⟩

def mark (optional : Bool) : Text :=
  if optional then ['?'] else []

theorem not_colonAhead_append {b : Text} {c : Char} (hb : b.IsBlank) (hc : isBlank c = false)
    (hne : c ≠ ':') (t : Text) : ¬ColonAhead (b ++ c :: t) := by
  rw [ColonAhead, Text.dropWhile_run hb hc, List.head?_cons, Option.some.injEq]
  exact hne

theorem IsSimpleType.exists_cons {t : Text} (h : IsSimpleType t) :
    ∃ c rest, t = c :: rest ∧ isSpace c = false ∧ c ≠ ':' := by
  cases t with
  | nil => exact absurd rfl h.ne_nil
  | cons c rest => exact ⟨c, rest, rfl, h.isTrimmed.1 c rfl, fun hc => h.head?_ne_colon (hc ▸ rfl)⟩

theorem IsSimpleType.not_colonAhead {b t : Text} (hb : b.IsBlank) (ht : IsSimpleType t)
    (rest : Text) : ¬ColonAhead (b ++ (t ++ rest)) := by
  obtain ⟨c, more, rfl, hspace, hne⟩ := ht.exists_cons
  exact not_colonAhead_append hb (isBlank_eq_false_of_isSpace_eq_false hspace) hne _

/-- The name and the mark as the word and the last character of a head. -/
theorem exists_head_of_name {w : Text} (hw : w.IsWord) (optional : Bool) :
    ∃ word last, w ++ mark optional = word ++ [last] ∧ (∀ c ∈ word, isWord c) ∧
      isSpace last = false ∧ (if last = '?' then word else word ++ [last]) = w ∧
      decide (last = '?') = optional := by
  cases optional with
  | true => exact ⟨w, '?', rfl, hw.2, by decide, rfl, rfl⟩
  | false =>
    obtain ⟨hne, hall⟩ := hw
    rcases List.eq_nil_or_concat' w with rfl | ⟨w, c, rfl⟩
    · exact absurd rfl hne
    · have hc : isWord c := hall c (by simp)
      have hmark : c ≠ '?' := by
        rintro rfl
        exact absurd hc (by decide)
      exact ⟨w, c, List.append_nil _, fun d hd => hall d (by simp [hd]),
        isSpace_eq_false_of_isWord hc, if_neg hmark, decide_eq_false hmark⟩

theorem IsSimpleType.typeBefore {t s : Text} {x : Char} (ht : IsSimpleType t) (hs : s.IsBlank)
    (hx : endsType x) (tail : Text) : TypeBefore (x :: tail) (t ++ s) := by
  obtain ⟨c, more, hcons, hspace, -⟩ := ht.exists_cons
  refine ⟨⟨c, more ++ s, by rw [hcons]; rfl, hspace⟩, ?_, ?_⟩
  · exact List.forall_mem_append.mpr
      ⟨ht.endsType_eq_false, fun c hc => endsType_eq_false_of_isBlank (hs c hc)⟩
  · rintro d ⟨⟩
    exact hx

/-- A written member is read back whole, up to the character that ends its type. -/
theorem member?_written {m : Member} {b₁ b₂ b₃ : Text} {x : Char} (hname : m.name.IsWord)
    (htype : IsSimpleType m.type) (hb₁ : b₁.IsBlank) (hb₂ : b₂.IsBlank) (hb₃ : b₃.IsBlank)
    (hx : endsType x) (tail : Text) :
    member? (m.name ++ (mark m.optional ++ (b₁ ++ ':' :: (b₂ ++ (m.type ++ (b₃ ++ x :: tail)))))) =
      some (m, x :: tail) := by
  obtain ⟨word, last, hcut, hword, hlast, hclean, hmark⟩ := exists_head_of_name hname m.optional
  let o : Occurrence := ⟨word, last, b₁, b₂, m.type ++ b₃⟩
  have hfits : o.Fits (x :: tail) := ⟨hword, hlast, hb₁, hb₂, htype.typeBefore hb₃ hx tail⟩
  have hcolon : ¬ColonAhead (b₂ ++ (m.type ++ b₃ ++ x :: tail)) := by
    rw [List.append_assoc]
    exact htype.not_colonAhead hb₂ _
  have htext : m.name ++ (mark m.optional ++ (b₁ ++ ':' :: (b₂ ++ (m.type ++ (b₃ ++ x :: tail))))) =
      o.text ++ x :: tail := by
    rw [← List.append_assoc, hcut]
    simp [Occurrence.text, Occurrence.head, o]
  have hmember : o.member = m := by
    have htrim : Text.trim (m.type ++ b₃) = m.type :=
      Text.trim_append htype.isTrimmed htype.ne_nil hb₃.isSpace
    simp only [Occurrence.member, o, hclean, htrim, hmark]
  rw [htext, hfits.member? (.inr (.inr hcolon)), hmember]

/-- The line end behind the brace keeps the header of a type alias apart from its first member. -/
theorem memberList_header_append {name : Text} (hname : name.IsWord) (t : Text) :
    memberList ("export type ".toList ++ name ++ " = \x7b".toList ++ '\n' :: t) = memberList t := by
  have hlf : endsLine '\n' := by decide
  have hcolon : ':' ∉ name := hname.not_mem (by decide)
  have hheader : ':' ∉ "export type ".toList ++ name ++ " = \x7b".toList := by
    simp [hcolon]
  rw [memberList_append_lineEnd hlf, memberList_of_no_colon hheader, List.nil_append]

end FluentBuilder.Alias
