import FluentBuilder.Proofs.Alias.Occurrence

namespace FluentBuilder

open Unicode

/-- The form of a member that a document declares. Behind the word characters, a name without a question
mark may end with any one character that is not white space. -/
structure Member.IsDeclarable (m : Member) : Prop where
  type_ne_nil : m.type ≠ []
  type_isTrimmed : m.type.IsTrimmed
  type_endsType : ∀ c ∈ m.type, Alias.endsType c = false
  name_isSpace : ∀ c ∈ m.name, isSpace c = false
  of_optional : m.optional = true → ∀ c ∈ m.name, isWord c
  of_required : m.optional = false →
    m.name ≠ [] ∧ m.name.getLast? ≠ some '?' ∧ ∀ c ∈ m.name.dropLast, isWord c

namespace Alias

variable {t : Text} {m : Member}

theorem Occurrence.Fits.isDeclarable {o : Occurrence} {rest : Text} (h : o.Fits rest) :
    o.member.IsDeclarable where
  type_ne_nil := by
    obtain ⟨c, more, htype, hc⟩ := h.type.starts
    exact Text.trim_ne_nil (htype ▸ List.mem_cons_self) hc
  type_isTrimmed := Text.isTrimmed_trim o.type
  type_endsType := fun c hc => h.type.inside c (Text.mem_of_mem_trim hc)
  name_isSpace := by
    have hword : ∀ c ∈ o.word, isSpace c = false := fun c hc => isSpace_eq_false_of_isWord (h.word c hc)
    unfold member
    dsimp only
    split_ifs with hmark
    · exact hword
    · exact List.forall_mem_append.mpr ⟨hword, List.forall_mem_singleton.mpr h.last⟩
  of_optional := by
    intro hoptional
    have hmark : o.last = '?' := of_decide_eq_true hoptional
    rw [member, if_pos hmark]
    exact h.word
  of_required := by
    intro hrequired
    have hmark : o.last ≠ '?' := of_decide_eq_false hrequired
    rw [member, if_neg hmark]
    exact ⟨by simp, by simpa using hmark, by simpa using h.word⟩

theorem isDeclarable_of_mem (h : m ∈ memberList t) : m.IsDeclarable := by
  fun_induction memberList t with
  | case1 => cases h
  | case2 t ht m' rest hfound ih =>
    rcases List.mem_cons.mp h with rfl | h
    · obtain ⟨o, ho, -, rfl⟩ := exists_of_member? hfound
      exact ho.fits.isDeclarable
    · exact ih h
  | case3 t ht hnone ih => exact ih h

/-- A member of this form can be written, with a blank in front of the colon so that the head cannot take
the colon in. -/
theorem exists_occurrence_of_isDeclarable (h : m.IsDeclarable) :
    ∃ o : Occurrence, o.Fits [] ∧ o.beforeColon ≠ [] ∧ o.member = m := by
  obtain ⟨name, type, optional⟩ := m
  have htype : TypeBefore [] type := by
    obtain ⟨c, more, rfl⟩ := List.exists_cons_of_ne_nil h.type_ne_nil
    exact ⟨⟨c, more, rfl, h.type_isTrimmed.1 c rfl⟩, h.type_endsType, nofun⟩
  have htrim : type.trim = type := Text.trim_eq_self h.type_isTrimmed
  have hblank : Text.IsBlank [' '] := by decide
  have hempty : Text.IsBlank [] := by decide
  cases optional with
  | true =>
    have hmark : isSpace '?' = false := by decide
    refine ⟨⟨name, '?', [' '], [], type⟩, ⟨h.of_optional rfl, hmark, hblank, hempty, htype⟩,
      List.cons_ne_nil _ _, ?_⟩
    simp [Occurrence.member, htrim]
  | false =>
    obtain ⟨hne, hmark, hword⟩ := h.of_required rfl
    rcases List.eq_nil_or_concat' name with rfl | ⟨w, c, rfl⟩
    · exact absurd rfl hne
    · have hc : c ≠ '?' := by simpa using hmark
      refine ⟨⟨w, c, [' '], [], type⟩,
        ⟨by simpa using hword, h.name_isSpace c (by simp), hblank, hempty, htype⟩,
        List.cons_ne_nil _ _, ?_⟩
      simp [Occurrence.member, htrim, hc]

/-- The members of documents are those of this form, and no others. -/
theorem exists_members_iff_isDeclarable (m : Member) :
    (∃ document ms, members document = .ok ms ∧ m ∈ ms) ↔ m.IsDeclarable := by
  constructor
  · rintro ⟨document, ms, hms, hm⟩
    obtain ⟨rfl, -⟩ := (answers_members document).eq_ok_iff.mp hms
    exact isDeclarable_of_mem hm
  · intro h
    obtain ⟨o, hfits, hblank, rfl⟩ := exists_occurrence_of_isDeclarable h
    have hlist : memberList (o.text ++ []) = [o.member] := by
      rw [memberList_of_some (hfits.member? (.inr (.inl hblank))), memberList_nil]
    exact ⟨o.text ++ [], [o.member],
      (answers_members _).eq_ok_iff.mpr ⟨hlist, List.cons_ne_nil _ _⟩, List.mem_cons_self⟩

/-- An optional name may be empty. -/
example : members "?: a".toList = .ok [{ name := [], type := "a".toList, optional := true }] := by
  decide +kernel

end Alias

end FluentBuilder
