import FluentBuilder.Proofs.Alias.Scan

namespace FluentBuilder.Alias

open Unicode

def ColonAhead (t : Text) : Prop :=
  (t.dropWhile isBlank).head? = some ':'

instance (t : Text) : Decidable (ColonAhead t) :=
  inferInstanceAs (Decidable (_ = _))

theorem closeHead_colon {b : Text} (hb : b.IsBlank) (head rest : Text) :
    closeHead head (b ++ ':' :: rest) = [(head ++ b, rest)] := by
  rw [closeHead, Text.dropWhile_run hb (by decide), Text.takeWhile_run hb (by decide)]
  rfl

theorem closeHead_eq_nil {t : Text} (h : ¬ColonAhead t) (head : Text) : closeHead head t = [] := by
  unfold closeHead
  split
  · rename_i rest heq
    exact absurd (by rw [ColonAhead, heq, List.head?_cons]) h
  · rfl

theorem heads_cons {c : Char} (hc : isWord c = false) (rest : Text) :
    heads (c :: rest) = if isSpace c then [] else closeHead [c] rest := by
  simp [heads, hc]

theorem heads_word {w : Text} {c : Char} (hw : w.IsWord) (hc : isWord c = false) (rest : Text) :
    heads (w ++ c :: rest) =
      (if isSpace c then [] else closeHead (w ++ [c]) rest) ++ closeHead w (c :: rest) := by
  have hne : w.isEmpty = false := by simpa using hw.1
  simp only [heads, Text.takeWhile_run hw.2 hc, Text.dropWhile_run hw.2 hc, hne]
  rfl

theorem member?_of_heads_nil {t : Text} (h : heads t = []) : member? t = none := by
  rw [member?, h, List.findSome?_nil]

theorem memberList_nil : memberList [] = [] := by
  rw [memberList, dif_pos rfl]

theorem memberList_of_some {t rest : Text} {m : Member} (h : member? t = some (m, rest)) :
    memberList t = m :: memberList rest := by
  have ht : t ≠ [] := by
    rintro rfl
    exact absurd (length_lt_of_member? h) (Nat.not_lt_zero _)
  rw [memberList, dif_neg ht]
  split
  · rename_i heq
    rw [h] at heq
    cases heq
    rfl
  · rename_i heq
    rw [h] at heq
    cases heq

theorem memberList_of_none {t : Text} (h : member? t = none) :
    memberList t = memberList (skipWord t) := by
  by_cases ht : t = []
  · subst ht
    rfl
  · rw [memberList, dif_neg ht]
    split
    · rename_i heq
      rw [h] at heq
      cases heq
    · rfl

/-- The scan passes a character that begins no word and has no colon after it. -/
theorem memberList_cons {c : Char} {rest : Text} (hc : isWord c = false)
    (h : isSpace c ∨ ¬ColonAhead rest) : memberList (c :: rest) = memberList rest := by
  have hnone : member? (c :: rest) = none := by
    apply member?_of_heads_nil
    rw [heads_cons hc]
    split
    · rfl
    · exact closeHead_eq_nil (h.resolve_left (by assumption)) [c]
  rw [memberList_of_none hnone, skipWord, List.dropWhile_cons_of_neg (by simp [hc]), List.tail_cons]

theorem memberList_space_append {b : Text} (hb : b.IsSpace) (t : Text) :
    memberList (b ++ t) = memberList t := by
  induction b with
  | nil => rfl
  | cons c b ih =>
    have hc : isSpace c := hb c (by simp)
    rw [List.cons_append, memberList_cons (isWord_eq_false_of_isSpace hc) (.inl hc)]
    exact ih fun d hd => hb d (by simp [hd])

theorem colon_mem_of_mem_closeHead {head t : Text} {x : Text × Text} (h : x ∈ closeHead head t) :
    ':' ∈ t := by
  unfold closeHead at h
  split at h
  · rename_i rest heq
    exact (List.dropWhile_suffix isBlank).subset (heq ▸ by simp)
  · simp at h

theorem colon_mem_of_mem_heads {t : Text} {x : Text × Text} (h : x ∈ heads t) : ':' ∈ t := by
  apply (List.dropWhile_suffix isWord).subset
  simp only [heads, List.mem_append] at h
  rcases h with h | h
  · split at h
    · rename_i c more heq
      rw [heq]
      split at h
      · simp at h
      · exact List.mem_cons_of_mem c (colon_mem_of_mem_closeHead h)
    · simp at h
  · split at h
    · simp at h
    · exact colon_mem_of_mem_closeHead h

theorem memberList_of_no_colon {t : Text} (h : ':' ∉ t) : memberList t = [] := by
  -- Every head has its colon in the text, and what the scan goes on with is an end of the text.
  have hheads : ∀ s : Text, ':' ∉ s → heads s = [] := fun s hs =>
    List.eq_nil_iff_forall_not_mem.2 fun x hx => hs (colon_mem_of_mem_heads hx)
  fun_induction memberList t with
  | case1 => rfl
  | case2 t ht m rest heq ih =>
    rw [member?_of_heads_nil (hheads t h)] at heq
    cases heq
  | case3 t ht heq ih => exact ih fun hc => h ((skipWord_suffix t).subset hc)

theorem answers_members (t : Text) : Answers (memberList t) (members t) := by
  unfold members
  cases memberList t with
  | nil => cases propertyNames t <;> exact .inr ⟨rfl, _, rfl⟩
  | cons m rest => exact .inl ⟨List.cons_ne_nil m rest, rfl⟩

theorem isScan_memberList : IsScan member? skipWord memberList where
  nil := memberList_nil
  found := memberList_of_some
  skipped := memberList_of_none
  length_step_lt := length_lt_of_member?
  length_skip_lt := length_skipWord_lt

theorem closeHead_append_cons {x : Char} (hblank : isBlank x = false) (hcolon : x ≠ ':')
    (head s t : Text) :
    closeHead head (s ++ x :: t) =
      (closeHead head s).map fun found => (found.1, found.2 ++ x :: t) := by
  unfold closeHead
  rw [Text.dropWhile_append_cons hblank, Text.takeWhile_append_cons hblank]
  cases s.dropWhile isBlank with
  | nil => simp [hcolon]
  | cons c rest =>
    by_cases hc : c = ':'
    · subst hc
      rfl
    · simp [hc]

/-- No head that starts in front of `x` reaches behind it. -/
theorem heads_append_cons {x : Char} {t : Text} (hword : isWord x = false) (hblank : isBlank x = false)
    (hcolon : x ≠ ':') (hahead : isSpace x ∨ ¬ColonAhead t) (s : Text) :
    heads (s ++ x :: t) = (heads s).map fun found => (found.1, found.2 ++ x :: t) := by
  simp only [heads, Text.takeWhile_append_cons hword, Text.dropWhile_append_cons hword,
    List.map_append]
  congr 1
  -- The head that takes in one more character; at the end of `s` that would be `x`.
  · cases s.dropWhile isWord with
    | nil =>
      rw [List.nil_append]
      dsimp only
      split_ifs with hspace
      · rfl
      · exact closeHead_eq_nil (hahead.resolve_left hspace) _
    | cons c rest =>
      simp only [List.cons_append]
      split
      · rfl
      · exact closeHead_append_cons hblank hcolon _ rest t
  · split
    · rfl
    · exact closeHead_append_cons hblank hcolon _ _ t

section LineEnd

variable {x : Char} (hx : endsLine x)

include hx

theorem heads_append_lineEnd (s t : Text) :
    heads (s ++ x :: t) = (heads s).map fun found => (found.1, found.2 ++ x :: t) := by
  obtain ⟨hword, hblank, hspace, -, hcolon⟩ := class_of_endsLine hx
  exact heads_append_cons hword hblank hcolon (.inl hspace) s

theorem type?_append_lineEnd (s t : Text) :
    type? (s ++ x :: t) = (type? s).map fun found => (found.1, found.2 ++ x :: t) := by
  obtain ⟨-, hblank, hspace, htype, -⟩ := class_of_endsLine hx
  have hkeep : (!endsType x) = false := by rw [htype, Bool.not_true]
  simp only [type?, Text.dropWhile_append_cons hblank]
  cases s.dropWhile isBlank with
  | nil => simp [hspace]
  | cons c rest =>
    rw [List.cons_append]
    dsimp only
    rw [← List.cons_append, Text.takeWhile_append_cons hkeep, Text.dropWhile_append_cons hkeep]
    split <;> rfl

theorem member?_append_lineEnd (s t : Text) :
    member? (s ++ x :: t) = (member? s).map fun found => (found.1, found.2 ++ x :: t) := by
  simp only [member?, heads_append_lineEnd hx, List.findSome?_map, List.map_findSome?]
  congr 1
  funext found
  simp only [Function.comp_apply, type?_append_lineEnd hx, Option.map_map]
  rfl

end LineEnd

theorem stopsAtLineEnds_member? : StopsAtLineEnds member? skipWord where
  step?_append := member?_append_lineEnd
  skip_append := fun hx => skipWord_append_cons (class_of_endsLine hx).1

/-- No member crosses a line end, so what stands before it and after it is scanned on its own. -/
theorem memberList_append_lineEnd {x : Char} (hx : endsLine x) (s t : Text) :
    memberList (s ++ x :: t) = memberList s ++ memberList t :=
  isScan_memberList.append_lineEnd stopsAtLineEnds_member? hx s t

end FluentBuilder.Alias
