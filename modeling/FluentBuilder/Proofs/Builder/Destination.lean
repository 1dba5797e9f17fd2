import FluentBuilder.Builder.Destination
import FluentBuilder.Proofs.Files.Path

namespace FluentBuilder.Destination

variable {c : Char} {path suffix name : Text}

theorem cutAfterLast?_eq_none {t : Text} (h : c ∉ t) : cutAfterLast? c t = none := by
  induction t with
  | nil => rfl
  | cons d t ih =>
    have hd : d ≠ c := fun hd => h (by simp [hd])
    have ht : c ∉ t := fun ht => h (List.mem_cons_of_mem d ht)
    rw [cutAfterLast?, ih ht]
    exact if_neg hd

theorem cutAfterLast?_append {t : Text} (s : Text) (h : c ∉ t) :
    cutAfterLast? c (s ++ c :: t) = some (s ++ [c], t) := by
  induction s with
  | nil =>
    rw [List.nil_append, cutAfterLast?, cutAfterLast?_eq_none h]
    exact if_pos rfl
  | cons d s ih =>
    rw [List.cons_append, cutAfterLast?, ih]
    rfl

theorem exists_last_of_mem {t : Text} (h : c ∈ t) : ∃ s u, t = s ++ c :: u ∧ c ∉ u := by
  obtain ⟨s, u, ht, hs⟩ := List.eq_append_cons_of_mem (List.mem_reverse.mpr h)
  refine ⟨u.reverse, s.reverse, ?_, by simpa using hs⟩
  rw [← List.reverse_reverse t, ht]
  simp

theorem split_of_not_mem (h : '/' ∉ path) : split path = ([], path) := by
  rw [split, cutAfterLast?_eq_none h]
  rfl

theorem split_append (directory : Text) (h : '/' ∉ name) :
    split (directory ++ '/' :: name) = (directory ++ ['/'], name) := by
  rw [split, cutAfterLast?_append directory h]
  rfl

/-- A path is a file name alone, or one behind a directory. -/
theorem split_cases (path : Text) :
    ('/' ∉ path ∧ split path = ([], path)) ∨
      ∃ directory name, path = directory ++ '/' :: name ∧ '/' ∉ name ∧
        split path = (directory ++ ['/'], name) := by
  by_cases h : '/' ∈ path
  · obtain ⟨directory, name, rfl, hname⟩ := exists_last_of_mem h
    exact Or.inr ⟨directory, name, rfl, hname, split_append directory hname⟩
  · exact Or.inl ⟨h, split_of_not_mem h⟩

theorem slash_not_mem_split (path : Text) : '/' ∉ (split path).2 := by
  rcases split_cases path with ⟨hpath, hsplit⟩ | ⟨directory, name, rfl, hname, hsplit⟩
  · rw [hsplit]
    exact hpath
  · rw [hsplit]
    exact hname

theorem split_fst_append_snd (path : Text) : (split path).1 ++ (split path).2 = path := by
  rcases split_cases path with ⟨hpath, hsplit⟩ | ⟨directory, name, rfl, hname, hsplit⟩
  · rw [hsplit]
    rfl
  · rw [hsplit]
    simp

/-- Another file name in the same directory. -/
theorem split_replace (path : Text) (h : '/' ∉ name) :
    split ((split path).1 ++ name) = ((split path).1, name) := by
  rcases split_cases path with ⟨hpath, hsplit⟩ | ⟨directory, before, rfl, hbefore, hsplit⟩
  · rw [hsplit]
    exact split_of_not_mem h
  · rw [hsplit]
    have hjoined : directory ++ ['/'] ++ name = directory ++ '/' :: name := by simp
    rw [hjoined, split_append directory h]

theorem pieces_split (path : Text) : ∃ names, path.pieces '/' = names ++ [(split path).2] := by
  rcases split_cases path with ⟨hpath, hsplit⟩ | ⟨directory, name, rfl, hname, hsplit⟩
  · refine ⟨[], ?_⟩
    rw [hsplit, Text.pieces_of_not_mem hpath]
    rfl
  · refine ⟨Text.pieces '/' directory, ?_⟩
    rw [hsplit, Text.pieces_append_cons, Text.pieces_of_not_mem hname]

/-- A directory is the one of a path if a name alone follows it there. -/
def IsDirectoryOf (directory path : Text) : Prop :=
  (directory = [] ∨ ∃ above, directory = above ++ ['/']) ∧
    ∃ name, '/' ∉ name ∧ path = directory ++ name

theorem isDirectoryOf_iff {directory : Text} :
    IsDirectoryOf directory path ↔ directory = (split path).1 := by
  constructor
  · rintro ⟨rfl | ⟨above, rfl⟩, name, hname, rfl⟩
    · rw [split_of_not_mem hname]
    · rw [List.append_assoc, List.singleton_append, split_append above hname]
  · rintro rfl
    refine ⟨?_, (split path).2, slash_not_mem_split path, (split_fst_append_snd path).symm⟩
    rcases split_cases path with ⟨-, hsplit⟩ | ⟨above, name, -, -, hsplit⟩
    · exact Or.inl (by rw [hsplit])
    · exact Or.inr ⟨above, by rw [hsplit]⟩

theorem backslash_not_mem_normalize (path : Text) : '\\' ∉ normalize path := by
  intro h
  obtain ⟨c, -, hc⟩ := List.mem_map.mp h
  split_ifs at hc with hback
  · exact absurd hc (by decide)
  · exact hback hc

theorem normalize_of_not_mem {t : Text} (h : '\\' ∉ t) : normalize t = t := by
  have hfix : ∀ c ∈ t, (if c = '\\' then '/' else c) = c := by
    intro c hc
    have hne : c ≠ '\\' := fun heq => h (heq ▸ hc)
    exact if_neg hne
  rw [normalize, List.map_congr_left hfix]
  simp

theorem split_normalize_of_not_mem (h : '\\' ∉ (split path).2) :
    (split (normalize path)).2 = (split path).2 := by
  rcases split_cases path with ⟨hpath, hsplit⟩ | ⟨directory, name, rfl, hname, hsplit⟩
  · rw [hsplit] at h
    rw [normalize_of_not_mem h]
  · rw [hsplit] at h ⊢
    have hback : normalize name = name := normalize_of_not_mem h
    have hnormal : normalize (directory ++ '/' :: name) = normalize directory ++ '/' :: name := by
      nth_rewrite 2 [← hback]
      simp [normalize]
    rw [hnormal, split_append _ hname]

theorem length_nameWithSuffix (suffix name : Text) :
    (nameWithSuffix suffix name).length = name.length + suffix.length + 1 := by
  by_cases hdot : '.' ∈ name
  · obtain ⟨stem, extension, rfl, hextension⟩ := exists_last_of_mem hdot
    rw [nameWithSuffix, cutAfterLast?_append stem hextension]
    by_cases hstem : stem ++ ['.'] = ['.']
    · simp [hstem]
      omega
    · simp [hstem]
      omega
  · rw [nameWithSuffix, cutAfterLast?_eq_none hdot]
    simp
    omega

theorem mem_nameWithSuffix (h : c ∈ nameWithSuffix suffix name) : c ∈ name ∨ c ∈ suffix ∨ c = '.' := by
  by_cases hdot : '.' ∈ name
  · obtain ⟨stem, extension, rfl, hextension⟩ := exists_last_of_mem hdot
    rw [nameWithSuffix, cutAfterLast?_append stem hextension] at h
    simp only at h
    split_ifs at h <;> simp at h ⊢ <;> tauto
  · rw [nameWithSuffix, cutAfterLast?_eq_none hdot] at h
    simp at h
    tauto

theorem split_ofDocument (path : Text) (h : '/' ∉ suffix) :
    split (ofDocument path suffix) =
      ((split (normalize path)).1, nameWithSuffix suffix (split (normalize path)).2) := by
  have hname : '/' ∉ nameWithSuffix suffix (split (normalize path)).2 := by
    intro hmem
    rcases mem_nameWithSuffix hmem with hname | hsuffix | hdot
    · exact slash_not_mem_split _ hname
    · exact h hsuffix
    · exact absurd hdot (by decide)
  exact split_replace (normalize path) hname

theorem isDirectoryOf_ofDocument {directory : Text} (h : '/' ∉ suffix) :
    IsDirectoryOf directory (ofDocument path suffix) ↔ IsDirectoryOf directory (normalize path) := by
  rw [isDirectoryOf_iff, isDirectoryOf_iff, split_ofDocument path h]

/-- A builder file has another name than its document. -/
theorem split_ofDocument_ne (path : Text) (hslash : '/' ∉ suffix) (hback : '\\' ∉ suffix) :
    (split (ofDocument path suffix)).2 ≠ (split path).2 := by
  intro hsame
  rw [split_ofDocument path hslash] at hsame
  by_cases h : '\\' ∈ (split path).2
  · rw [← hsame] at h
    rcases mem_nameWithSuffix h with hname | hsuffix | hdot
    · have hnormal : '\\' ∈ normalize path := by
        rw [← split_fst_append_snd (normalize path)]
        exact List.mem_append_right _ hname
      exact backslash_not_mem_normalize path hnormal
    · exact hback hsuffix
    · exact absurd hdot (by decide)
  · have hlength := congrArg List.length hsame
    rw [length_nameWithSuffix, split_normalize_of_not_mem h] at hlength
    omega

theorem ofDocument_ne (path : Text) (hslash : '/' ∉ suffix) (hback : '\\' ∉ suffix) :
    ofDocument path suffix ≠ path := by
  intro h
  exact split_ofDocument_ne path hslash hback (by rw [h])

variable {path' name' : Text}

theorem append_cons_inj {s s' t t' : Text} (ht : c ∉ t) (ht' : c ∉ t')
    (h : s ++ c :: t = s' ++ c :: t') : s = s' ∧ t = t' := by
  have hcut := congrArg (cutAfterLast? c) h
  rw [cutAfterLast?_append s ht, cutAfterLast?_append s' ht', Option.some.injEq, Prod.mk.injEq] at hcut
  exact ⟨List.append_cancel_right hcut.1, hcut.2⟩

/-- A name has an extension if it has a dot behind its first character. -/
theorem nameWithSuffix_cases (suffix name : Text) :
    (∃ stem extension, stem ≠ [] ∧ '.' ∉ extension ∧ name = stem ++ '.' :: extension ∧
      nameWithSuffix suffix name = stem ++ '.' :: (suffix ++ '.' :: extension)) ∨
    (∀ stem extension, name = stem ++ '.' :: extension → stem = []) ∧
      nameWithSuffix suffix name = name ++ '.' :: suffix := by
  by_cases hdot : '.' ∈ name
  · obtain ⟨stem, extension, rfl, hextension⟩ := exists_last_of_mem hdot
    rw [nameWithSuffix, cutAfterLast?_append stem hextension]
    by_cases hstem : stem = []
    · subst hstem
      refine Or.inr ⟨?_, by simp⟩
      intro stem' extension' h
      cases stem' with
      | nil => rfl
      | cons d stem' =>
        obtain ⟨-, rfl⟩ := List.cons.inj h
        exact absurd (by simp) hextension
    · refine Or.inl ⟨stem, extension, hstem, hextension, rfl, ?_⟩
      have hne : stem ++ ['.'] ≠ ['.'] := by simpa using hstem
      simp [hne]
  · refine Or.inr ⟨?_, ?_⟩
    · rintro stem extension rfl
      exact absurd (by simp) hdot
    · rw [nameWithSuffix, cutAfterLast?_eq_none hdot]

-- Counting characters, the name on the right reaches beyond the first dot on the left.
theorem exists_extension_of_append {stem extension : Text}
    (h : stem ++ '.' :: (suffix ++ '.' :: extension) = name ++ '.' :: suffix) :
    ∃ rest, name = stem ++ '.' :: rest := by
  have hlength := congrArg List.length h
  simp only [List.length_append, List.length_cons] at hlength
  rcases List.append_eq_append_iff.mp h with ⟨rest, rfl, hrest⟩ | ⟨rest, rfl, -⟩
  · cases rest with
    | nil =>
      simp only [List.append_nil] at hlength
      omega
    | cons d rest =>
      obtain ⟨rfl, -⟩ := List.cons.inj hrest
      exact ⟨rest, rfl⟩
  · simp only [List.length_append] at hlength
    omega

theorem nameWithSuffix_inj (h : nameWithSuffix suffix name = nameWithSuffix suffix name') :
    name = name' := by
  rcases nameWithSuffix_cases suffix name with ⟨stem, extension, hstem, hextension, rfl, hname⟩ |
    ⟨hplain, hname⟩
  · rw [hname] at h
    rcases nameWithSuffix_cases suffix name' with ⟨stem', extension', -, hextension', rfl, hname'⟩ |
      ⟨hplain', hname'⟩
    · rw [hname'] at h
      simp only [← List.cons_append, ← List.append_assoc] at h
      obtain ⟨hstems, rfl⟩ := append_cons_inj hextension hextension' h
      rw [List.append_cancel_right hstems]
    · rw [hname'] at h
      obtain ⟨rest, hrest⟩ := exists_extension_of_append h
      exact absurd (hplain' _ _ hrest) hstem
  · rw [hname] at h
    rcases nameWithSuffix_cases suffix name' with ⟨stem', extension', hstem', -, rfl, hname'⟩ |
      ⟨-, hname'⟩
    · rw [hname'] at h
      obtain ⟨rest, hrest⟩ := exists_extension_of_append h.symm
      exact absurd (hplain _ _ hrest) hstem'
    · rw [hname'] at h
      exact List.append_cancel_right h

/-- Documents with one builder file are the same document, written with other separators. -/
theorem ofDocument_eq_ofDocument_iff (h : '/' ∉ suffix) :
    ofDocument path suffix = ofDocument path' suffix ↔ normalize path = normalize path' := by
  constructor
  · intro hsame
    have hsplit := congrArg split hsame
    rw [split_ofDocument path h, split_ofDocument path' h, Prod.mk.injEq] at hsplit
    obtain ⟨hdirectory, hname⟩ := hsplit
    rw [← split_fst_append_snd (normalize path), ← split_fst_append_snd (normalize path'),
      hdirectory, nameWithSuffix_inj hname]
  · intro hsame
    rw [ofDocument, ofDocument, hsame]

/-- A file name, and the same name with `.suffix` before its final extension or, if there is none, at its
end. A dot begins an extension if it stands behind the first character. -/
inductive Suffixed (suffix : Text) : Text → Text → Prop where
  | beforeExtension {stem extension : Text} (hstem : stem ≠ []) (hextension : '.' ∉ extension) :
      Suffixed suffix (stem ++ '.' :: extension) (stem ++ '.' :: (suffix ++ '.' :: extension))
  | atEnd {name : Text} (hname : '.' ∉ name.tail) : Suffixed suffix name (name ++ '.' :: suffix)

theorem suffixed_nameWithSuffix (suffix name : Text) :
    Suffixed suffix name (nameWithSuffix suffix name) := by
  rcases nameWithSuffix_cases suffix name with ⟨stem, extension, hstem, hextension, rfl, hname⟩ |
    ⟨hplain, hname⟩
  · rw [hname]
    exact .beforeExtension hstem hextension
  · rw [hname]
    refine .atEnd fun hdot => ?_
    cases name with
    | nil => cases hdot
    | cons d name =>
      obtain ⟨stem, extension, rfl⟩ := List.append_of_mem hdot
      exact absurd (hplain (d :: stem) extension rfl) (List.cons_ne_nil d stem)

/-- No two documents have the same builder file, unless their paths are written with other separators. The
builder file is never the document; it stands in the same directory, under the name with the suffix. -/
theorem ofDocument_collision_free (hslash : '/' ∉ suffix) (hback : '\\' ∉ suffix) :
    (∀ path path', ofDocument path suffix = ofDocument path' suffix ↔
      normalize path = normalize path') ∧
    ∀ path, ofDocument path suffix ≠ path ∧
      ∃ directory name name', normalize path = directory ++ name ∧
        IsDirectoryOf directory (normalize path) ∧ ofDocument path suffix = directory ++ name' ∧
        IsDirectoryOf directory (ofDocument path suffix) ∧ Suffixed suffix name name' := by
  refine ⟨fun path path' => ofDocument_eq_ofDocument_iff hslash, fun path =>
    ⟨ofDocument_ne path hslash hback, (split (normalize path)).1, (split (normalize path)).2,
      nameWithSuffix suffix (split (normalize path)).2, (split_fst_append_snd _).symm, ?_, rfl, ?_,
      suffixed_nameWithSuffix _ _⟩⟩
  · exact isDirectoryOf_iff.mpr rfl
  · exact (isDirectoryOf_ofDocument hslash).mpr (isDirectoryOf_iff.mpr rfl)

/-- Under a suffix that is itself a dot, where names that hold dots could meet. -/
theorem ofDocument_collision_free_dots :
    '/' ∉ ['.'] ∧ '\\' ∉ ['.'] ∧ ofDocument "a\\.ts".toList ['.'] = "a/.ts..".toList ∧
      ofDocument "a/.ts".toList ['.'] = "a/.ts..".toList ∧
      ofDocument "a/.ts.".toList ['.'] ≠ ofDocument "a\\.ts".toList ['.'] := by
  have hall := @ofDocument_collision_free ['.'] (by decide) (by decide)
  refine ⟨by decide, by decide, by decide, ?_, ?_⟩
  · exact (((hall.1 "a/.ts".toList "a\\.ts".toList).mpr (by decide)).trans (by decide))
  · exact fun h => absurd ((hall.1 _ _).mp h) (by decide)

end FluentBuilder.Destination
