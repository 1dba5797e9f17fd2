import FluentBuilder.Proofs.Alias.MemberScan

namespace FluentBuilder.Alias

open Unicode

/-- The type that stands in front of a text: it starts with no white space and ends with the text, or
where something ends it. -/
structure TypeBefore (rest type : Text) : Prop where
  starts : ∃ c more, type = c :: more ∧ isSpace c = false
  inside : ∀ c ∈ type, endsType c = false
  stops : ∀ c, rest.head? = some c → endsType c

@[ext]
structure Occurrence where
  word : Text
  last : Char
  beforeColon : Text
  afterColon : Text
  type : Text

namespace Occurrence

def head (o : Occurrence) : Text :=
  o.word ++ o.last :: o.beforeColon

def text (o : Occurrence) : Text :=
  o.head ++ ':' :: (o.afterColon ++ o.type)

def member (o : Occurrence) : Member where
  name := if o.last = '?' then o.word else o.word ++ [o.last]
  type := o.type.trim
  optional := o.last = '?'

/-- The parts are what their names say, for a member with `rest` behind it. -/
structure Fits (o : Occurrence) (rest : Text) : Prop where
  word : ∀ c ∈ o.word, isWord c
  last : isSpace o.last = false
  beforeColon : o.beforeColon.IsBlank
  afterColon : o.afterColon.IsBlank
  type : TypeBefore rest o.type

/-- No member that starts at the same place has a longer head. -/
structure IsLongest (o : Occurrence) (rest : Text) : Prop where
  fits : o.Fits rest
  longest : ∀ o' : Occurrence, ∀ rest', o'.Fits rest' → o'.text ++ rest' = o.text ++ rest →
    o'.head.length ≤ o.head.length

end Occurrence

def Starts (t : Text) : Prop :=
  ∃ o : Occurrence, ∃ rest, o.Fits rest ∧ o.text ++ rest = t

theorem mem_closeHead_iff {head t : Text} {x : Text × Text} :
    x ∈ closeHead head t ↔ ∃ b, Text.IsBlank b ∧ x.1 = head ++ b ∧ t = b ++ ':' :: x.2 := by
  constructor
  · intro h
    unfold closeHead at h
    split at h
    · rename_i rest heq
      rw [List.mem_singleton.mp h]
      refine ⟨t.takeWhile isBlank, fun c hc => List.mem_takeWhile_imp hc, rfl, ?_⟩
      rw [← heq, List.takeWhile_append_dropWhile]
    · cases h
  · rintro ⟨b, hb, hhead, rfl⟩
    rw [closeHead_colon hb, List.mem_singleton, ← hhead]

theorem exists_of_mem_heads {t : Text} {x : Text × Text} (h : x ∈ heads t) :
    ∃ (w : Text) (c : Char) (b : Text), (∀ d ∈ w, isWord d) ∧ isSpace c = false ∧ b.IsBlank ∧
      x.1 = w ++ c :: b ∧ t = x.1 ++ ':' :: x.2 := by
  have hall : ∀ d ∈ t.takeWhile isWord, isWord d := fun d hd => List.mem_takeWhile_imp hd
  have hcut : t.takeWhile isWord ++ t.dropWhile isWord = t := List.takeWhile_append_dropWhile
  simp only [heads, List.mem_append] at h
  generalize t.takeWhile isWord = word at hall hcut h
  generalize t.dropWhile isWord = rest at hcut h
  rcases h with hextended | hplain
  · split at hextended
    · rename_i c more
      split_ifs at hextended with hspace
      · cases hextended
      · obtain ⟨b, hb, hhead, rfl⟩ := mem_closeHead_iff.mp hextended
        exact ⟨word, c, b, hall, Bool.eq_false_iff.mpr hspace, hb, by simp [hhead],
          by simp [hhead, ← hcut]⟩
    · cases hextended
  · split_ifs at hplain with hempty
    · cases hplain
    · obtain ⟨b, hb, hhead, rfl⟩ := mem_closeHead_iff.mp hplain
      -- The run alone: its last character is the one more.
      rcases List.eq_nil_or_concat' word with rfl | ⟨w, c, rfl⟩
      · exact absurd rfl hempty
      · have hc : isWord c := hall c (by simp)
        exact ⟨w, c, b, fun d hd => hall d (by simp [hd]), isSpace_eq_false_of_isWord hc, hb,
          by simp [hhead], by simp [hhead, ← hcut]⟩

/-- A head stands among the heads of its text. Only one that can take in a colon behind it may stand in
front of it. -/
theorem exists_heads_eq {w b : Text} {c : Char} (hw : ∀ d ∈ w, isWord d) (hc : isSpace c = false)
    (hb : b.IsBlank) (rest : Text) :
    ∃ before behind, heads (w ++ c :: (b ++ ':' :: rest)) = before ++ (w ++ c :: b, rest) :: behind ∧
      (isWord c = false ∨ b ≠ [] ∨ ¬ColonAhead rest → before = []) := by
  by_cases hword : isWord c
  · have hrun : Text.IsWord (w ++ [c]) :=
      ⟨by simp, List.forall_mem_append.mpr ⟨hw, List.forall_mem_singleton.mpr hword⟩⟩
    -- The run ends behind `c`, at a blank or at the colon.
    obtain ⟨d, more, hmore, hd, hstop⟩ : ∃ d more, b ++ ':' :: rest = d :: more ∧ isWord d = false ∧
        (b ≠ [] ∨ ¬ColonAhead rest → isSpace d ∨ ¬ColonAhead more) := by
      cases b with
      | nil => exact ⟨':', rest, rfl, by decide, fun h => .inr (h.resolve_left (not_not_intro rfl))⟩
      | cons d b =>
        have hblank : isBlank d := hb d List.mem_cons_self
        exact ⟨d, _, rfl, isWord_eq_false_of_isBlank hblank, fun _ => .inl (isSpace_of_isBlank hblank)⟩
    refine ⟨if isSpace d then [] else closeHead (w ++ [c] ++ [d]) more, [], ?_, fun h => ?_⟩
    · rw [List.append_cons, hmore, heads_word hrun hd, ← hmore, closeHead_colon hb]
      simp
    · split_ifs with hspace
      · rfl
      · have htaken : b ≠ [] ∨ ¬ColonAhead rest := by simpa [hword] using h
        exact closeHead_eq_nil ((hstop htaken).resolve_left hspace) _
  · have hstop : isWord c = false := Bool.eq_false_iff.mpr hword
    refine ⟨[], if w.isEmpty then [] else closeHead w (c :: (b ++ ':' :: rest)), ?_, fun _ => rfl⟩
    simp only [heads, Text.takeWhile_run hw hstop, Text.dropWhile_run hw hstop, hc,
      closeHead_colon hb]
    simp

theorem mem_heads {w b : Text} {c : Char} (hw : ∀ d ∈ w, isWord d) (hc : isSpace c = false)
    (hb : b.IsBlank) (rest : Text) :
    (w ++ c :: b, rest) ∈ heads (w ++ c :: (b ++ ':' :: rest)) := by
  obtain ⟨before, behind, hheads, -⟩ := exists_heads_eq hw hc hb rest
  rw [hheads]
  exact List.mem_append_cons_self

theorem closeHead_pairwise (head t : Text) :
    (closeHead head t).Pairwise fun x y => y.1.length < x.1.length := by
  unfold closeHead
  split
  · exact List.pairwise_singleton _ _
  · exact List.Pairwise.nil

theorem length_head_lt {w more : Text} {c : Char} {x y : Text × Text} (hc : isSpace c = false)
    (hx : x ∈ closeHead (w ++ [c]) more) (hy : y ∈ closeHead w (c :: more)) :
    y.1.length < x.1.length := by
  obtain ⟨b, -, hlong, -⟩ := mem_closeHead_iff.mp hx
  obtain ⟨b', hb', hshort, hcut⟩ := mem_closeHead_iff.mp hy
  have hnil : b' = [] := by
    cases b' with
    | nil => rfl
    | cons d b' =>
      have hblank : isBlank c := (List.cons.inj hcut).1 ▸ hb' d List.mem_cons_self
      rw [isBlank_eq_false_of_isSpace_eq_false hc] at hblank
      cases hblank
  simp only [hlong, hshort, hnil, List.length_append, List.length_cons, List.length_nil]
  omega

/-- Of two heads, the first is the longer. -/
theorem heads_pairwise (t : Text) : (heads t).Pairwise fun x y => y.1.length < x.1.length := by
  simp only [heads]
  generalize t.takeWhile isWord = word
  generalize t.dropWhile isWord = rest
  refine List.pairwise_append.mpr ⟨?_, ?_, ?_⟩
  · split
    · split_ifs
      · exact List.Pairwise.nil
      · exact closeHead_pairwise _ _
    · exact List.Pairwise.nil
  · split_ifs
    · exact List.Pairwise.nil
    · exact closeHead_pairwise _ _
  · intro x hx y hy
    split at hx
    · split_ifs at hx with hspace
      · cases hx
      · split_ifs at hy
        · cases hy
        · exact length_head_lt (Bool.eq_false_iff.mpr hspace) hx hy
    · cases hx

theorem length_head_le {t : Text} {x y : Text × Text} {before behind : List (Text × Text)}
    (hheads : heads t = before ++ x :: behind) (hy : y ∈ x :: behind) : y.1.length ≤ x.1.length := by
  have hpairwise := heads_pairwise t
  rw [hheads] at hpairwise
  rcases List.mem_cons.mp hy with rfl | hy
  · exact le_rfl
  · exact ((List.pairwise_cons.mp (List.pairwise_append.mp hpairwise).2.1).1 y hy).le

theorem type?_eq_some_iff {t type rest : Text} :
    type? t = some (type, rest) ↔
      ∃ b, Text.IsBlank b ∧ TypeBefore rest type ∧ b ++ (type ++ rest) = t := by
  constructor
  · intro h
    have hblank : Text.IsBlank (t.takeWhile isBlank) := fun c hc => List.mem_takeWhile_imp hc
    have hcut : t.takeWhile isBlank ++ t.dropWhile isBlank = t := List.takeWhile_append_dropWhile
    simp only [type?] at h
    split at h
    · cases h
    · rename_i c more heq
      split_ifs at h with hc
      simp only [Option.some.injEq, Prod.mk.injEq] at h
      obtain ⟨rfl, rfl⟩ := h
      simp only [Bool.or_eq_true, not_or, Bool.not_eq_true] at hc
      refine ⟨t.takeWhile isBlank, hblank, ⟨⟨c, more.takeWhile (!endsType ·), ?_, hc.1⟩, ?_, ?_⟩, ?_⟩
      · rw [heq, List.takeWhile_cons_of_pos (by simp [hc.2])]
      · intro d hd
        simpa using List.mem_takeWhile_imp hd
      · intro d hd
        simpa using Text.eq_false_of_head?_dropWhile hd
      · rw [List.takeWhile_append_dropWhile, hcut]
  · rintro ⟨b, hb, ⟨⟨c, more, rfl, hc⟩, hinside, hstop⟩, rfl⟩
    -- the scan takes all of the type, and stops where the rest begins
    have hkeep : ∀ d ∈ c :: more, (!endsType d) = true := by
      intro d hd
      rw [hinside d hd, Bool.not_false]
    have hrest : ∀ d, rest.head? = some d → (!endsType d) = false := by
      intro d hd
      rw [hstop d hd, Bool.not_true]
    have htake : (c :: (more ++ rest)).takeWhile (!endsType ·) = c :: more :=
      Text.takeWhile_append_of_stop hkeep hrest
    have hdrop : (c :: (more ++ rest)).dropWhile (!endsType ·) = rest :=
      Text.dropWhile_append_of_stop hkeep hrest
    rw [type?, List.cons_append, Text.dropWhile_run hb (isBlank_eq_false_of_isSpace_eq_false hc)]
    simp only [hc, hinside c List.mem_cons_self, htake, hdrop]
    simp

theorem isTrimmed_word_append {w : Text} {c : Char} (hw : ∀ d ∈ w, isWord d)
    (hc : isSpace c = false) : Text.IsTrimmed (w ++ [c]) := by
  have hall : ∀ d ∈ w ++ [c], isSpace d = false :=
    List.forall_mem_append.mpr
      ⟨fun d hd => isSpace_eq_false_of_isWord (hw d hd), List.forall_mem_singleton.mpr hc⟩
  exact ⟨fun d hd => hall d (List.mem_of_head? hd), fun d hd => hall d (List.mem_of_getLast? hd)⟩

/-- The name in a head is all of it but the blanks and a question mark in front of them. -/
theorem cleanHead_append {w b : Text} {c : Char} (hw : ∀ d ∈ w, isWord d) (hc : isSpace c = false)
    (hb : b.IsBlank) :
    cleanHead (w ++ c :: b) = if c = '?' then (w, true) else (w ++ [c], false) := by
  have htrim : Text.trim (w ++ c :: b) = w ++ [c] := by
    rw [List.append_cons]
    exact Text.trim_append (isTrimmed_word_append hw hc) (by simp) hb.isSpace
  have hword : Text.trimEnd w = w :=
    Text.trimEnd_of_getLast? fun d hd => isSpace_eq_false_of_isWord (hw d (List.mem_of_getLast? hd))
  simp only [cleanHead, htrim, List.getLast?_concat, List.dropLast_concat, Option.some.injEq, hword]

namespace Occurrence

theorem text_append (o : Occurrence) (rest : Text) :
    o.text ++ rest = o.head ++ ':' :: (o.afterColon ++ (o.type ++ rest)) := by
  simp [text]

theorem Fits.mem_heads {o : Occurrence} {rest : Text} (h : o.Fits rest) :
    (o.head, o.afterColon ++ (o.type ++ rest)) ∈ heads (o.text ++ rest) := by
  have hhead := Alias.mem_heads h.word h.last h.beforeColon (o.afterColon ++ (o.type ++ rest))
  rw [text_append, head, List.append_assoc]
  exact hhead

theorem Fits.type? {o : Occurrence} {rest : Text} (h : o.Fits rest) :
    Alias.type? (o.afterColon ++ (o.type ++ rest)) = some (o.type, rest) :=
  type?_eq_some_iff.mpr ⟨o.afterColon, h.afterColon, h.type, rfl⟩

theorem Fits.cleanHead {o : Occurrence} {rest : Text} (h : o.Fits rest) :
    Alias.cleanHead o.head = (o.member.name, o.member.optional) := by
  rw [head, cleanHead_append h.word h.last h.beforeColon, member]
  split_ifs with hmark <;> simp [hmark]

end Occurrence

/-- A head and a type behind its colon make a member. -/
theorem exists_occurrence {t head after type rest : Text} (hhead : (head, after) ∈ heads t)
    (htype : type? after = some (type, rest)) :
    ∃ o : Occurrence, o.Fits rest ∧ o.text ++ rest = t ∧ o.head = head ∧ o.type = type := by
  obtain ⟨w, c, b, hw, hc, hb, rfl, rfl⟩ := exists_of_mem_heads hhead
  obtain ⟨b', hb', hbefore, rfl⟩ := type?_eq_some_iff.mp htype
  refine ⟨⟨w, c, b, b', type⟩, ⟨hw, hc, hb, hb', hbefore⟩, ?_, rfl, rfl⟩
  rw [Occurrence.text_append]
  rfl

theorem member?_eq (t : Text) :
    member? t = (heads t).findSome? fun x => (type? x.2).map fun y =>
      ({ name := (cleanHead x.1).1, type := y.1.trim, optional := (cleanHead x.1).2 }, y.2) := rfl

theorem member?_eq_some_of_heads {t head after type rest : Text} {more : List (Text × Text)}
    (hheads : heads t = (head, after) :: more) (htype : type? after = some (type, rest)) :
    member? t = some
      ({ name := (cleanHead head).1, type := type.trim, optional := (cleanHead head).2 }, rest) := by
  rw [member?_eq, hheads, List.findSome?_cons, htype]
  rfl

/-- A member is found whole where its head cannot take in a colon behind it. -/
theorem Occurrence.Fits.member? {o : Occurrence} {rest : Text} (h : o.Fits rest)
    (hfirst : isWord o.last = false ∨ o.beforeColon ≠ [] ∨
      ¬ColonAhead (o.afterColon ++ (o.type ++ rest))) :
    Alias.member? (o.text ++ rest) = some (o.member, rest) := by
  obtain ⟨before, behind, hheads, hbefore⟩ :=
    exists_heads_eq h.word h.last h.beforeColon (o.afterColon ++ (o.type ++ rest))
  have htext : o.text ++ rest =
      o.word ++ o.last :: (o.beforeColon ++ ':' :: (o.afterColon ++ (o.type ++ rest))) := by
    simp [text_append, head]
  rw [hbefore hfirst, List.nil_append, ← head] at hheads
  rw [htext, member?_eq_some_of_heads hheads h.type?, h.cleanHead]
  rfl

theorem member?_eq_none_iff {t : Text} : member? t = none ↔ ¬Starts t := by
  rw [member?_eq, List.findSome?_eq_none_iff]
  constructor
  · rintro hnone ⟨o, rest, hfits, rfl⟩
    have htype := Option.map_eq_none_iff.mp (hnone _ hfits.mem_heads)
    rw [hfits.type?] at htype
    cases htype
  · intro hstarts x hx
    rw [Option.map_eq_none_iff]
    by_contra htype
    obtain ⟨y, htype⟩ := Option.ne_none_iff_exists'.mp htype
    obtain ⟨o, hfits, htext, -⟩ := exists_occurrence hx htype
    exact hstarts ⟨o, y.2, hfits, htext⟩

theorem exists_of_member? {t rest : Text} {m : Member} (h : member? t = some (m, rest)) :
    ∃ o : Occurrence, o.IsLongest rest ∧ o.text ++ rest = t ∧ o.member = m := by
  rw [member?_eq] at h
  obtain ⟨before, x, behind, hheads, hfound, hbefore⟩ := List.findSome?_eq_some_iff.mp h
  obtain ⟨y, htype, hmember⟩ := Option.map_eq_some_iff.mp hfound
  obtain ⟨rfl, rfl⟩ := Prod.mk.inj hmember
  have hx : x ∈ heads t := by
    rw [hheads]
    exact List.mem_append_cons_self
  obtain ⟨o, hfits, htext, hhead, htypes⟩ := exists_occurrence hx htype
  refine ⟨o, ⟨hfits, ?_⟩, htext, ?_⟩
  · intro o' rest' hfits' htext'
    have hmem := hfits'.mem_heads
    rw [htext', htext, hheads] at hmem
    -- A head in front of this one has no type behind it, and those behind it are shorter.
    rcases List.mem_append.mp hmem with hmem | hmem
    · have hnone := Option.map_eq_none_iff.mp (hbefore _ hmem)
      rw [hfits'.type?] at hnone
      cases hnone
    · rw [hhead]
      exact length_head_le hheads hmem
  · rw [← hhead, hfits.cleanHead, ← htypes]
    rfl

end FluentBuilder.Alias
