import FluentBuilder.Proofs.Alias.Occurrence

namespace FluentBuilder.Alias

open Unicode

/-- No member starts inside of `gap`, with `behind` following it. -/
def NoneStartsIn (gap behind : Text) : Prop :=
  ∀ s, s <:+ gap → s ≠ [] → ¬Starts (s ++ behind)

inductive Cover where
  | last (gap : Text)
  | next (gap : Text) (o : Occurrence) (rest : Cover)

namespace Cover

def text : Cover → Text
  | last gap => gap
  | next gap o rest => gap ++ (o.text ++ rest.text)

def found : Cover → List Occurrence
  | last _ => []
  | next _ o rest => o :: rest.found

/-- Every member is taken as soon as one starts, and with the longest head that it can have there. -/
def IsLeftmost : Cover → Prop
  | last gap => NoneStartsIn gap []
  | next gap o rest =>
    NoneStartsIn gap (o.text ++ rest.text) ∧ o.IsLongest rest.text ∧ rest.IsLeftmost

def widen (s : Text) : Cover → Cover
  | last gap => last (s ++ gap)
  | next gap o rest => next (s ++ gap) o rest

theorem text_widen (s : Text) (c : Cover) : (c.widen s).text = s ++ c.text := by
  cases c with
  | last gap => rfl
  | next gap o rest => exact List.append_assoc s gap _

theorem found_widen (s : Text) (c : Cover) : (c.widen s).found = c.found := by
  cases c <;> rfl

end Cover

variable {gap gap' s t behind behind' : Text}

theorem NoneStartsIn.nil (behind : Text) : NoneStartsIn [] behind :=
  fun _ hs hne => absurd (List.suffix_nil.mp hs) hne

theorem NoneStartsIn.append (h : NoneStartsIn gap (gap' ++ behind))
    (h' : NoneStartsIn gap' behind) : NoneStartsIn (gap ++ gap') behind := by
  rintro s ⟨p, hp⟩ hne
  rcases List.append_eq_append_iff.mp hp with ⟨r, rfl, hr⟩ | ⟨r, rfl, rfl⟩
  · subst hr
    by_cases hnil : r = []
    · subst hnil
      exact h' gap' List.suffix_rfl hne
    · rw [List.append_assoc]
      exact h r (List.suffix_append p r) hnil
  · exact h' s (List.suffix_append r s) hne

theorem Cover.IsLeftmost.widen {c : Cover} (hc : c.IsLeftmost) (h : NoneStartsIn s c.text) :
    (c.widen s).IsLeftmost := by
  cases c with
  | last gap => exact NoneStartsIn.append (by simpa [Cover.text] using h) hc
  | next gap o rest =>
    obtain ⟨hgap, ho, hrest⟩ := hc
    exact ⟨NoneStartsIn.append h hgap, ho, hrest⟩

/-- A member that starts inside of a word starts at the start of the word as well. -/
theorem Starts.word_append {w : Text} (hw : ∀ c ∈ w, isWord c) (h : Starts t) : Starts (w ++ t) := by
  obtain ⟨o, rest, hfits, rfl⟩ := h
  refine ⟨{ o with word := w ++ o.word }, rest, { hfits with
    word := List.forall_mem_append.mpr ⟨hw, hfits.word⟩ }, ?_⟩
  simp [Occurrence.text, Occurrence.head]

/-- What the scan skips is a gap. -/
theorem exists_gap_of_not_starts (h : ¬Starts t) :
    ∃ gap, gap ++ skipWord t = t ∧ NoneStartsIn gap (skipWord t) := by
  obtain ⟨gap, hcut⟩ := skipWord_suffix t
  refine ⟨gap, hcut, ?_⟩
  rintro s ⟨p, hp⟩ hne hstarts
  have hs : s ++ skipWord t <:+ t := ⟨p, by rw [← List.append_assoc, hp, hcut]⟩
  rcases suffix_skipWord hs with hskip | ⟨w, hw, hcut⟩
  · have hlength := hskip.length_le
    have hpos := List.length_pos_iff.mpr hne
    rw [List.length_append] at hlength
    omega
  · have hstart := hstarts.word_append hw
    rw [hcut] at hstart
    exact h hstart

theorem exists_cover (t : Text) :
    ∃ c : Cover, c.text = t ∧ c.IsLeftmost ∧ c.found.map Occurrence.member = memberList t := by
  fun_induction memberList t with
  | case1 => exact ⟨.last [], rfl, NoneStartsIn.nil [], rfl⟩
  | case2 t ht m rest hfound ih =>
    obtain ⟨c, rfl, hc, hmembers⟩ := ih
    obtain ⟨o, ho, htext, hmember⟩ := exists_of_member? hfound
    refine ⟨.next [] o c, htext, ⟨NoneStartsIn.nil _, ho, hc⟩, ?_⟩
    rw [Cover.found, List.map_cons, hmember, hmembers]
  | case3 t ht hnone ih =>
    obtain ⟨c, htext, hc, hmembers⟩ := ih
    obtain ⟨gap, hcut, hgap⟩ := exists_gap_of_not_starts (member?_eq_none_iff.mp hnone)
    rw [← htext] at hcut hgap
    refine ⟨c.widen gap, ?_, hc.widen hgap, ?_⟩
    · rw [Cover.text_widen, hcut]
    · rw [Cover.found_widen, hmembers]

theorem Occurrence.IsLongest.unique {o o' : Occurrence} {rest rest' : Text}
    (h : o.IsLongest rest) (h' : o'.IsLongest rest') (htext : o.text ++ rest = o'.text ++ rest') :
    o = o' ∧ rest = rest' := by
  have hlength : o.head.length = o'.head.length :=
    le_antisymm (h'.longest o rest h.fits htext) (h.longest o' rest' h'.fits htext.symm)
  rw [o.text_append, o'.text_append] at htext
  obtain ⟨hhead, hcolon⟩ := List.append_inj htext hlength
  have hafter := (List.cons.inj hcolon).2
  -- What stands behind the colon decides on the type, and on what is left.
  have htype := h.fits.type?
  rw [hafter, h'.fits.type?, Option.some.injEq, Prod.mk.injEq] at htype
  rw [htype.1, htype.2] at hafter
  obtain ⟨hword, hlast, hbefore⟩ := Text.append_cons_blank_inj
    (isBlank_eq_false_of_isSpace_eq_false h.fits.last)
    (isBlank_eq_false_of_isSpace_eq_false h'.fits.last) h.fits.beforeColon h'.fits.beforeColon hhead
  exact ⟨Occurrence.ext hword hlast hbefore (List.append_cancel_right hafter) htype.1.symm,
    htype.2.symm⟩

theorem gap_unique (hgap : NoneStartsIn gap behind) (hgap' : NoneStartsIn gap' behind')
    (h : Starts behind) (h' : Starts behind') (htext : gap ++ behind = gap' ++ behind') :
    gap = gap' ∧ behind = behind' := by
  -- The member behind the shorter gap would start inside of the longer one.
  rcases List.append_eq_append_iff.mp htext with ⟨s, rfl, rfl⟩ | ⟨s, rfl, rfl⟩
  · by_cases hs : s = []
    · simp [hs]
    · exact absurd h (hgap' s (List.suffix_append gap s) hs)
  · by_cases hs : s = []
    · simp [hs]
    · exact absurd h' (hgap s (List.suffix_append gap' s) hs)

theorem Occurrence.IsLongest.starts {o : Occurrence} {rest : Text} (h : o.IsLongest rest) :
    Starts (o.text ++ rest) :=
  ⟨o, rest, h.fits, rfl⟩

/-- No member stands in a text that is all gap. -/
theorem NoneStartsIn.ne_append {o : Occurrence} {rest : Text} (hgap : NoneStartsIn t [])
    (h : Starts (o.text ++ rest)) : t ≠ gap ++ (o.text ++ rest) := by
  rintro rfl
  have hne : o.text ++ rest ≠ [] := by simp [Occurrence.text]
  refine hgap _ (List.suffix_append gap _) hne ?_
  rwa [List.append_nil]

theorem Cover.unique {c c' : Cover} (h : c.IsLeftmost) (h' : c'.IsLeftmost)
    (htext : c.text = c'.text) : c = c' := by
  induction c generalizing c' with
  | last gap =>
    cases c' with
    | last gap' => exact congrArg last htext
    | next gap' o' rest' => exact absurd htext (h.ne_append h'.2.1.starts)
  | next gap o rest ih =>
    obtain ⟨hgap, ho, hrest⟩ := h
    cases c' with
    | last gap' => exact absurd htext.symm (NoneStartsIn.ne_append h' ho.starts)
    | next gap' o' rest' =>
      obtain ⟨hgap', ho', hrest'⟩ := h'
      obtain ⟨rfl, hbehind⟩ := gap_unique hgap hgap' ho.starts ho'.starts htext
      obtain ⟨rfl, hleft⟩ := ho.unique ho' hbehind
      rw [ih hrest hrest' hleft]

/-- A document has members just if its only leftmost cover has some, and those are its members. -/
theorem members_eq_ok_iff_cover (document : Text) :
    (∃! c : Cover, c.text = document ∧ c.IsLeftmost) ∧
      ∀ ms, members document = .ok ms ↔ ∃ c : Cover, c.text = document ∧ c.IsLeftmost ∧
        c.found ≠ [] ∧ ms = c.found.map Occurrence.member := by
  obtain ⟨c, htext, hc, hmembers⟩ := exists_cover document
  have hunique : ∀ c' : Cover, c'.text = document → c'.IsLeftmost → c' = c :=
    fun c' htext' hc' => Cover.unique hc' hc (htext'.trans htext.symm)
  refine ⟨⟨c, ⟨htext, hc⟩, fun c' h => hunique c' h.1 h.2⟩, fun ms => ?_⟩
  rw [(answers_members document).eq_ok_iff, ← hmembers]
  constructor
  · rintro ⟨rfl, hne⟩
    exact ⟨c, htext, hc, fun hnil => hne (by rw [hnil, List.map_nil]), rfl⟩
  · rintro ⟨c', htext', hc', hfound, rfl⟩
    rw [hunique c' htext' hc'] at hfound ⊢
    exact ⟨rfl, fun hnil => hfound (List.map_eq_nil_iff.mp hnil)⟩

/-- Of the two heads before a double colon, the scan takes the longer. -/
example : members "a::b".toList = .ok [{ name := "a:".toList, type := "b".toList }] := by
  decide +kernel

end FluentBuilder.Alias
