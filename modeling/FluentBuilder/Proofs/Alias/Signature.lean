import FluentBuilder.Alias.Method
import FluentBuilder.Proofs.Text.Runs
import Mathlib.Data.List.Infix

namespace FluentBuilder.Alias

open Unicode

/-- Type parameters with white space behind them, or nothing at all. -/
inductive IsTypeParameters : Text → Prop where
  | absent : IsTypeParameters []
  | list {a s : Text} (ha : '>' ∉ a) (hs : s.IsSpace) : IsTypeParameters ('<' :: (a ++ '>' :: s))

structure Continuation where
  mark : Text
  gap : Text
  typeParameters : Text
  parameters : Text
  space : Text
  mark_eq : mark = [] ∨ mark = ['?']
  gap_isSpace : gap.IsSpace
  typeParameters_isTypeParameters : IsTypeParameters typeParameters
  parameters_flat : ')' ∉ parameters
  space_isSpace : space.IsSpace

def Continuation.text (k : Continuation) : Text :=
  k.mark ++ (k.gap ++ (k.typeParameters ++ '(' :: (k.parameters ++ ')' :: (k.space ++ [':']))))

structure Signature extends Continuation where
  word : Text
  word_isWord : word.IsWord

def Signature.text (g : Signature) : Text :=
  g.word ++ g.toContinuation.text

theorem after?_append {stop : Char} {a : Text} (ha : stop ∉ a) (rest : Text) :
    after? stop (a ++ stop :: rest) = some rest := by
  have hne : ∀ c ∈ a, (c != stop) = true := by
    intro c hc
    simpa using fun h : c = stop => ha (h ▸ hc)
  rw [after?, Text.dropWhile_run hne (by simp)]

theorem eq_append_of_after? {stop : Char} {t rest : Text} (h : after? stop t = some rest) :
    ∃ a, stop ∉ a ∧ t = a ++ stop :: rest := by
  unfold after? at h
  split at h
  · rename_i c more heq
    cases h
    have hstop : c = stop := by
      simpa using Text.eq_false_of_head?_dropWhile (congrArg List.head? heq)
    refine ⟨t.takeWhile (· != stop), ?_, ?_⟩
    · intro hmem
      simpa using List.mem_takeWhile_imp hmem
    · rw [← hstop, ← heq, hstop, List.takeWhile_append_dropWhile]
  · cases h

theorem exists_space_append (t : Text) : ∃ s : Text, s.IsSpace ∧ t = s ++ t.trimStart :=
  ⟨t.takeWhile isSpace, fun _ hc => List.mem_takeWhile_imp hc,
    List.takeWhile_append_dropWhile.symm⟩

theorem startsParameters_iff {t : Text} :
    startsParameters t ↔
      ∃ p s v : Text, ')' ∉ p ∧ s.IsSpace ∧ t = '(' :: (p ++ ')' :: (s ++ ':' :: v)) := by
  constructor
  · intro h
    unfold startsParameters at h
    split at h
    · rename_i rest
      obtain ⟨after, hafter, hcolon⟩ := (Option.any_eq_true _ _).1 h
      obtain ⟨more, hmore, rfl⟩ := Option.map_eq_some_iff.1 hafter
      obtain ⟨p, hp, rfl⟩ := eq_append_of_after? hmore
      obtain ⟨s, hs, hsplit⟩ := exists_space_append more
      obtain ⟨v, hv⟩ := List.head?_eq_some_iff.1 (by simpa using hcolon)
      exact ⟨p, s, v, hp, hs, by rw [hsplit, hv]⟩
    · cases h
  · rintro ⟨p, s, v, hp, hs, rfl⟩
    rw [startsParameters, after?_append hp, Option.map_some, Text.trimStart,
      Text.dropWhile_run hs (by decide)]
    rfl

theorem parametersFollow_iff {t : Text} :
    (dropTypeParameters? t).any startsParameters ↔
      ∃ g r : Text, IsTypeParameters g ∧ startsParameters r ∧ t = g ++ r := by
  constructor
  · intro h
    obtain ⟨r, hr, hstarts⟩ := (Option.any_eq_true _ _).1 h
    unfold dropTypeParameters? at hr
    split at hr
    · rename_i rest
      obtain ⟨more, hmore, rfl⟩ := Option.map_eq_some_iff.1 hr
      obtain ⟨a, ha, rfl⟩ := eq_append_of_after? hmore
      obtain ⟨s, hs, hsplit⟩ := exists_space_append more
      refine ⟨_, _, .list ha hs, hstarts, ?_⟩
      rw [List.cons_append, List.append_assoc, List.cons_append, ← hsplit]
    · cases hr
      exact ⟨[], t, .absent, hstarts, rfl⟩
  · rintro ⟨g, r, hg, hr, rfl⟩
    -- what follows starts with a parenthesis, so trimming takes away no more than the white space
    obtain ⟨p, s, v, -, -, heq⟩ := startsParameters_iff.1 hr
    cases hg with
    | absent =>
      rw [heq] at hr ⊢
      exact hr
    | @list a b ha hb =>
      have htrim : Text.trimStart (b ++ r) = r := by
        rw [heq, Text.trimStart, Text.dropWhile_run hb (by decide)]
      rw [List.cons_append, List.append_assoc, List.cons_append, dropTypeParameters?,
        after?_append ha, Option.map_some, htrim]
      exact hr

/-- What stands behind the white space is no white space and no question mark. -/
theorem exists_cons_of_typeParameters {g r : Text} (hg : IsTypeParameters g)
    (hr : startsParameters r) :
    ∃ c t, g ++ r = c :: t ∧ isSpace c = false ∧ c ≠ '?' := by
  cases hg with
  | absent =>
    obtain ⟨p, s, v, -, -, rfl⟩ := startsParameters_iff.1 hr
    exact ⟨'(', _, rfl, by decide, by decide⟩
  | list ha hs => exact ⟨'<', _, rfl, by decide, by decide⟩

theorem dropMark_space_append {s t : Text} {c : Char} (hs : s.IsSpace) (hc : c ≠ '?') :
    dropMark (s ++ c :: t) = s ++ c :: t := by
  cases s with
  | nil =>
    unfold dropMark
    split
    · rename_i heq
      exact absurd (List.cons.inj heq).1 hc
    · rfl
  | cons d s =>
    unfold dropMark
    split
    · rename_i heq
      have hd := hs d (by simp)
      rw [(List.cons.inj heq).1] at hd
      exact absurd hd (by decide)
    · rfl

theorem continuesMethod_iff {t : Text} :
    continuesMethod t ↔ ∃ k : Continuation, k.text <+: t := by
  constructor
  · intro h
    obtain ⟨gap, hgap, hsplit⟩ := exists_space_append (dropMark t)
    obtain ⟨typeParameters, r, htp, hr, heq⟩ := parametersFollow_iff.1 h
    obtain ⟨parameters, space, v, hflat, hspace, rfl⟩ := startsParameters_iff.1 hr
    obtain ⟨mark, hmark, ht⟩ : ∃ mark, (mark = [] ∨ mark = ['?']) ∧ t = mark ++ dropMark t := by
      unfold dropMark
      split
      · exact ⟨['?'], .inr rfl, rfl⟩
      · exact ⟨[], .inl rfl, rfl⟩
    refine ⟨⟨mark, gap, typeParameters, parameters, space, hmark, hgap, htp, hflat, hspace⟩, v, ?_⟩
    rw [ht, hsplit, heq]
    simp [Continuation.text]
  · rintro ⟨k, v, rfl⟩
    have hr : startsParameters ('(' :: (k.parameters ++ ')' :: (k.space ++ ':' :: v))) :=
      startsParameters_iff.2 ⟨_, _, v, k.parameters_flat, k.space_isSpace, rfl⟩
    obtain ⟨c, t, ht, hspace, hne⟩ :=
      exists_cons_of_typeParameters k.typeParameters_isTypeParameters hr
    have hshape : k.text ++ v = k.mark ++ (k.gap ++ c :: t) := by
      rw [← ht]
      simp [Continuation.text]
    -- Without a mark nothing is dropped, since what follows is no question mark.
    have hdrop : dropMark (k.mark ++ (k.gap ++ c :: t)) = k.gap ++ c :: t := by
      rcases k.mark_eq with hmark | hmark
      · rw [hmark]
        exact dropMark_space_append k.gap_isSpace hne
      · rw [hmark]
        rfl
    rw [hshape, continuesMethod, hdrop, Text.trimStart, Text.dropWhile_run k.gap_isSpace hspace]
    exact parametersFollow_iff.2 ⟨_, _, k.typeParameters_isTypeParameters, hr, ht.symm⟩

theorem hasMethod_iff_exists {t : Text} :
    hasMethod t ↔ ∃ u c rest, t = u ++ c :: rest ∧ isWord c ∧ continuesMethod rest := by
  -- on the text: a method starts at the first character, or it stands in what is left
  induction t with
  | nil => simp [hasMethod]
  | cons c t ih =>
    rw [hasMethod]
    constructor
    · intro h
      split at h
      · rename_i hc
        rw [Bool.and_eq_true] at hc
        exact ⟨[], c, t, rfl, hc⟩
      · obtain ⟨u, d, rest, rfl, hd⟩ := ih.1 h
        exact ⟨c :: u, d, rest, rfl, hd⟩
    · rintro ⟨u, d, rest, heq, hd, hrest⟩
      cases u with
      | nil =>
        cases heq
        rw [hd, hrest]
        rfl
      | cons e u =>
        cases heq
        split
        · rfl
        · exact ih.2 ⟨u, d, rest, rfl, hd, hrest⟩

/-- The scan finds a method exactly where a signature stands. -/
theorem hasMethod_iff {t : Text} : hasMethod t ↔ ∃ g : Signature, g.text <:+: t := by
  rw [hasMethod_iff_exists]
  constructor
  · rintro ⟨u, c, rest, rfl, hc, hrest⟩
    obtain ⟨k, v, rfl⟩ := continuesMethod_iff.1 hrest
    -- The one character before the continuation is word enough.
    refine ⟨{ k with word := [c], word_isWord := ⟨by simp, by simpa using hc⟩ }, u, v, ?_⟩
    simp [Signature.text]
  · rintro ⟨g, u, v, rfl⟩
    -- The search starts from the last character of the word.
    have hne := g.word_isWord.1
    refine ⟨u ++ g.word.dropLast, g.word.getLast hne, g.toContinuation.text ++ v, ?_,
      g.word_isWord.2 _ (List.getLast_mem hne), continuesMethod_iff.2 ⟨g.toContinuation, v, rfl⟩⟩
    conv_lhs => rw [Signature.text, ← List.dropLast_append_getLast hne]
    simp

theorem hasMethod_of_infix {s t : Text} (h : s <:+: t) (hs : hasMethod s) : hasMethod t := by
  obtain ⟨g, hg⟩ := hasMethod_iff.1 hs
  exact hasMethod_iff.2 ⟨g, hg.trans h⟩

theorem hasMethod_of_no_paren {t : Text} (h : '(' ∉ t) : hasMethod t = false := by
  by_contra hm
  obtain ⟨g, hg⟩ := hasMethod_iff.1 (by simpa using hm)
  exact h (hg.subset (by simp [Signature.text, Continuation.text]))

/-- A text has a method exactly if it can be cut into the parts of a signature, with any text before and
behind them. So it keeps its method when text is added at either end. -/
theorem hasMethod_iff_exists_parts (t : Text) :
    (hasMethod t ↔ ∃ u w q s₁ g p s₂ v : Text,
      t = u ++ (w ++ (q ++ (s₁ ++ (g ++ '(' :: (p ++ ')' :: (s₂ ++ ':' :: v)))))) ∧
        w.IsWord ∧ (q = [] ∨ q = ['?']) ∧ s₁.IsSpace ∧ IsTypeParameters g ∧ ')' ∉ p ∧ s₂.IsSpace) ∧
    (hasMethod t → ∀ u v, hasMethod (u ++ t ++ v)) := by
  refine ⟨?_, fun ht u v => hasMethod_of_infix ⟨u, v, rfl⟩ ht⟩
  rw [hasMethod_iff]
  constructor
  · rintro ⟨g, u, v, rfl⟩
    refine ⟨u, g.word, g.mark, g.gap, g.typeParameters, g.parameters, g.space, v, ?_, g.word_isWord,
      g.mark_eq, g.gap_isSpace, g.typeParameters_isTypeParameters, g.parameters_flat, g.space_isSpace⟩
    simp [Signature.text, Continuation.text]
  · rintro ⟨u, w, q, s₁, g, p, s₂, v, rfl, hw, hq, hs₁, hg, hp, hs₂⟩
    refine ⟨⟨⟨q, s₁, g, p, s₂, hq, hs₁, hg, hp, hs₂⟩, w, hw⟩, u, v, ?_⟩
    simp [Signature.text, Continuation.text]

/-- Each part may go over line ends, the type parameters may hold parentheses. -/
example : hasMethod "pick?\n<K extends\n(string)>\n(key\n: K)\n: K".toList := by
  decide +kernel

end FluentBuilder.Alias
