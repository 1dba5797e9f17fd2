import FluentBuilder.Proofs.Builder.Document

namespace FluentBuilder

open Unicode

/-- Parentheses match: none is closed before it is opened, and none is left open. -/
def Balanced (t : Text) : Prop :=
  (∀ p, p <+: t → p.count ')' ≤ p.count '(') ∧ t.count ')' = t.count '('

instance (t : Text) : Decidable (Balanced t) :=
  decidable_of_iff
    ((∀ p ∈ t.inits, p.count ')' ≤ p.count '(') ∧ t.count ')' = t.count '(') <| by
      simp only [Balanced, List.mem_inits]

/-- An open parenthesis is closed further on. -/
theorem Balanced.closing_mem {a b : Text} (h : Balanced (a ++ '(' :: b)) : ')' ∈ b := by
  by_contra hb
  have hprefix := h.1 a (List.prefix_append a _)
  have htotal := h.2
  have hnone : b.count ')' = 0 := List.count_eq_zero.2 hb
  simp only [List.count_append, List.count_cons_self] at htotal
  rw [List.count_cons_of_ne (by decide)] at htotal
  omega

def methodText (w p : Text) : Text :=
  w ++ '(' :: (p ++ [')', ':'])

/-- A parameter list that closes at its first closing parenthesis, or has a colon behind that one. -/
def ClosesFlat (p : Text) : Prop :=
  ')' ∉ p ∨ ∃ a s b : Text, ')' ∉ a ∧ s.IsSpace ∧ p = a ++ ')' :: (s ++ ':' :: b)

namespace Alias

theorem continuesMethod_of_isWord {c : Char} (hc : isWord c) (t : Text) :
    continuesMethod (c :: t) = false := by
  have hne : ∀ d, isWord d = false → c ≠ d := by
    rintro d hd rfl
    rw [hd] at hc
    exact Bool.noConfusion hc
  -- none of the signs that a signature goes on with is a word character
  have hmark : dropMark (c :: t) = c :: t := by
    unfold dropMark
    split
    · rename_i heq
      exact absurd (List.cons.inj heq).1 (hne '?' (by decide))
    · rfl
  have hparameters : dropTypeParameters? (c :: t) = some (c :: t) := by
    unfold dropTypeParameters?
    split
    · rename_i heq
      exact absurd (List.cons.inj heq).1 (hne '<' (by decide))
    · rfl
  have hstarts : startsParameters (c :: t) = false := by
    unfold startsParameters
    split
    · rename_i heq
      exact absurd (List.cons.inj heq).1 (hne '(' (by decide))
    · rfl
  rw [continuesMethod, hmark, Text.trimStart_of_head? (by simpa using isSpace_eq_false_of_isWord hc),
    hparameters]
  exact hstarts

/-- Of all starts in the word only the one at its end meets the parenthesis. -/
theorem hasMethod_word_append {w : Text} (hw : w.IsWord) (t : Text) :
    hasMethod (w ++ '(' :: t) = (startsParameters ('(' :: t) || hasMethod t) := by
  obtain ⟨hne, hall⟩ := hw
  induction w with
  | nil => exact absurd rfl hne
  | cons c w ih =>
    have hc : isWord c := hall c (by simp)
    cases w with
    | nil =>
      have hpass : hasMethod ('(' :: t) = hasMethod t := by
        simp [hasMethod, show isWord '(' = false by decide]
      have hmeets : continuesMethod ('(' :: t) = startsParameters ('(' :: t) := rfl
      rw [List.singleton_append, hasMethod, hpass, hmeets, hc, Bool.true_and]
      cases startsParameters ('(' :: t) <;> rfl
    | cons d w =>
      have hd : isWord d := hall d (by simp)
      rw [List.cons_append, hasMethod, List.cons_append, continuesMethod_of_isWord hd,
        Bool.and_false]
      exact ih (by simp) fun e he => hall e (by simp [he])

theorem startsParameters_iff_closesFlat {p : Text} :
    startsParameters ('(' :: (p ++ [')', ':'])) ↔ ClosesFlat p := by
  by_cases hp : ')' ∈ p
  · obtain ⟨a, b, rfl, ha⟩ := List.eq_append_cons_of_mem hp
    have hafter : startsParameters ('(' :: (a ++ ')' :: b ++ [')', ':'])) =
        ((Text.trimStart (b ++ [')', ':'])).head? == some ':') := by
      rw [List.append_assoc, List.cons_append, startsParameters, after?_append ha]
      rfl
    rw [hafter]
    constructor
    · intro h
      obtain ⟨s, hs, hsplit⟩ := exists_space_append b
      cases hb : Text.trimStart b with
      | nil =>
        -- All of `b` is white space, so the parenthesis behind it comes first.
        rw [hb, List.append_nil] at hsplit
        rw [hsplit, Text.trimStart_append hs] at h
        exact absurd h (by decide)
      | cons c rest =>
        have hc : isSpace c = false :=
          Text.eq_false_of_head?_dropWhile (congrArg List.head? hb)
        rw [hsplit, hb, List.append_assoc, List.cons_append, Text.trimStart,
          Text.dropWhile_run hs hc, List.head?_cons, beq_iff_eq, Option.some.injEq] at h
        exact .inr ⟨a, s, rest, ha, hs, by rw [hsplit, hb, h]⟩
    · rintro (h | ⟨a', s, b', ha', hs, heq⟩)
      · exact absurd hp h
      · have hsame : some b = some (s ++ ':' :: b') := by
          rw [← after?_append ha b, heq, after?_append ha']
        rw [Option.some.inj hsame, List.append_assoc, Text.trimStart,
          List.cons_append, Text.dropWhile_run hs (by decide)]
        rfl
  · have hcloses : startsParameters ('(' :: (p ++ [')', ':'])) := by
      rw [startsParameters, after?_append hp]
      rfl
    exact iff_of_true hcloses (.inl hp)

/-- A signature that starts inside balanced parameters also ends there. -/
theorem Signature.infix_of_balanced {p : Text} (hp : Balanced p) (g : Signature)
    (h : g.text <:+: p ++ [')', ':']) : g.text <:+: p := by
  obtain ⟨u, v, heq⟩ := h
  obtain ⟨a, ha⟩ : ∃ a, g.text = a ++ '(' :: (g.parameters ++ ')' :: (g.space ++ [':'])) :=
    ⟨g.word ++ (g.mark ++ (g.gap ++ g.typeParameters)), by simp [Signature.text, Continuation.text]⟩
  rw [ha] at heq
  obtain rfl | ⟨v, c, rfl⟩ := List.eq_nil_or_concat' v
  · -- The signature would end with the text, so its parenthesis is open in `p`.
    have hcut : (u ++ (a ++ '(' :: (g.parameters ++ ')' :: g.space))) ++ [':'] =
        (p ++ [')']) ++ [':'] := by
      simpa using heq
    have hfront := List.append_cancel_right hcut
    obtain hspace | ⟨space, d, hspace⟩ := List.eq_nil_or_concat' g.space
    · have hsplit : ((u ++ a) ++ '(' :: g.parameters) ++ [')'] = p ++ [')'] := by
        simpa [hspace] using hfront
      have hopen := List.append_cancel_right hsplit
      exact absurd (hopen ▸ hp).closing_mem g.parameters_flat
    · have hsplit : (u ++ (a ++ '(' :: (g.parameters ++ ')' :: space))) ++ [d] = p ++ [')'] := by
        simpa [hspace] using hfront
      have hd : d = ')' := List.singleton_inj.1 (List.append_inj' hsplit rfl).2
      have := g.space_isSpace d (by simp [hspace])
      rw [hd] at this
      exact absurd this (by decide)
  -- The signature ends before the colon. It cannot end with the parenthesis, which is no colon.
  · have hcut : (u ++ (a ++ '(' :: (g.parameters ++ ')' :: (g.space ++ [':']))) ++ v) ++ [c] =
        (p ++ [')']) ++ [':'] := by
      simpa using heq
    have hfront := (List.append_inj' hcut rfl).1
    obtain rfl | ⟨v, d, rfl⟩ := List.eq_nil_or_concat' v
    · have hsplit : (u ++ (a ++ '(' :: (g.parameters ++ ')' :: g.space))) ++ [':'] = p ++ [')'] := by
        simpa using hfront
      exact absurd (List.append_inj' hsplit rfl).2 (by decide)
    · have hsplit : (u ++ g.text ++ v) ++ [d] = p ++ [')'] := by
        rw [ha]
        simpa using hfront
      exact ⟨u, v, (List.append_inj' hsplit rfl).1⟩

theorem hasMethod_balanced_append {p : Text} (hp : Balanced p) :
    hasMethod (p ++ [')', ':']) ↔ hasMethod p := by
  constructor
  · intro h
    obtain ⟨g, hg⟩ := hasMethod_iff.1 h
    exact hasMethod_iff.2 ⟨g, g.infix_of_balanced hp hg⟩
  · exact hasMethod_of_infix (List.prefix_append p _).isInfix

theorem hasMethod_methodText {w p : Text} (hw : w.IsWord) (hp : Balanced p) :
    hasMethod (methodText w p) ↔ ClosesFlat p ∨ hasMethod p := by
  rw [methodText, hasMethod_word_append hw, Bool.or_eq_true, startsParameters_iff_closesFlat,
    hasMethod_balanced_append hp]

end Alias

/-- A method is always told, whatever stands around it, exactly if its parameters close flat or hold a
signature of their own. In a given document it is told exactly if some signature stands there. -/
theorem Builder.ofDocument_method_iff {w p : Text} (hw : w.IsWord) (hp : Balanced p) :
    ((∀ u v : Text, Alias.hasMethod (u ++ methodText w p ++ v) ∧
        ∀ s, Builder.ofDocument s (u ++ methodText w p ++ v) = .error .methodsNotSupported) ↔
      ClosesFlat p ∨ ∃ g : Alias.Signature, g.text <:+: p) ∧
    ∀ u v : Text, (Alias.hasMethod (u ++ methodText w p ++ v) ∧
        ∀ s, Builder.ofDocument s (u ++ methodText w p ++ v) = .error .methodsNotSupported) ↔
      ∃ g : Alias.Signature, g.text <:+: u ++ methodText w p ++ v := by
  have htold : ∀ t : Text, (Alias.hasMethod t ∧
      ∀ s, Builder.ofDocument s t = .error .methodsNotSupported) ↔ Alias.hasMethod t := fun t =>
    ⟨And.left, fun h => ⟨h, fun s => Builder.ofDocument_of_hasMethod h⟩⟩
  simp only [htold]
  refine ⟨?_, fun u v => Alias.hasMethod_iff⟩
  rw [← Alias.hasMethod_iff, ← Alias.hasMethod_methodText hw hp]
  constructor
  · intro h
    simpa using h [] []
  · intro h u v
    exact Alias.hasMethod_of_infix ⟨u, v, rfl⟩ h

/-- A parameter with a call signature: a colon follows the first closing parenthesis. -/
theorem ofDocument_call_signature_parameter :
    Text.IsWord "on".toList ∧ Balanced "f: \x7b (x: A): B \x7d".toList ∧
      Builder.ofDocument {} ("export type T = \x7b ".toList ++
        methodText "on".toList "f: \x7b (x: A): B \x7d".toList ++ " C \x7d".toList) =
          .error .methodsNotSupported := by
  have hflat : ClosesFlat "f: \x7b (x: A): B \x7d".toList :=
    .inr ⟨"f: \x7b (x: A".toList, [], " B \x7d".toList, by decide, by decide, by decide⟩
  refine ⟨by decide, by decide, ?_⟩
  exact (((Builder.ofDocument_method_iff (by decide) (by decide)).1.2 (.inl hflat)) _ _).2 {}

/-- A callback closes its parameters inside the list, and what was a parameter becomes a field. -/
theorem callback_method_not_told :
    Text.IsWord "on".toList ∧ Balanced "cb: (x: A) => B".toList ∧
      Alias.hasMethod ("export type T = \x7b ".toList ++
        methodText "on".toList "cb: (x: A) => B".toList ++ " C \x7d".toList) = false ∧
      ((Builder.ofDocument {} ("export type T = \x7b ".toList ++
        methodText "on".toList "cb: (x: A) => B".toList ++ " C \x7d".toList)).map
          Builder.members).toOption =
        some [{ name := "cb".toList, type := "(x: A) => B): C".toList }] := by
  refine ⟨by decide, by decide, by decide, by decide +kernel⟩

end FluentBuilder
