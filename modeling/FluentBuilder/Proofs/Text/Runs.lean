import FluentBuilder.Text
import FluentBuilder.Proofs.Unicode.Classes
import Mathlib.Data.List.DropRight

namespace FluentBuilder.Text

open Unicode

def IsWord (t : Text) : Prop :=
  t ≠ [] ∧ ∀ c ∈ t, isWord c

def IsBlank (t : Text) : Prop :=
  ∀ c ∈ t, isBlank c

def IsSpace (t : Text) : Prop :=
  ∀ c ∈ t, isSpace c

def IsTrimmed (t : Text) : Prop :=
  (∀ c, t.head? = some c → isSpace c = false) ∧ ∀ c, t.getLast? = some c → isSpace c = false

-- Deciding looks at the characters of the text, not at all characters there are.
instance (t : Text) : Decidable t.IsWord :=
  @instDecidableAnd (t ≠ []) _ inferInstance (List.decidableBAll (fun c => isWord c) t)

instance (t : Text) : Decidable t.IsTrimmed :=
  @instDecidableAnd _ _ (Option.decidableForallMem (p := fun c => isSpace c = false) t.head?)
    (Option.decidableForallMem (p := fun c => isSpace c = false) t.getLast?)

instance (t : Text) : Decidable t.IsBlank :=
  List.decidableBAll (fun c => isBlank c) t

instance (t : Text) : Decidable t.IsSpace :=
  List.decidableBAll (fun c => isSpace c) t

theorem IsBlank.isSpace {t : Text} (h : t.IsBlank) : t.IsSpace :=
  fun c hc => isSpace_of_isBlank (h c hc)

theorem IsWord.not_mem {t : Text} {c : Char} (h : t.IsWord) (hc : isWord c = false) : c ∉ t := by
  intro hmem
  rw [h.2 c hmem] at hc
  exact Bool.noConfusion hc

theorem IsBlank.not_mem {t : Text} {c : Char} (h : t.IsBlank) (hc : isBlank c = false) : c ∉ t := by
  intro hmem
  rw [h c hmem] at hc
  exact Bool.noConfusion hc

section Stop

variable {p : Char → Bool} {x : Char}

theorem takeWhile_append_cons (hx : p x = false) (s t : Text) :
    (s ++ x :: t).takeWhile p = s.takeWhile p := by
  induction s with
  | nil => simp [hx]
  | cons c s ih => rw [List.cons_append, List.takeWhile_cons, List.takeWhile_cons, ih]

theorem dropWhile_append_cons (hx : p x = false) (s t : Text) :
    (s ++ x :: t).dropWhile p = s.dropWhile p ++ x :: t := by
  induction s with
  | nil => simp [hx]
  | cons c s ih =>
    rw [List.cons_append, List.dropWhile_cons, List.dropWhile_cons, ih]
    split <;> rfl

/-- A scan passes a run and stops at the first character of another class. -/
theorem takeWhile_run {s : Text} (hs : ∀ c ∈ s, p c) (hx : p x = false) (t : Text) :
    (s ++ x :: t).takeWhile p = s := by
  rw [takeWhile_append_cons hx, List.takeWhile_eq_self_iff.2 hs]

theorem dropWhile_run {s : Text} (hs : ∀ c ∈ s, p c) (hx : p x = false) (t : Text) :
    (s ++ x :: t).dropWhile p = x :: t := by
  rw [dropWhile_append_cons hx, List.dropWhile_eq_nil_iff.2 hs, List.nil_append]

/-- A scan also stops at the end of the text. -/
theorem takeWhile_append_of_stop {s rest : Text} (hs : ∀ c ∈ s, p c)
    (hrest : ∀ c, rest.head? = some c → p c = false) : (s ++ rest).takeWhile p = s := by
  cases rest with
  | nil => rw [List.append_nil, List.takeWhile_eq_self_iff.2 hs]
  | cons c rest => exact takeWhile_run hs (hrest c rfl) rest

theorem dropWhile_append_of_stop {s rest : Text} (hs : ∀ c ∈ s, p c)
    (hrest : ∀ c, rest.head? = some c → p c = false) : (s ++ rest).dropWhile p = rest := by
  cases rest with
  | nil => rw [List.append_nil, List.dropWhile_eq_nil_iff.2 hs]
  | cons c rest => exact dropWhile_run hs (hrest c rfl) rest

theorem eq_false_of_head?_dropWhile {t : Text} (h : (t.dropWhile p).head? = some x) : p x = false := by
  have hstop := List.head?_dropWhile_not p t
  rw [h] at hstop
  simpa using hstop

end Stop

/-- The blanks at the end of a text and the character in front of them are determined. -/
theorem append_cons_blank_inj {w w' b b' : Text} {c c' : Char} (hc : isBlank c = false)
    (hc' : isBlank c' = false) (hb : b.IsBlank) (hb' : b'.IsBlank)
    (h : w ++ c :: b = w' ++ c' :: b') : w = w' ∧ c = c' ∧ b = b' := by
  have hrun : ∀ {b : Text}, b.IsBlank → ∀ d ∈ b.reverse, isBlank d :=
    fun hb d hd => hb d (List.mem_reverse.mp hd)
  have hreverse : b.reverse ++ c :: w.reverse = b'.reverse ++ c' :: w'.reverse := by
    simpa using congrArg List.reverse h
  have htake := congrArg (List.takeWhile isBlank) hreverse
  have hdrop := congrArg (List.dropWhile isBlank) hreverse
  rw [takeWhile_run (hrun hb) hc, takeWhile_run (hrun hb') hc'] at htake
  rw [dropWhile_run (hrun hb) hc, dropWhile_run (hrun hb') hc'] at hdrop
  obtain ⟨hlast, hword⟩ := List.cons.inj hdrop
  exact ⟨List.reverse_injective hword, hlast, List.reverse_injective htake⟩

theorem trimStart_of_head? {t : Text} (h : ∀ c, t.head? = some c → isSpace c = false) :
    t.trimStart = t := by
  cases t with
  | nil => rfl
  | cons c t => rw [trimStart, List.dropWhile_cons_of_neg (by simp [h c rfl])]

theorem trimStart_append {s : Text} (hs : s.IsSpace) (t : Text) :
    trimStart (s ++ t) = trimStart t :=
  List.dropWhile_append_of_pos hs

theorem trimEnd_of_getLast? {t : Text} (h : ∀ c, t.getLast? = some c → isSpace c = false) :
    t.trimEnd = t := by
  refine List.rdropWhile_eq_self_iff.2 ?_
  intro ht
  simp [h _ (List.getLast?_eq_some_getLast ht)]

theorem trimEnd_append {s : Text} (hs : s.IsSpace) (t : Text) : trimEnd (t ++ s) = trimEnd t := by
  rw [trimEnd, List.reverse_append, List.dropWhile_append_of_pos, trimEnd]
  intro c hc
  exact hs c (List.mem_reverse.1 hc)

theorem trim_eq_self {t : Text} (ht : t.IsTrimmed) : t.trim = t := by
  rw [trim, trimStart_of_head? ht.1, trimEnd_of_getLast? ht.2]

/-- Trimming takes back the white space behind a text that has none at its ends. -/
theorem trim_append {t s : Text} (ht : t.IsTrimmed) (hne : t ≠ []) (hs : s.IsSpace) :
    trim (t ++ s) = t := by
  have hhead : ∀ c, (t ++ s).head? = some c → isSpace c = false := by
    intro c hc
    rw [List.head?_append_of_ne_nil _ hne] at hc
    exact ht.1 c hc
  rw [trim, trimStart_of_head? hhead, trimEnd_append hs, trimEnd_of_getLast? ht.2]

theorem mem_of_mem_trim {t : Text} {c : Char} (h : c ∈ t.trim) : c ∈ t :=
  (List.dropWhile_suffix isSpace).subset ((List.rdropWhile_prefix isSpace t.trimStart).subset h)

theorem isTrimmed_trim (t : Text) : t.trim.IsTrimmed := by
  constructor
  · intro c hc
    -- The end that is trimmed away leaves the start as it is.
    obtain ⟨rest, hrest⟩ : t.trim <+: t.trimStart := List.rdropWhile_prefix isSpace t.trimStart
    have hfirst : (t.dropWhile isSpace).head? = some c := by
      rw [← trimStart, ← hrest, List.head?_append, hc]
      rfl
    exact eq_false_of_head?_dropWhile hfirst
  · intro c hc
    have hne : t.trim ≠ [] := by
      intro hnil
      rw [hnil] at hc
      cases hc
    rw [List.getLast?_eq_some_getLast hne, Option.some.injEq] at hc
    rw [← hc]
    exact Bool.eq_false_iff.mpr (List.rdropWhile_last_not isSpace t.trimStart hne)

theorem trim_ne_nil {t : Text} {c : Char} (hc : c ∈ t) (h : isSpace c = false) : t.trim ≠ [] := by
  intro hnil
  have hall := List.rdropWhile_eq_nil_iff.1 hnil
  have hdrop : t.trimStart ≠ [] := by
    intro hstart
    simpa [h] using List.dropWhile_eq_nil_iff.1 hstart c hc
  have hfirst : isSpace (t.trimStart.head hdrop) = false := List.head_dropWhile_not isSpace hdrop
  rw [hall _ (List.head_mem hdrop)] at hfirst
  exact Bool.noConfusion hfirst

theorem trim_eq_nil_iff {t : Text} : t.trim = [] ↔ t.IsSpace := by
  constructor
  · intro hnil c hc
    by_contra hspace
    exact trim_ne_nil hc (Bool.eq_false_iff.mpr hspace) hnil
  · intro hspace
    have hstart : t.trimStart = [] := List.dropWhile_eq_nil_iff.mpr hspace
    rw [trim, hstart]
    rfl

end FluentBuilder.Text
