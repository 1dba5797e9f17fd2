import FluentBuilder.Alias.Member
import FluentBuilder.Proofs.Text.Pieces
import FluentBuilder.Proofs.Text.Runs

namespace FluentBuilder.Alias

open Unicode

variable {α : Type} {step? : Text → Option (α × Text)} {skip : Text → Text} {scan : Text → List α}

/-- `scan` lists what `step?` finds, and goes on behind what `skip` drops where it finds nothing. -/
structure IsScan (step? : Text → Option (α × Text)) (skip : Text → Text) (scan : Text → List α) :
    Prop where
  nil : scan [] = []
  found : ∀ {t rest a}, step? t = some (a, rest) → scan t = a :: scan rest
  skipped : ∀ {t}, step? t = none → scan t = scan (skip t)
  length_step_lt : ∀ {t rest a}, step? t = some (a, rest) → rest.length < t.length
  length_skip_lt : ∀ {t}, t ≠ [] → (skip t).length < t.length

def endsLine (c : Char) : Bool :=
  c == '\n' || c == '\r'

theorem class_of_endsLine {x : Char} (hx : endsLine x) :
    isWord x = false ∧ isBlank x = false ∧ isSpace x = true ∧ endsType x = true ∧ x ≠ ':' := by
  simp only [endsLine, Bool.or_eq_true, beq_iff_eq] at hx
  rcases hx with rfl | rfl <;> decide

theorem class_of_endsType {x : Char} (hx : endsType x) :
    isWord x = false ∧ isBlank x = false ∧ x ≠ ':' := by
  simp only [endsType, Bool.or_eq_true, beq_iff_eq] at hx
  rcases hx with (((rfl | rfl) | rfl) | rfl) | rfl <;> decide

theorem endsType_eq_false_of_isBlank {c : Char} (h : isBlank c) : endsType c = false := by
  simp only [isBlank, Bool.or_eq_true, beq_iff_eq] at h
  rcases h with rfl | rfl <;> decide

/-- What stands behind a line end changes nothing in front of it, except that the line end itself may
be skipped together with the last characters of its line. -/
structure StopsAtLineEnds (step? : Text → Option (α × Text)) (skip : Text → Text) : Prop where
  step?_append : ∀ {x}, endsLine x → ∀ s t,
    step? (s ++ x :: t) = (step? s).map fun found => (found.1, found.2 ++ x :: t)
  skip_append : ∀ {x}, endsLine x → ∀ s t,
    skip (s ++ x :: t) = skip s ++ x :: t ∨ skip s = [] ∧ skip (s ++ x :: t) = t

/-- What stands behind `x` changes nothing in front of it, except that `x` itself may be skipped together
with the last characters in front of it. -/
structure StopsBefore (step? : Text → Option (α × Text)) (skip : Text → Text) (x : Char) (t : Text) :
    Prop where
  step?_append : ∀ s,
    step? (s ++ x :: t) = (step? s).map fun found => (found.1, found.2 ++ x :: t)
  skip_append : ∀ s,
    skip (s ++ x :: t) = skip s ++ x :: t ∨ skip s = [] ∧ skip (s ++ x :: t) = t

theorem StopsAtLineEnds.stopsBefore (h : StopsAtLineEnds step? skip) {x : Char} (hx : endsLine x)
    (t : Text) : StopsBefore step? skip x t where
  step?_append := fun s => h.step?_append hx s t
  skip_append := fun s => h.skip_append hx s t

/-- Nothing crosses `x`, so what stands before it and after it is scanned on its own. -/
theorem IsScan.append (hscan : IsScan step? skip scan) {x : Char} {t : Text}
    (hstop : StopsBefore step? skip x t) (s : Text) : scan (s ++ x :: t) = scan s ++ scan t := by
  induction hn : s.length using Nat.strong_induction_on generalizing s with
  | _ n ih =>
    have hstep := hstop.step?_append s
    cases hs : step? s with
    | some found =>
      obtain ⟨a, rest⟩ := found
      rw [hs, Option.map_some] at hstep
      have hrest := ih rest.length (hn ▸ hscan.length_step_lt hs) rest rfl
      rw [hscan.found hstep, hscan.found hs, hrest, List.cons_append]
    | none =>
      rw [hs, Option.map_none] at hstep
      rw [hscan.skipped hstep, hscan.skipped hs]
      rcases hstop.skip_append s with hskip | ⟨hnil, hskip⟩
      · -- The text in front is not empty, or else skipping would have passed `x`.
        have hne : s ≠ [] := by
          rintro rfl
          have hlt := hscan.length_skip_lt (List.cons_ne_nil x t)
          rw [List.nil_append] at hskip
          rw [hskip, List.length_append] at hlt
          omega
        rw [hskip, ih (skip s).length (hn ▸ hscan.length_skip_lt hne) (skip s) rfl]
      · rw [hskip, hnil, hscan.nil, List.nil_append]

/-- Nothing crosses a line end. -/
theorem IsScan.append_lineEnd (hscan : IsScan step? skip scan) (hstop : StopsAtLineEnds step? skip)
    {x : Char} (hx : endsLine x) (s t : Text) : scan (s ++ x :: t) = scan s ++ scan t :=
  hscan.append (hstop.stopsBefore hx t) s

/-- Where nothing is found, skipping drops the start of the text and no place where something is. -/
structure SkipsInVain (step? : Text → Option (α × Text)) (skip : Text → Text) : Prop where
  suffix : ∀ t, skip t <:+ t
  keeps : ∀ {s t}, step? t = none → s <:+ t → step? s ≠ none → s <:+ skip t

/-- A scan lists nothing just if nothing is found at any place of the text. -/
theorem IsScan.eq_nil_iff (hscan : IsScan step? skip scan) (hskip : SkipsInVain step? skip)
    (t : Text) : scan t = [] ↔ ∀ s, s <:+ t → step? s = none := by
  induction hn : t.length using Nat.strong_induction_on generalizing t with
  | _ n ih =>
    cases hstep : step? t with
    | some found =>
      rw [hscan.found hstep]
      refine iff_of_false (List.cons_ne_nil _ _) fun hnone => ?_
      rw [hnone t List.suffix_rfl] at hstep
      cases hstep
    | none =>
      by_cases ht : t = []
      · subst ht
        exact iff_of_true hscan.nil fun s hs => List.suffix_nil.mp hs ▸ hstep
      · rw [hscan.skipped hstep, ih (skip t).length (hn ▸ hscan.length_skip_lt ht) (skip t) rfl]
        constructor
        · intro hnone s hs
          by_contra hfound
          exact hfound (hnone s (hskip.keeps hstep hs hfound))
        · exact fun hnone s hs => hnone s (hs.trans (hskip.suffix t))

def Answers (list : List α) (result : Except Failure (List α)) : Prop :=
  list ≠ [] ∧ result = .ok list ∨ list = [] ∧ ∃ failure, result = .error failure

theorem Answers.eq_ok_iff {list list' : List α} {result : Except Failure (List α)}
    (h : Answers list result) : result = .ok list' ↔ list = list' ∧ list' ≠ [] := by
  rcases h with ⟨hne, rfl⟩ | ⟨rfl, failure, rfl⟩
  · constructor
    · rintro ⟨⟩
      exact ⟨rfl, hne⟩
    · rintro ⟨rfl, -⟩
      rfl
  · exact iff_of_false (fun h => nomatch h) fun h => h.2 h.1.symm

theorem Answers.exists_ok_iff {list : List α} {result : Except Failure (List α)}
    (h : Answers list result) : (∃ list', result = .ok list') ↔ list ≠ [] := by
  simp only [h.eq_ok_iff]
  exact ⟨fun ⟨_, heq, hne⟩ => heq ▸ hne, fun hne => ⟨list, rfl, hne⟩⟩

def listed : Except Failure (List α) → List α
  | .ok list => list
  | .error _ => []

theorem Answers.listed_eq {list : List α} {result : Except Failure (List α)}
    (h : Answers list result) : listed result = list := by
  rcases h with ⟨-, rfl⟩ | ⟨rfl, failure, rfl⟩ <;> rfl

/-- The scan of a text is put together from those of its lines, in their order. -/
structure IsByLine (scan : Text → List α) : Prop where
  append : ∀ s t, scan (s ++ '\n' :: t) = scan s ++ scan t
  lines : ∀ t, scan t = (t.pieces '\n').flatMap scan

theorem IsScan.isByLine (hscan : IsScan step? skip scan) (hstop : StopsAtLineEnds step? skip) :
    IsByLine scan := by
  have happend : ∀ s t, scan (s ++ '\n' :: t) = scan s ++ scan t :=
    fun s t => hscan.append_lineEnd hstop (by decide) s t
  have hlines : ∀ ls : List Text, scan (['\n'].intercalate ls) = ls.flatMap scan := by
    intro ls
    induction ls with
    | nil => exact hscan.nil
    | cons l ls ih =>
      cases ls with
      | nil => simp
      | cons l' ls =>
        have hcut : ['\n'].intercalate (l :: l' :: ls) = l ++ '\n' :: ['\n'].intercalate (l' :: ls) := by
          simp [List.intercalate_cons_cons]
        rw [hcut, happend, ih]
        rfl
  refine ⟨happend, fun t => ?_⟩
  rw [← hlines, Text.pieces_eq_splitOn, List.intercalate_splitOn]

theorem skipWord_append_cons {x : Char} (hx : isWord x = false) (s t : Text) :
    skipWord (s ++ x :: t) = skipWord s ++ x :: t ∨ skipWord s = [] ∧ skipWord (s ++ x :: t) = t := by
  simp only [skipWord, Text.dropWhile_append_cons hx]
  -- Word characters alone are passed together with what follows them.
  cases s.dropWhile isWord with
  | nil => exact .inr ⟨rfl, rfl⟩
  | cons c rest => exact .inl rfl

theorem skipWord_suffix (t : Text) : skipWord t <:+ t :=
  (List.tail_suffix _).trans (List.dropWhile_suffix isWord)

/-- Besides word characters, only the one character behind them is skipped. -/
theorem suffix_skipWord {s t : Text} (h : s <:+ t) :
    s <:+ skipWord t ∨ ∃ w, (∀ c ∈ w, isWord c) ∧ w ++ s = t := by
  obtain ⟨w, rfl⟩ := h
  cases hw : w.dropWhile isWord with
  | nil => exact .inr ⟨w, List.dropWhile_eq_nil_iff.mp hw, rfl⟩
  | cons c rest =>
    rw [skipWord, List.dropWhile_append, hw]
    exact .inl (List.suffix_append rest s)

/-- If what is found inside of a word is also found at its start, then no such place is skipped. -/
theorem skipsInVain_skipWord (hword : ∀ {w s : Text}, (∀ c ∈ w, isWord c) → step? s ≠ none →
    step? (w ++ s) ≠ none) : SkipsInVain step? skipWord where
  suffix := skipWord_suffix
  keeps := by
    intro s t hnone hs hfound
    rcases suffix_skipWord hs with hskip | ⟨w, hw, rfl⟩
    · exact hskip
    · exact absurd hnone (hword hw hfound)

end FluentBuilder.Alias
