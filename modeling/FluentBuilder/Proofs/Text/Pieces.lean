import FluentBuilder.Text

namespace FluentBuilder.Text

theorem pieces_eq_splitOn (c : Char) (t : Text) : t.pieces c = List.splitOn c t := by
  induction t with
  | nil => rfl
  | cons d t ih =>
    rw [List.splitOn, List.splitOnP_cons_eq_if_modifyHead, ← List.splitOn, ← ih, pieces]
    have hne : pieces c t ≠ [] := by
      rw [ih]
      exact List.splitOn_ne_nil c t
    by_cases hd : d = c
    · simp [hd]
    · obtain ⟨piece, more, hpieces⟩ := List.exists_cons_of_ne_nil hne
      simp [hd, hpieces]

theorem pieces_append_cons (c : Char) (s t : Text) :
    (s ++ c :: t).pieces c = s.pieces c ++ t.pieces c := by
  have hc : (c == c) = true := beq_self_eq_true c
  simp only [pieces_eq_splitOn, List.splitOn]
  exact List.splitOnP_append_cons s t hc

theorem pieces_intercalate {c : Char} {ts : List Text} (hts : ∀ t ∈ ts, c ∉ t) (hne : ts ≠ []) :
    Text.pieces c ([c].intercalate ts) = ts := by
  rw [pieces_eq_splitOn]
  exact List.splitOn_intercalate c hts hne

theorem pieces_of_not_mem {c : Char} {t : Text} (h : c ∉ t) : t.pieces c = [t] := by
  have hone : ∀ s ∈ [t], c ∉ s := by
    intro s hs
    rw [List.mem_singleton.mp hs]
    exact h
  simpa using pieces_intercalate hone (List.cons_ne_nil t [])

theorem not_mem_of_mem_pieces {c : Char} {t piece : Text} (h : piece ∈ t.pieces c) : c ∉ piece := by
  induction t generalizing piece with
  | nil =>
    rw [List.mem_singleton.mp h]
    exact List.not_mem_nil
  | cons d t ih =>
    rw [pieces] at h
    by_cases hd : d = c
    · rw [if_pos hd] at h
      rcases List.mem_cons.mp h with rfl | h
      · exact List.not_mem_nil
      · exact ih h
    · rw [if_neg hd] at h
      split at h
      · rw [List.mem_singleton.mp h, List.mem_singleton]
        exact Ne.symm hd
      · rename_i first more heq
        rw [heq] at ih
        rcases List.mem_cons.mp h with rfl | h
        · exact List.not_mem_cons_of_ne_of_not_mem (Ne.symm hd) (ih List.mem_cons_self)
        · exact ih (List.mem_cons_of_mem first h)

def unlines (ls : List Text) : Text :=
  ls.flatMap (· ++ ['\n'])

theorem unlines_append (ls ls' : List Text) : unlines (ls ++ ls') = unlines ls ++ unlines ls' :=
  List.flatMap_append

theorem isInfix_unlines {l : Text} {ls : List Text} (h : l ∈ ls) : l <:+: unlines ls := by
  obtain ⟨before, after, rfl⟩ := List.append_of_mem h
  exact ⟨unlines before, '\n' :: unlines after, by simp [unlines]⟩

theorem pieces_unlines_append {ls : List Text} (hls : ∀ l ∈ ls, '\n' ∉ l) (t : Text) :
    (unlines ls ++ t).pieces '\n' = ls ++ t.pieces '\n' := by
  induction ls with
  | nil => rfl
  | cons l ls ih =>
    have hl : '\n' ∉ l := hls l List.mem_cons_self
    have hcut : unlines (l :: ls) ++ t = l ++ '\n' :: (unlines ls ++ t) := by
      simp [unlines]
    rw [hcut, pieces_append_cons, pieces_of_not_mem hl,
      ih fun l' hl' => hls l' (List.mem_cons_of_mem l hl')]
    rfl

/-- A line without LF is read back, unless a CR at its end would be taken for a part of the line end. -/
theorem lines_append_lf {l : Text} (hlf : '\n' ∉ l) (hcr : l.getLast? ≠ some '\r') (t : Text) :
    lines (l ++ '\n' :: t) = l :: lines t := by
  induction l with
  | nil => rfl
  | cons c l ih =>
    obtain ⟨hc, hl⟩ := List.ne_and_not_mem_of_not_mem_cons hlf
    have hlast : l.getLast? ≠ some '\r' := by
      cases l with
      | nil => exact nofun
      | cons d l => rwa [List.getLast?_cons_cons] at hcr
    rw [List.cons_append, lines, ih hl hlast]
    · exact hc.symm
    · rintro rest rfl hrest
      cases l with
      | nil => exact hcr rfl
      | cons d l =>
        obtain ⟨rfl, -⟩ := List.cons.inj hrest
        exact hl List.mem_cons_self

theorem lines_unlines_append {ls : List Text} (hls : ∀ l ∈ ls, '\n' ∉ l ∧ l.getLast? ≠ some '\r')
    (t : Text) : lines (unlines ls ++ t) = ls ++ lines t := by
  induction ls with
  | nil => rfl
  | cons l ls ih =>
    obtain ⟨hlf, hcr⟩ := hls l List.mem_cons_self
    have hcut : unlines (l :: ls) ++ t = l ++ '\n' :: (unlines ls ++ t) := by
      simp [unlines]
    rw [hcut, lines_append_lf hlf hcr, ih fun l' hl' => hls l' (List.mem_cons_of_mem l hl')]
    rfl

end FluentBuilder.Text
