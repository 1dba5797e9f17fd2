import FluentBuilder.Proofs.Text.Runs

namespace FluentBuilder.Text

open Unicode

def withCrLf (t : Text) : Text :=
  t.flatMap fun c => if c = '\n' then ['\r', '\n'] else [c]

@[simp]
theorem withCrLf_nil : withCrLf [] = [] := rfl

@[simp]
theorem withCrLf_lf (t : Text) : withCrLf ('\n' :: t) = '\r' :: '\n' :: withCrLf t := rfl

theorem withCrLf_cons {c : Char} (hc : c ≠ '\n') (t : Text) : withCrLf (c :: t) = c :: withCrLf t := by
  rw [withCrLf, List.flatMap_cons, if_neg hc]
  rfl

theorem mem_withCrLf {c : Char} {t : Text} (h : c ∈ withCrLf t) : c ∈ t ∨ '\n' ∈ t ∧ c = '\r' := by
  obtain ⟨d, hd, hc⟩ := List.mem_flatMap.mp h
  split_ifs at hc with hlf
  · subst hlf
    rcases List.mem_pair.mp hc with rfl | rfl
    · exact .inr ⟨hd, rfl⟩
    · exact .inl hd
  · rw [List.mem_singleton.mp hc]
    exact .inl hd

theorem mem_withCrLf_of_mem {c : Char} {t : Text} (h : c ∈ t) : c ∈ withCrLf t := by
  refine List.mem_flatMap.mpr ⟨c, h, ?_⟩
  split_ifs with hc
  · simp [hc]
  · simp

section Scan

variable {p : Char → Bool}

theorem dropWhile_withCrLf (hp : p '\r' = p '\n') (t : Text) :
    (withCrLf t).dropWhile p = withCrLf (t.dropWhile p) := by
  induction t with
  | nil => rfl
  | cons c t ih =>
    by_cases hc : c = '\n'
    · subst hc
      rw [withCrLf_lf, List.dropWhile_cons, List.dropWhile_cons, List.dropWhile_cons, hp]
      split
      · exact ih
      · rfl
    · rw [withCrLf_cons hc, List.dropWhile_cons, List.dropWhile_cons]
      split
      · exact ih
      · rw [withCrLf_cons hc]

theorem takeWhile_withCrLf (hcr : p '\r' = false) (hlf : p '\n' = false) (t : Text) :
    (withCrLf t).takeWhile p = t.takeWhile p := by
  induction t with
  | nil => rfl
  | cons c t ih =>
    by_cases hc : c = '\n'
    · subst hc
      simp [hcr, hlf]
    · rw [withCrLf_cons hc, List.takeWhile_cons, List.takeWhile_cons, ih]

end Scan

theorem trimStart_withCrLf (t : Text) : trimStart (withCrLf t) = withCrLf (trimStart t) :=
  dropWhile_withCrLf (by decide) t

theorem isSpace_withCrLf {t : Text} : (withCrLf t).IsSpace ↔ t.IsSpace := by
  constructor
  · intro h c hc
    exact h c (mem_withCrLf_of_mem hc)
  · intro h c hc
    rcases mem_withCrLf hc with hc | ⟨-, rfl⟩
    · exact h c hc
    · decide

theorem trim_withCrLf_eq_nil {t : Text} : trim (withCrLf t) = [] ↔ trim t = [] := by
  rw [trim_eq_nil_iff, trim_eq_nil_iff, isSpace_withCrLf]

end FluentBuilder.Text
