import FluentBuilder.Unicode.LetterCase
import Mathlib.Data.List.Basic

namespace FluentBuilder.Unicode

theorem ofNat_ne_lf {n : Nat} (h : n ≠ 10) : Char.ofNat n ≠ '\n' := by
  intro heq
  by_cases hvalid : n.isValidChar
  · rw [Char.ofNat, dif_pos hvalid] at heq
    exact h (congrArg Char.toNat heq)
  · rw [Char.ofNat, dif_neg hvalid] at heq
    exact absurd heq (by decide)

theorem CaseRuns.exists_target_le {runs : CaseRuns} {n m : Nat} (h : runs.find? n = some m) :
    ∃ run ∈ runs, run.2.2.2 ≤ m := by
  fun_induction CaseRuns.find? runs n with
  | case1 => cases h
  | case2 => cases h
  | case3 first last step target rest n =>
    cases h
    exact ⟨_, List.mem_cons_self, Nat.le_add_right target _⟩
  | case4 first last step target rest n _ _ ih =>
    obtain ⟨run, hrun, hle⟩ := ih h
    exact ⟨run, List.mem_cons_of_mem _ hrun, hle⟩

theorem upperRuns_above_lf : ∀ run ∈ upperRuns, 10 < run.2.2.2 := by
  decide +kernel

theorem lowerRuns_above_lf : ∀ run ∈ lowerRuns, 10 < run.2.2.2 := by
  decide +kernel

theorem upperSpellings_ne_lf : ∀ spelling ∈ upperSpellings, 10 ∉ spelling.2 := by
  decide +kernel

theorem ofNat_find?_ne_lf {runs : CaseRuns} (hruns : ∀ run ∈ runs, 10 < run.2.2.2) {n m : Nat}
    (h : runs.find? n = some m) : Char.ofNat m ≠ '\n' := by
  obtain ⟨run, hrun, hle⟩ := CaseRuns.exists_target_le h
  have hlt := hruns run hrun
  exact ofNat_ne_lf (by omega)

theorem ascii_case_ne_lf {c : Char} (hascii : c.toNat < 0x80) (hc : c ≠ '\n') :
    c.toUpper ≠ '\n' ∧ c.toLower ≠ '\n' := by
  have hall : ∀ n < 0x80, Char.ofNat n ≠ '\n' →
      (Char.ofNat n).toUpper ≠ '\n' ∧ (Char.ofNat n).toLower ≠ '\n' := by
    decide +kernel
  rw [← Char.ofNat_toNat c] at hc ⊢
  exact hall c.toNat hascii hc

theorem lf_not_mem_upperCase {c : Char} (hc : c ≠ '\n') : '\n' ∉ upperCase c := by
  unfold upperCase
  split
  · rename_i hascii
    simpa using (ascii_case_ne_lf hascii hc).1.symm
  · split
    · rename_i n hn
      simpa using (ofNat_find?_ne_lf upperRuns_above_lf hn).symm
    · cases hspelling : upperSpellings.lookup c.toNat with
      | none => simpa using hc.symm
      | some spelling =>
        obtain ⟨before, behind, htable, -⟩ := List.lookup_eq_some_iff.mp hspelling
        have hmem : (c.toNat, spelling) ∈ upperSpellings := by
          rw [htable]
          exact List.mem_append_cons_self
        intro hlf
        obtain ⟨n, hn, heq⟩ := List.mem_map.mp hlf
        refine ofNat_ne_lf (fun h10 => ?_) heq
        exact upperSpellings_ne_lf _ hmem (h10 ▸ hn)

theorem lf_not_mem_lowerCase {c : Char} (hc : c ≠ '\n') : '\n' ∉ lowerCase c := by
  unfold lowerCase
  split
  · rename_i hascii
    simpa using (ascii_case_ne_lf hascii hc).2.symm
  · split
    · decide
    · split
      · rename_i n hn
        simpa using (ofNat_find?_ne_lf lowerRuns_above_lf hn).symm
      · simpa using hc.symm

theorem lf_not_mem_lowerTextAfter {afterLetter : Bool} {t : List Char} (ht : '\n' ∉ t) :
    '\n' ∉ lowerTextAfter afterLetter t := by
  fun_induction lowerTextAfter afterLetter t with
  | case1 => exact List.not_mem_nil
  | case2 afterLetter c rest lower ih =>
    obtain ⟨hc, hrest⟩ := List.ne_and_not_mem_of_not_mem_cons ht
    have hlower : '\n' ∉ lower := by
      unfold lower
      split_ifs
      · decide
      · decide
      · exact lf_not_mem_lowerCase hc.symm
    rw [List.mem_append, not_or]
    exact ⟨hlower, ih hrest⟩

end FluentBuilder.Unicode
