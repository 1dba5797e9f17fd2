import FluentBuilder.PascalCase
import FluentBuilder.Proofs.Unicode.LetterCase

namespace FluentBuilder

namespace Unicode

theorem flatten_clustersAfter (opened t : List Char) :
    (clustersAfter opened t).flatten = opened.reverse ++ t := by
  fun_induction clustersAfter opened t with
  | case1 opened => simp
  | case2 opened c rest hjoins ih => rw [ih, List.reverse_cons, List.append_assoc, List.singleton_append]
  | case3 opened c rest hapart ih => rw [List.flatten_cons, ih, List.reverse_singleton, List.singleton_append]

/-- The clusters of a text hold all of it, in its order. -/
theorem flatten_clusters (t : List Char) : (clusters t).flatten = t := by
  cases t with
  | nil => rfl
  | cons c t => exact flatten_clustersAfter [c] t

end Unicode

namespace PascalCase

open Unicode

/-- The words that clusters form hold all of them but the separators, in their order. -/
theorem flatten_words (cs : List Text) :
    (words cs).flatten = (cs.filter (!isSeparator ·)).flatten := by
  fun_induction words cs with
  | case1 => rfl
  | case2 cluster rest hseparator ih => simp [hseparator, ih]
  | case3 cluster rest hseparator _ ih => simp [hseparator, ih]
  | case4 cluster rest hseparator _ hnone ih =>
    rw [hnone] at ih
    simp [hseparator, ← ih]
  | case5 cluster rest hseparator _ word more hmore ih =>
    rw [hmore] at ih
    simp [hseparator, ← ih]

theorem mem_of_mem_words {name word : Text} {c : Char} (hword : word ∈ words (clusters name))
    (hc : c ∈ word) : c ∈ name := by
  have hkept : c ∈ ((clusters name).filter (!isSeparator ·)).flatten := by
    rw [← flatten_words]
    exact List.mem_flatten_of_mem hword hc
  obtain ⟨cluster, hcluster, hc⟩ := List.mem_flatten.mp hkept
  rw [← flatten_clusters name]
  exact List.mem_flatten_of_mem (List.mem_of_mem_filter hcluster) hc

theorem lf_not_mem_convert {name : Text} (h : '\n' ∉ name) : '\n' ∉ convert name := by
  intro hlf
  obtain ⟨word, hword, hlf⟩ := List.mem_flatMap.mp hlf
  have hone : '\n' ∉ word := fun hmem => h (mem_of_mem_words hword hmem)
  cases word with
  | nil => cases hlf
  | cons c rest =>
    obtain ⟨hc, hrest⟩ := List.ne_and_not_mem_of_not_mem_cons hone
    rcases List.mem_append.mp hlf with hfirst | hothers
    · exact lf_not_mem_upperCase hc.symm hfirst
    · exact lf_not_mem_lowerTextAfter hrest hothers

end PascalCase

end FluentBuilder
