import FluentBuilder.Session
import Mathlib.Data.Char
import Mathlib.Data.List.Lex
import Mathlib.Data.List.Sort

namespace FluentBuilder.Store

variable {path path' text text' : Text} {store store' : Store}

theorem text?_put_self (path text : Text) (store : Store) :
    (store.put path text).text? path = some text := by
  induction store with
  | nil => simp [put, text?]
  | cons file store ih =>
    obtain ⟨p, t⟩ := file
    rw [put]
    split_ifs with hsame hbefore
    · simp [text?]
    · simp [text?]
    · rw [text?, List.lookup_cons, beq_eq_false_iff_ne.mpr hsame]
      exact ih

theorem text?_put_of_ne (h : path' ≠ path) (text : Text) (store : Store) :
    (store.put path text).text? path' = store.text? path' := by
  have hself : (path' == path) = false := beq_eq_false_iff_ne.mpr h
  induction store with
  | nil => simp only [put, text?, List.lookup_cons, hself]
  | cons file store ih =>
    obtain ⟨p, t⟩ := file
    rw [put]
    split_ifs with hsame hbefore
    · subst hsame
      simp only [text?, List.lookup_cons, hself]
    · rw [text?, List.lookup_cons, hself, text?]
    · simp only [text?, List.lookup_cons] at ih ⊢
      rw [ih]

/-- Putting a file twice is putting it once. -/
theorem put_put (path text : Text) (store : Store) :
    (store.put path text).put path text = store.put path text := by
  induction store with
  | nil => simp [put]
  | cons file store ih =>
    obtain ⟨p, t⟩ := file
    rw [put]
    split_ifs with hsame hbefore
    · simp [put]
    · simp [put]
    · rw [put, if_neg hsame, if_neg hbefore, ih]

theorem mem_put {file : Text × Text} (h : file ∈ store.put path text) :
    file = (path, text) ∨ file ∈ store := by
  induction store with
  | nil => simpa [put] using h
  | cons first store ih =>
    obtain ⟨p, t⟩ := first
    rw [put] at h
    split_ifs at h with hsame hbefore
    · rcases List.mem_cons.mp h with hnew | hrest
      · exact Or.inl hnew
      · exact Or.inr (List.mem_cons_of_mem _ hrest)
    · exact List.mem_cons.mp h
    · rcases List.mem_cons.mp h with hfirst | hrest
      · exact Or.inr (hfirst ▸ List.mem_cons_self)
      · exact (ih hrest).imp_right (List.mem_cons_of_mem _)

theorem mem_paths_iff : path ∈ store.paths ↔ (store.text? path).isSome := by
  simp [paths, text?, List.lookup_isSome_iff]

theorem mem_paths_put (h : path' ∈ store.paths) : path' ∈ (store.put path text).paths := by
  rw [mem_paths_iff] at h ⊢
  by_cases hsame : path' = path
  · rw [hsame, text?_put_self]
    rfl
  · rw [text?_put_of_ne hsame]
    exact h

/-- The files stand in the order of their paths, one file for each. -/
def Sorted (store : Store) : Prop :=
  store.Pairwise (·.1 < ·.1)

theorem sorted_put (path text : Text) (h : store.Sorted) : (store.put path text).Sorted := by
  induction store with
  | nil => exact List.pairwise_singleton _ _
  | cons file store ih =>
    obtain ⟨p, t⟩ := file
    obtain ⟨hfirst, hrest⟩ := List.pairwise_cons.mp h
    rw [put]
    split_ifs with hsame hbefore
    · subst hsame
      exact List.pairwise_cons.mpr ⟨hfirst, hrest⟩
    · refine List.pairwise_cons.mpr ⟨?_, h⟩
      intro file hfile
      rcases List.mem_cons.mp hfile with rfl | hlater
      · exact hbefore
      · exact hbefore.trans (hfirst file hlater)
    · refine List.pairwise_cons.mpr ⟨?_, ih hrest⟩
      intro file hfile
      rcases mem_put hfile with rfl | hlater
      · exact lt_of_le_of_ne (not_lt.mp hbefore) (Ne.symm hsame)
      · exact hfirst file hlater

theorem Sorted.mem_iff (h : store.Sorted) : (path, text) ∈ store ↔ store.text? path = some text := by
  induction store with
  | nil => simp [text?]
  | cons file store ih =>
    obtain ⟨p, t⟩ := file
    obtain ⟨hfirst, hrest⟩ := List.pairwise_cons.mp h
    by_cases hsame : path = p
    · subst hsame
      have hnot : (path, text) ∉ store := fun hmem => lt_irrefl path (hfirst (path, text) hmem)
      simp [text?, hnot, eq_comm]
    · have hskip : (path == p) = false := beq_eq_false_iff_ne.mpr hsame
      simp only [text?, List.lookup_cons, hskip, List.mem_cons, Prod.mk.injEq, hsame, false_and,
        false_or]
      exact ih hrest

/-- Nothing but the files that it holds tells one store in order from another. -/
theorem Sorted.ext (h : store.Sorted) (h' : store'.Sorted)
    (hheld : ∀ path, store.text? path = store'.text? path) : store = store' := by
  have hmem : ∀ file, file ∈ store ↔ file ∈ store' := by
    rintro ⟨path, text⟩
    rw [h.mem_iff, h'.mem_iff, hheld]
  have hasymm : Std.Antisymm fun a b : Text × Text => a.1 < b.1 :=
    ⟨fun a b hab hba => absurd hab (lt_asymm hba)⟩
  have hirrefl : Std.Irrefl fun a b : Text × Text => a.1 < b.1 := ⟨fun a => lt_irrefl a.1⟩
  exact List.Pairwise.eq_of_mem_iff h h' hmem

theorem put_comm (h : store.Sorted) (hne : path ≠ path') :
    (store.put path text).put path' text' = (store.put path' text').put path text := by
  apply (sorted_put _ _ (sorted_put _ _ h)).ext (sorted_put _ _ (sorted_put _ _ h))
  intro p
  by_cases hfirst : p = path
  · subst hfirst
    rw [text?_put_of_ne hne, text?_put_self, text?_put_self]
  · rw [text?_put_of_ne hfirst]
    by_cases hsecond : p = path'
    · subst hsecond
      rw [text?_put_self, text?_put_self]
    · rw [text?_put_of_ne hsecond, text?_put_of_ne hsecond, text?_put_of_ne hfirst]

end FluentBuilder.Store
