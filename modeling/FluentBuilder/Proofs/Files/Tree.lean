import FluentBuilder.Files.Tree

namespace FluentBuilder.FileTree

variable {tree tree' : FileTree} {location here directory : Location} {entry : Entry}

theorem lookup_insert_self (location : Location) (entry : Entry) (es : List (Location × Entry)) :
    (set.insert location entry es).lookup location = some entry := by
  induction es with
  | nil => simp [set.insert]
  | cons e es ih =>
    obtain ⟨l, e⟩ := e
    by_cases hl : l = location
    · simp [set.insert, hl]
    · simp only [set.insert, if_neg hl, List.lookup_cons, beq_eq_false_iff_ne.mpr (Ne.symm hl)]
      exact ih

theorem lookup_insert_of_ne {l : Location} (h : l ≠ location) (es : List (Location × Entry)) :
    (set.insert location entry es).lookup l = es.lookup l := by
  induction es with
  | nil => simp [set.insert, h]
  | cons e es ih =>
    obtain ⟨k, e⟩ := e
    by_cases hk : k = location
    · subst hk
      simp only [set.insert, if_true, List.lookup_cons, beq_eq_false_iff_ne.mpr h]
    · simp only [set.insert, if_neg hk, List.lookup_cons, ih]

theorem insert_insert (es : List (Location × Entry)) :
    set.insert location entry (set.insert location entry es) = set.insert location entry es := by
  induction es with
  | nil => simp [set.insert]
  | cons e es ih =>
    obtain ⟨l, e⟩ := e
    by_cases hl : l = location
    · simp [set.insert, hl]
    · simp only [set.insert, if_neg hl, ih]

/-- Setting an entry a second time changes nothing. -/
theorem set_set : (tree.set location entry).set location entry = tree.set location entry :=
  congrArg FileTree.mk (insert_insert tree.entries)

theorem entry?_eq_lookup (h : location ≠ []) :
    tree.entry? location = tree.entries.lookup location := by
  cases location with
  | nil => exact absurd rfl h
  | cons name names => rfl

theorem entry?_set_self (h : location ≠ []) :
    entry? (tree.set location entry) location = some entry := by
  rw [entry?_eq_lookup h]
  exact lookup_insert_self location entry tree.entries

theorem entry?_set_of_ne {l : Location} (h : l ≠ location) :
    entry? (tree.set location entry) l = tree.entry? l := by
  cases l with
  | nil => rfl
  | cons name names => exact lookup_insert_of_ne h tree.entries

theorem ne_of_directory (h : tree.entry? location ≠ some .directory)
    (hhere : tree.entry? here = some .directory) : here ≠ location := by
  rintro rfl
  exact h hhere

-- A walk goes on only from directories, and the place of the new entry was none.
theorem walk_set {names : List Text} {place : Location}
    (h : tree.entry? location ≠ some .directory) (hwalk : tree.walk here names = .ok place) :
    (tree.set location entry).walk here names = .ok place := by
  fun_induction walk tree here names with
  | case1 here => exact hwalk
  | case2 here name rest hhere => cases hwalk
  | case3 here name rest content hhere => cases hwalk
  | case4 here name rest hhere hname ih =>
    simp only [walk, entry?_set_of_ne (ne_of_directory h hhere), hhere, if_pos hname]
    exact ih hwalk
  | case5 here rest hhere hname ih =>
    simp only [walk, entry?_set_of_ne (ne_of_directory h hhere), hhere, if_neg hname, if_true]
    exact ih hwalk
  | case6 here name rest hhere hname hup ih =>
    simp only [walk, entry?_set_of_ne (ne_of_directory h hhere), hhere, if_neg hname, if_neg hup]
    exact ih hwalk

theorem locate_set {path : Text} {place : Location}
    (h : tree.entry? location ≠ some .directory) (hplace : tree.locate directory path = .ok place) :
    (tree.set location entry).locate directory path = .ok place := by
  unfold locate at hplace ⊢
  split at hplace
  · cases hplace
  · rename_i hpath
    rw [if_neg hpath]
    exact walk_set h hplace

theorem write_eq_ok {path text : Text} (h : tree.write directory path text = .ok tree') :
    ∃ place, tree.locate directory path = .ok place ∧ tree.entry? place ≠ some .directory ∧
      tree' = tree.set place (.file (.text text)) := by
  unfold write at h
  cases hplace : tree.locate directory path with
  | error e =>
    rw [hplace] at h
    cases h
  | ok place =>
    rw [hplace] at h
    refine ⟨place, rfl, ?_⟩
    simp only [bind, Except.bind] at h
    split at h
    · cases h
    · rename_i hentry
      cases h
      exact ⟨hentry, rfl⟩

theorem read_of_write {path text : Text} (h : tree.write directory path text = .ok tree') :
    tree'.read directory path = .ok text := by
  obtain ⟨place, hplace, hentry, rfl⟩ := write_eq_ok h
  have hroot : place ≠ [] := by
    rintro rfl
    exact hentry rfl
  simp only [read, locate_set hentry hplace, bind, Except.bind, entry?_set_self hroot]

theorem mem_insert {e : Location × Entry} {es : List (Location × Entry)}
    (h : e ∈ set.insert location entry es) : e = (location, entry) ∨ e ∈ es := by
  induction es with
  | nil => exact Or.inl (List.mem_singleton.mp h)
  | cons first es ih =>
    obtain ⟨l, e'⟩ := first
    by_cases hl : l = location
    · rw [set.insert, if_pos hl] at h
      rcases List.mem_cons.mp h with hfirst | hrest
      · exact Or.inl hfirst
      · exact Or.inr (List.mem_cons_of_mem _ hrest)
    · rw [set.insert, if_neg hl] at h
      rcases List.mem_cons.mp h with hfirst | hrest
      · exact Or.inr (List.mem_cons.mpr (Or.inl hfirst))
      · exact (ih hrest).imp_right (List.mem_cons_of_mem _)

/-- A text has been written at a place, to which some path leads. -/
def Written (here : Location) (tree tree' : FileTree) (location : Location) : Prop :=
  ∃ path text, tree.locate here path = .ok location ∧ tree.write here path text = .ok tree'

theorem written_of_write {path text : Text} (h : tree.write here path text = .ok tree') :
    ∃ location, tree.locate here path = .ok location ∧ Written here tree tree' location := by
  obtain ⟨location, hlocate, -, -⟩ := write_eq_ok h
  exact ⟨location, hlocate, path, text, hlocate, h⟩

namespace Written

theorem eq_set (h : Written here tree tree' location) :
    tree.entry? location ≠ some .directory ∧ ∃ text, tree' = tree.set location (.file (.text text)) := by
  obtain ⟨path, text, hlocate, hwrite⟩ := h
  obtain ⟨place, hplace, hentry, hset⟩ := write_eq_ok hwrite
  cases hlocate.symm.trans hplace
  exact ⟨hentry, text, hset⟩

theorem entry?_of_ne {other : Location} (h : Written here tree tree' location)
    (hother : other ≠ location) : tree'.entry? other = tree.entry? other := by
  obtain ⟨-, text, rfl⟩ := h.eq_set
  exact entry?_set_of_ne hother

theorem entry?_self (h : Written here tree tree' location) :
    ∃ text, tree'.entry? location = some (.file (.text text)) := by
  obtain ⟨hentry, text, rfl⟩ := h.eq_set
  have hroot : location ≠ [] := by
    rintro rfl
    exact hentry rfl
  exact ⟨text, entry?_set_self hroot⟩

end Written

end FluentBuilder.FileTree
