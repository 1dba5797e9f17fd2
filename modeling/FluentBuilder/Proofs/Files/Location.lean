import FluentBuilder.Files.System
import FluentBuilder.Proofs.Files.Path
import FluentBuilder.Proofs.Files.Tree

namespace FluentBuilder.FileTree

open FluentBuilder.Path

variable {tree : FileTree} {here location place above : Location} {names : List Text} {name : Text}

/-- Every entry lies in a directory. -/
def Closed (tree : FileTree) : Prop :=
  ∀ e ∈ tree.entries, tree.entry? e.1.dropLast = some .directory

instance (tree : FileTree) : Decidable tree.Closed :=
  inferInstanceAs (Decidable (∀ e ∈ tree.entries, tree.entry? e.1.dropLast = some .directory))

def IsFile (tree : FileTree) (location : Location) : Prop :=
  (tree.entry? location).map Entry.kind = some .file

instance (tree : FileTree) (location : Location) : Decidable (tree.IsFile location) :=
  inferInstanceAs (Decidable ((tree.entry? location).map Entry.kind = some .file))

theorem entry?_dropLast {entry : Entry} (htree : tree.Closed)
    (h : tree.entry? location = some entry) :
    tree.entry? location.dropLast = some .directory := by
  by_cases hroot : location = []
  · rw [hroot]
    rfl
  · rw [entry?_eq_lookup hroot] at h
    obtain ⟨before, after, hentries, -⟩ := List.lookup_eq_some_iff.mp h
    have hmem : (location, entry) ∈ tree.entries := by
      rw [hentries]
      simp
    exact htree _ hmem

theorem entry?_of_prefix (htree : tree.Closed) (hplace : tree.entry? place = some .directory)
    (h : above <+: place) : tree.entry? above = some .directory := by
  induction place using List.reverseRecOn with
  | nil => rw [List.prefix_nil.mp h]; rfl
  | append_singleton place name ih =>
    rcases List.prefix_concat_iff.mp h with rfl | hprefix
    · exact hplace
    · have hdirectory := entry?_dropLast htree hplace
      rw [List.dropLast_concat] at hdirectory
      exact ih hdirectory hprefix

theorem walk_append (names more : List Text) :
    tree.walk here (names ++ more) = tree.walk here names >>= (tree.walk · more) := by
  fun_induction walk tree here names with
  | case1 here => rfl
  | case2 here name rest hhere =>
    rw [List.cons_append, walk, hhere]
    rfl
  | case3 here name rest content hhere =>
    rw [List.cons_append, walk, hhere]
    rfl
  | case4 here name rest hhere hname ih =>
    rw [List.cons_append, walk, hhere]
    simp only [hname, if_true, ih]
  | case5 here rest hhere hname ih =>
    rw [List.cons_append, walk, hhere]
    simp only [hname, if_true, if_false, ih]
  | case6 here name rest hhere hname hup ih =>
    rw [List.cons_append, walk, hhere]
    simp only [hname, hup, if_false, ih]

theorem walk_name (hhere : tree.entry? here = some .directory) (hname : IsName name) :
    tree.walk here [name] = .ok (here ++ [name]) := by
  obtain ⟨hempty, hdot, hdots, -⟩ := hname
  simp [walk, hhere, hempty, hdot, hdots]

theorem walk_names (hnames : ∀ name ∈ names, IsName name)
    (hdirectories : ∀ above, above <+: names → tree.entry? (here ++ above) = some .directory) :
    tree.walk here names = .ok (here ++ names) := by
  induction names using List.reverseRecOn with
  | nil => simp [walk]
  | append_singleton names name ih =>
    have hprefix : names <+: names ++ [name] := List.prefix_append names [name]
    have hbefore : tree.walk here names = .ok (here ++ names) := by
      apply ih
      · intro n hn
        exact hnames n (List.mem_append_left _ hn)
      · intro above habove
        exact hdirectories above (habove.trans hprefix)
    have hlast : tree.walk (here ++ names) [name] = .ok (here ++ names ++ [name]) :=
      walk_name (hdirectories names hprefix) (hnames name (by simp))
    rw [walk_append, hbefore, ← List.append_assoc]
    exact hlast

theorem walk_last (htree : tree.Closed) (h : tree.walk here [name] = .ok location) :
    tree.entry? location = some .directory ∨ location = here ++ [name] := by
  have hwalk : tree.walk here [name] = .ok location := h
  unfold walk at hwalk
  split at hwalk
  · cases hwalk
  · cases hwalk
  · rename_i hhere
    simp only [walk] at hwalk
    split_ifs at hwalk with hstay hup
    · cases hwalk
      exact Or.inl hhere
    · cases hwalk
      exact Or.inl (entry?_dropLast htree hhere)
    · cases hwalk
      exact Or.inr rfl

-- The directory that a step starts from stays above the place that it leads to.
theorem walk_dropLast (htree : tree.Closed) (hhere : tree.entry? here.dropLast = some .directory)
    (h : tree.walk here names = .ok location) : tree.entry? location.dropLast = some .directory := by
  fun_induction walk tree here names with
  | case1 here =>
    cases h
    exact hhere
  | case2 here name rest hentry => cases h
  | case3 here name rest content hentry => cases h
  | case4 here name rest hentry hname ih => exact ih hhere h
  | case5 here rest hentry hname ih => exact ih (entry?_dropLast htree hhere) h
  | case6 here name rest hentry hname hup ih =>
    apply ih _ h
    rw [List.dropLast_concat]
    exact hentry

def start (here : Location) (path : Text) : Location :=
  if isAbsolute path then [] else here

theorem locate_eq_walk {path : Text} (h : path ≠ []) :
    tree.locate here path = tree.walk (start here path) (path.pieces '/') := by
  rw [locate, if_neg (by simpa using h), start]

/-- A path to something that is no directory ends with its name. -/
theorem locate_last {path : Text} (htree : tree.Closed)
    (hpath : path.pieces '/' = names ++ [name]) (h : tree.locate here path = .ok location) :
    tree.entry? location = some .directory ∨ ∃ above, location = above ++ [name] := by
  have hne : path ≠ [] := by
    rintro rfl
    cases h
  rw [locate_eq_walk hne, hpath, walk_append] at h
  cases hwalk : tree.walk (start here path) names with
  | error e =>
    rw [hwalk] at h
    cases h
  | ok above =>
    rw [hwalk] at h
    rcases walk_last htree h with hdirectory | rfl
    · exact Or.inl hdirectory
    · exact Or.inr ⟨above, rfl⟩

theorem locate_ofNames (htree : tree.Closed) (hplace : ∀ name ∈ place, IsName name)
    (hdirectory : tree.entry? place = some .directory) :
    tree.locate here (ofNames true place) = .ok place := by
  have hwalk : tree.walk [] place = .ok ([] ++ place) := by
    refine walk_names hplace ?_
    intro above habove
    exact entry?_of_prefix htree hdirectory habove
  by_cases hne : place = []
  · subst hne
    rfl
  · rw [locate_eq_walk (by simp [ofNames]), pieces_ofNames hplace hne]
    simpa [walk, start, ofNames, isAbsolute, entry?] using hwalk

theorem find?_of_locate {path : Text} (h : tree.locate here path = .ok location) :
    tree.find? here path = tree.entry? location := by
  rw [find?, h]

theorem write_of_locate {path text : Text} (h : tree.locate here path = .ok location) :
    tree.write here path text =
      if tree.entry? location = some .directory then .error .isDirectory
      else .ok (tree.set location (.file (.text text))) := by
  rw [write, h]
  simp only [bind, Except.bind]
  rcases tree.entry? location with _ | _ | content <;> rfl

section Again

variable {path text : Text} {tree' : FileTree}

theorem find?_of_write (h : tree.write here path text = .ok tree') :
    tree'.find? here path = some (.file (.text text)) := by
  obtain ⟨place, hplace, hentry, rfl⟩ := write_eq_ok h
  have hroot : place ≠ [] := by
    rintro rfl
    exact hentry rfl
  rw [find?_of_locate (locate_set hentry hplace), entry?_set_self hroot]

/-- A text that has been written may be written again, and nothing changes. -/
theorem write_again (h : tree.write here path text = .ok tree') :
    tree'.write here path text = .ok tree' := by
  have hfound := find?_of_write h
  obtain ⟨place, hplace, hentry, rfl⟩ := write_eq_ok h
  have hagain : (tree.set place (.file (.text text))).locate here path = .ok place :=
    locate_set hentry hplace
  rw [find?_of_locate hagain] at hfound
  rw [write_of_locate hagain, hfound, if_neg nofun, set_set]

theorem find?_directory_of_write {directory : Text} (h : tree.write here path text = .ok tree')
    (hdirectory : tree.find? here directory = some .directory) :
    tree'.find? here directory = some .directory := by
  obtain ⟨place, -, hentry, rfl⟩ := write_eq_ok h
  rw [find?] at hdirectory
  split at hdirectory
  · rename_i reached hreached
    rw [find?_of_locate (locate_set hentry hreached),
      entry?_set_of_ne (ne_of_directory hentry hdirectory)]
    exact hdirectory
  · cases hdirectory

end Again

theorem locate_dropLast {path : Text} (htree : tree.Closed)
    (hhere : tree.entry? here = some .directory) (h : tree.locate here path = .ok location) :
    tree.entry? location.dropLast = some .directory := by
  have hne : path ≠ [] := by
    rintro rfl
    cases h
  rw [locate_eq_walk hne] at h
  refine walk_dropLast htree ?_ h
  unfold start
  split
  · rfl
  · exact entry?_dropLast htree hhere

theorem isAbsolute_append {s t t' : Text} (h : t.head? = t'.head?) :
    isAbsolute (s ++ t) = isAbsolute (s ++ t') := by
  simp only [isAbsolute, List.head?_append, h]

theorem walk_trailing (h : tree.walk here (names ++ [[]]) = .ok place) :
    tree.walk here names = .ok place := by
  rw [walk_append] at h
  cases hwalk : tree.walk here names with
  | error e =>
    rw [hwalk] at h
    cases h
  | ok reached =>
    rw [hwalk] at h
    have hlast : tree.walk reached [[]] = .ok place := h
    simp only [walk, true_or, if_true] at hlast
    split at hlast <;> cases hlast
    rfl

/-- The file with a name in the directory that a path leads to. -/
theorem locate_join {directory : Text} (hplace : tree.locate here directory = .ok place)
    (hdirectory : tree.entry? place = some .directory) (hname : IsName name) :
    tree.locate here (join directory name) = .ok (place ++ [name]) := by
  have hne : directory ≠ [] := by
    rintro rfl
    cases hplace
  rw [locate_eq_walk hne] at hplace
  have hpieces : Text.pieces '/' name = [name] := Text.pieces_of_not_mem hname.2.2.2
  -- A slash at the end of the directory is the one before the name.
  obtain ⟨before, hjoin, hstart, hwalk⟩ : ∃ before, join directory name = before ++ '/' :: name ∧
      start here (before ++ '/' :: name) = start here directory ∧
      tree.walk (start here directory) (before.pieces '/') = .ok place := by
    by_cases hslash : directory.getLast? = some '/'
    · obtain ⟨before, rfl⟩ : ∃ before, directory = before ++ ['/'] :=
        ⟨directory.dropLast, (List.dropLast_append_getLast? _ hslash).symm⟩
      refine ⟨before, ?_, ?_, ?_⟩
      · simp [join]
      · have hhead : isAbsolute (before ++ '/' :: name) = isAbsolute (before ++ ['/']) :=
          isAbsolute_append rfl
        rw [start, start, hhead]
      · rw [Text.pieces_append_cons] at hplace
        exact walk_trailing hplace
    · refine ⟨directory, ?_, ?_, hplace⟩
      · simp [join, hne, hslash]
      · have hhead : isAbsolute (directory ++ '/' :: name) = isAbsolute directory := by
          rw [isAbsolute, isAbsolute, List.head?_append_of_ne_nil _ hne]
        rw [start, start, hhead]
  have hjoined : before ++ '/' :: name ≠ [] := by simp
  rw [hjoin, locate_eq_walk hjoined, hstart, Text.pieces_append_cons, hpieces, walk_append, hwalk]
  exact walk_name hdirectory hname

/-- Writing leaves every entry in a directory. -/
theorem Written.closed {tree' : FileTree} (h : Written here tree tree' location) (htree : tree.Closed)
    (hhere : tree.entry? here = some .directory) : tree'.Closed := by
  obtain ⟨hentry, text, rfl⟩ := h.eq_set
  obtain ⟨path, -, hlocate, -⟩ := h
  have hplace : tree.entry? location.dropLast = some .directory :=
    locate_dropLast htree hhere hlocate
  intro e he
  have hdirectory : tree.entry? e.1.dropLast = some .directory := by
    rcases mem_insert he with rfl | hold
    · exact hplace
    · exact htree e hold
  rw [entry?_set_of_ne (ne_of_directory hentry hdirectory)]
  exact hdirectory

end FluentBuilder.FileTree
