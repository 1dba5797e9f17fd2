import FluentBuilder.Proofs.Builder.Document
import FluentBuilder.Proofs.Text.Pieces
import Mathlib.Data.List.Basic

namespace FluentBuilder

variable {s : ClassSettings}

def Member.OnOneLine (m : Member) : Prop :=
  '\n' ∉ m.name ∧ '\n' ∉ m.type

instance (m : Member) : Decidable m.OnOneLine :=
  inferInstanceAs (Decidable (_ ∧ _))

-- The name stands twice in an entry, so the length of the entry gives the length of the name.
theorem Member.name_eq_of_entry {m m' : Member} (h : m.entry = m'.entry) : m.name = m'.name := by
  have hentry := congrArg List.length h
  simp only [entry, List.length_append] at hentry
  have hlength : m.name.length = m'.name.length := by
    clear h
    omega
  simp only [entry, List.append_assoc] at h
  exact List.append_inj_left h hlength

-- What follows the name starts with a question mark or with a colon.
theorem marked_type_inj {type type' : Text} {optional optional' : Bool}
    (h : (if optional then ['?'] else []) ++ (": ".toList ++ type) =
      (if optional' then ['?'] else []) ++ (": ".toList ++ type')) :
    optional = optional' ∧ type = type' := by
  have hcolon : ": ".toList = [':', ' '] := rfl
  rw [hcolon] at h
  cases optional <;> cases optional'
  · simpa using h
  · simp at h
  · simp at h
  · simpa using h

theorem Member.eq_of_definition_entry {m m' : Member} (hdefinition : m.definition s = m'.definition s)
    (hentry : m.entry = m'.entry) : m = m' := by
  have hname := name_eq_of_entry hentry
  unfold definition at hdefinition
  rw [hname] at hdefinition
  have hfront := List.append_cancel_right (List.append_cancel_right hdefinition)
  simp only [List.append_assoc] at hfront
  obtain ⟨hoptional, htype⟩ :=
    marked_type_inj (List.append_cancel_left (List.append_cancel_left hfront))
  cases m
  cases m'
  congr

namespace Fragments

theorem ofMembers_inj {members members' : List Member}
    (hdefinitions : (ofMembers s members).definitions = (ofMembers s members').definitions)
    (hentries : (ofMembers s members).entries = (ofMembers s members').entries) :
    members = members' := by
  simp only [ofMembers] at hdefinitions hentries
  induction members generalizing members' with
  | nil => simpa using hentries
  | cons m members ih =>
    cases members' with
    | nil => simp at hentries
    | cons m' members' =>
      simp only [List.map_cons, List.cons.injEq] at hdefinitions hentries
      rw [Member.eq_of_definition_entry hdefinitions.1 hentries.1, ih hdefinitions.2 hentries.2]

section Lines

variable {indent aliasName : Text} {entries entries' : List Text} {f : Fragments}

theorem entryLines_cons (entry : Text) (h : entries ≠ []) :
    entryLines indent (entry :: entries) =
      (indent ++ entry ++ [',']) :: entryLines indent entries := by
  obtain ⟨next, rest, rfl⟩ := List.exists_cons_of_ne_nil h
  rfl

theorem length_entryLines (indent : Text) (entries : List Text) :
    (entryLines indent entries).length = entries.length := by
  fun_induction entryLines indent entries with
  | case1 => rfl
  | case2 entry => rfl
  | case3 entry rest hrest ih => rw [List.length_cons, ih, List.length_cons]

theorem entryLines_inj (h : entryLines indent entries = entryLines indent entries') :
    entries = entries' := by
  have hlength : entries.length = entries'.length := by
    rw [← length_entryLines indent, h, length_entryLines]
  fun_induction entryLines indent entries generalizing entries' with
  | case1 => exact (List.length_eq_zero_iff.mp hlength.symm).symm
  | case2 entry =>
    obtain ⟨entry', rfl⟩ := List.length_eq_one_iff.mp hlength.symm
    simpa [entryLines] using h
  | case3 entry rest hrest ih =>
    obtain ⟨entry', rest', rfl⟩ := List.exists_cons_of_length_eq_add_one hlength.symm
    have hrests : rest.length = rest'.length := by simpa using hlength
    have hne : rest' ≠ [] := by
      rintro rfl
      exact hrest (List.length_eq_zero_iff.mp hrests)
    rw [entryLines_cons entry' hne, List.cons.injEq] at h
    rw [List.append_cancel_left (List.append_cancel_right h.1), ih h.2 hrests]

theorem mem_entryLines {c : Char} {line : Text} (hline : line ∈ entryLines indent entries)
    (hc : c ∈ line) : c ∈ indent ∨ c = ',' ∨ ∃ entry ∈ entries, c ∈ entry := by
  fun_induction entryLines indent entries with
  | case1 => cases hline
  | case2 entry =>
    rw [List.mem_singleton] at hline
    subst hline
    rcases List.mem_append.mp hc with hc | hc
    · exact .inl hc
    · exact .inr (.inr ⟨entry, by simp, hc⟩)
  | case3 entry rest hrest ih =>
    rcases List.mem_cons.mp hline with rfl | hline
    · simp only [List.mem_append, List.mem_singleton, or_assoc] at hc
      rcases hc with hc | hc | hc
      · exact .inl hc
      · exact .inr (.inr ⟨entry, by simp, hc⟩)
      · exact .inr (.inl hc)
    · rcases ih hline with hc | hc | ⟨entry', hentry, hc⟩
      · exact .inl hc
      · exact .inr (.inl hc)
      · exact .inr (.inr ⟨entry', by simp [hentry], hc⟩)

end Lines

def fieldLines (aliasName : Text) (f : Fragments) (s : ClassSettings) : List Text :=
  ((if s.exportClass then "export ".toList else []) ++ "class ".toList ++ aliasName ++
      "Builder \x7b".toList) ::
    f.definitions.map (s.indent ++ ·)

def buildLines (aliasName : Text) (f : Fragments) (s : ClassSettings) : List Text :=
  [s.indent ++ "public build(): ".toList ++ aliasName ++ " \x7b".toList,
      s.indent ++ s.indent ++ "return \x7b".toList] ++
    entryLines (s.indent ++ s.indent ++ s.indent) f.entries

def closingLines (f : Fragments) (s : ClassSettings) : List Text :=
  [s.indent ++ s.indent ++ ['}'], s.indent ++ ['}']] ++
    f.setters.flatMap (fun setter => [] :: (Text.lines setter).map (indentLine s.indent)) ++ [['}']]

/-- Every field and every entry fits on a line of its own, and no field is empty. -/
structure OnOneLine (f : Fragments) : Prop where
  empty_not_mem : [] ∉ f.definitions
  definitions : ∀ definition ∈ f.definitions, '\n' ∉ definition
  entries : ∀ entry ∈ f.entries, '\n' ∉ entry

section Text

variable {aliasName : Text} {f : Fragments}

theorem classLines_eq :
    classLines aliasName f s =
      fieldLines aliasName f s ++ ([] :: buildLines aliasName f s) ++ closingLines f s := by
  simp only [classLines, fieldLines, buildLines, closingLines, List.append_assoc, List.cons_append,
    List.nil_append]

theorem classText_eq :
    f.classText aliasName s =
      Text.unlines (fieldLines aliasName f s) ++
        '\n' :: (Text.unlines (buildLines aliasName f s) ++ Text.unlines (closingLines f s)) := by
  change Text.unlines (classLines aliasName f s) = _
  rw [classLines_eq, Text.unlines_append, Text.unlines_append, List.append_assoc]
  rfl

theorem empty_not_mem_fieldLines (hf : f.OnOneLine) : [] ∉ fieldLines aliasName f s := by
  have hbuilder : "Builder \x7b".toList ≠ [] := by decide
  intro hmem
  rcases List.mem_cons.mp hmem with hheader | hfield
  · exact hbuilder (List.append_eq_nil_iff.mp hheader.symm).2
  · obtain ⟨definition, hdefinition, hempty⟩ := List.mem_map.mp hfield
    rw [(List.append_eq_nil_iff.mp hempty).2] at hdefinition
    exact hf.empty_not_mem hdefinition

theorem lf_not_mem_indent : '\n' ∉ s.indent := by
  intro h
  exact absurd (List.eq_of_mem_replicate h) (by decide)

theorem lf_not_mem_fieldLines (halias : '\n' ∉ aliasName) (hf : f.OnOneLine) :
    ∀ line ∈ fieldLines aliasName f s, '\n' ∉ line := by
  have hexport : '\n' ∉ if s.exportClass then "export ".toList else [] := by
    cases s.exportClass <;> decide
  have hclass : '\n' ∉ "class ".toList := by decide
  have hbuilder : '\n' ∉ "Builder \x7b".toList := by decide
  intro line hline
  rcases List.mem_cons.mp hline with rfl | hline
  · simp only [List.mem_append, hexport, hclass, halias, hbuilder, or_self, not_false_eq_true]
  · obtain ⟨definition, hdefinition, rfl⟩ := List.mem_map.mp hline
    simp only [List.mem_append, lf_not_mem_indent, hf.definitions definition hdefinition, or_self,
      not_false_eq_true]

theorem lf_not_mem_buildLines (halias : '\n' ∉ aliasName) (hf : f.OnOneLine) :
    ∀ line ∈ buildLines aliasName f s, '\n' ∉ line := by
  have hbuild : '\n' ∉ "public build(): ".toList := by decide
  have hbrace : '\n' ∉ " \x7b".toList := by decide
  have hreturn : '\n' ∉ "return \x7b".toList := by decide
  intro line hline
  rcases List.mem_append.mp hline with hline | hline
  · rcases List.mem_pair.mp hline with rfl | rfl
    · simp only [List.mem_append, lf_not_mem_indent, hbuild, halias, hbrace, or_self,
        not_false_eq_true]
    · simp only [List.mem_append, lf_not_mem_indent, hreturn, or_self, not_false_eq_true]
  · intro hlf
    rcases mem_entryLines hline hlf with hindent | hcomma | ⟨entry, hentry, hlf⟩
    · simp [lf_not_mem_indent] at hindent
    · exact absurd hcomma (by decide)
    · exact hf.entries entry hentry hlf

/-- Cut at its line ends, a class has its fields and `build` around its first empty line. -/
theorem pieces_classText (halias : '\n' ∉ aliasName) (hf : f.OnOneLine) :
    (f.classText aliasName s).pieces '\n' =
      fieldLines aliasName f s ++
        [] :: (buildLines aliasName f s ++ (Text.unlines (closingLines f s)).pieces '\n') := by
  have hempty : ∀ t : Text, Text.pieces '\n' ('\n' :: t) = [] :: t.pieces '\n' := fun _ => rfl
  rw [classText_eq, Text.pieces_unlines_append (lf_not_mem_fieldLines halias hf), hempty,
    Text.pieces_unlines_append (lf_not_mem_buildLines halias hf)]

end Text

theorem append_empty_inj {ls ls' rest rest' : List Text} (hls : [] ∉ ls) (hls' : [] ∉ ls')
    (h : ls ++ [] :: rest = ls' ++ [] :: rest') : ls = ls' ∧ rest = rest' := by
  have hlength : ls.length = ls'.length := by
    have hindex := congrArg (List.idxOf []) h
    simpa [List.idxOf_append_of_notMem hls, List.idxOf_append_of_notMem hls'] using hindex
  obtain ⟨hfirst, hrest⟩ := List.append_inj h hlength
  exact ⟨hfirst, (List.cons.inj hrest).2⟩

variable {aliasName aliasName' : Text}

theorem fieldLines_inj {f f' : Fragments}
    (h : fieldLines aliasName f s = fieldLines aliasName' f' s) :
    aliasName = aliasName' ∧ f.definitions = f'.definitions := by
  obtain ⟨hheader, hdefinitions⟩ := List.cons.inj h
  have hindent : Function.Injective (s.indent ++ ·) := fun _ _ => List.append_cancel_left
  exact ⟨List.append_cancel_left (List.append_cancel_right hheader),
    List.map_injective_iff.mpr hindent hdefinitions⟩

theorem buildLines_inj {f f' : Fragments} {rest rest' : List Text}
    (hlength : f.entries.length = f'.entries.length)
    (h : buildLines aliasName f s ++ rest = buildLines aliasName f' s ++ rest') :
    f.entries = f'.entries := by
  have hlines : (buildLines aliasName f s).length = (buildLines aliasName f' s).length := by
    simp [buildLines, length_entryLines, hlength]
  exact entryLines_inj (List.append_cancel_left (List.append_inj_left h hlines))

theorem classText_inj {f f' : Fragments} (hf : f.OnOneLine) (hf' : f'.OnOneLine)
    (hentries : f.entries.length = f.definitions.length)
    (hentries' : f'.entries.length = f'.definitions.length)
    (halias : '\n' ∉ aliasName) (halias' : '\n' ∉ aliasName')
    (h : f.classText aliasName s = f'.classText aliasName' s) :
    aliasName = aliasName' ∧ f.definitions = f'.definitions ∧ f.entries = f'.entries := by
  have hpieces := congrArg (Text.pieces '\n') h
  rw [pieces_classText halias hf, pieces_classText halias' hf'] at hpieces
  obtain ⟨hfields, hrest⟩ := append_empty_inj (empty_not_mem_fieldLines hf)
    (empty_not_mem_fieldLines hf') hpieces
  obtain ⟨rfl, hdefinitions⟩ := fieldLines_inj hfields
  have hlength : f.entries.length = f'.entries.length := by
    rw [hentries, hentries', hdefinitions]
  exact ⟨rfl, hdefinitions, buildLines_inj hlength hrest⟩

variable {members members' : List Member}

theorem empty_not_mem_definitions : [] ∉ (ofMembers s members).definitions := by
  intro hmem
  obtain ⟨m, -, hempty⟩ := List.mem_map.mp hmem
  have hequals : " = ".toList = [] :=
    (List.append_eq_nil_iff.mp (List.append_eq_nil_iff.mp hempty).1).2
  exact absurd hequals (by decide)

theorem onOneLine_ofMembers (hinitializer : '\n' ∉ s.fieldInitializer)
    (hmembers : ∀ m ∈ members, m.OnOneLine) : (ofMembers s members).OnOneLine where
  empty_not_mem := empty_not_mem_definitions
  definitions := by
    have hprivate : '\n' ∉ "private ".toList := by decide
    have hcolon : '\n' ∉ ": ".toList := by decide
    have hequals : '\n' ∉ " = ".toList := by decide
    intro definition hdefinition
    obtain ⟨m, hm, rfl⟩ := List.mem_map.mp hdefinition
    have hmark : '\n' ∉ if m.optional then ['?'] else [] := by
      cases m.optional <;> decide
    unfold Member.definition
    simp only [List.mem_append, hprivate, (hmembers m hm).1, hmark, hcolon, (hmembers m hm).2,
      hequals, hinitializer, or_self, not_false_eq_true]
  entries := by
    have hthis : '\n' ∉ ": this.".toList := by decide
    intro entry hentry
    obtain ⟨m, hm, rfl⟩ := List.mem_map.mp hentry
    simp only [Member.entry, List.mem_append, (hmembers m hm).1, hthis, or_self, not_false_eq_true]

/-- Two classes with the same settings are the same text only if they belong to the same alias and the
same members, in the same order. -/
theorem classText_ofMembers_eq_iff (hinitializer : '\n' ∉ s.fieldInitializer)
    (halias : '\n' ∉ aliasName) (halias' : '\n' ∉ aliasName')
    (hmembers : ∀ m ∈ members, m.OnOneLine) (hmembers' : ∀ m ∈ members', m.OnOneLine) :
    (ofMembers s members).classText aliasName s = (ofMembers s members').classText aliasName' s ↔
      aliasName = aliasName' ∧ members = members' := by
  constructor
  · intro h
    have hlength : ∀ ms, (ofMembers s ms).entries.length = (ofMembers s ms).definitions.length := by
      simp [ofMembers]
    obtain ⟨hname, hdefinitions, hentries⟩ :=
      classText_inj (onOneLine_ofMembers hinitializer hmembers)
        (onOneLine_ofMembers hinitializer hmembers') (hlength _) (hlength _) halias halias' h
    exact ⟨hname, ofMembers_inj hdefinitions hentries⟩
  · rintro ⟨rfl, rfl⟩
    rfl

/-- An optional member and a required one with the question mark in its name have the same field, and
the classes still differ. -/
theorem classText_ofMembers_ne_marked :
    '\n' ∉ ClassSettings.fieldInitializer {} ∧ '\n' ∉ "T".toList ∧
      Member.OnOneLine { name := "a".toList, type := "b".toList, optional := true } ∧
      Member.OnOneLine { name := "a?".toList, type := "b".toList } ∧
      Member.definition { name := "a".toList, type := "b".toList, optional := true } {} =
        Member.definition { name := "a?".toList, type := "b".toList } {} ∧
      (ofMembers {} [{ name := "a".toList, type := "b".toList, optional := true }]).classText
          "T".toList {} ≠
        (ofMembers {} [{ name := "a?".toList, type := "b".toList }]).classText "T".toList {} := by
  refine ⟨by decide, by decide, by decide, by decide, by decide, ?_⟩
  intro h
  have hsame := (classText_ofMembers_eq_iff (by decide) (by decide) (by decide) (by decide)
    (by decide)).mp h
  exact absurd hsame.2 (by decide)

/-- The header of `build` is a method signature, whatever stands around it. -/
theorem hasMethod_classText (aliasName : Text) (f : Fragments) (s : ClassSettings) :
    Alias.hasMethod (f.classText aliasName s) := by
  have hcall : Alias.hasMethod "build():".toList := by decide
  have hsplit : "public build(): ".toList = "public ".toList ++ ("build():".toList ++ [' ']) := rfl
  have hheader : "build():".toList <:+:
      s.indent ++ "public build(): ".toList ++ aliasName ++ " \x7b".toList := by
    refine ⟨s.indent ++ "public ".toList, ' ' :: (aliasName ++ " \x7b".toList), ?_⟩
    simp only [hsplit, List.append_assoc, List.cons_append, List.nil_append]
  have hline : s.indent ++ "public build(): ".toList ++ aliasName ++ " \x7b".toList ∈
      classLines aliasName f s := by
    rw [classLines_eq]
    simp [buildLines]
  exact Alias.hasMethod_of_infix (hheader.trans (Text.isInfix_unlines hline)) hcall

end Fragments

/-- No class is a document that a builder is made from, neither one laid out from any fragments nor
the class of a builder, under whatever settings either of them was made. -/
theorem Builder.ofDocument_classText (s s' : ClassSettings) :
    (∀ (aliasName : Text) (f : Fragments),
      Builder.ofDocument s' (f.classText aliasName s) = .error .methodsNotSupported) ∧
    ∀ (document : Text) (b : Builder), Builder.ofDocument s document = .ok b →
      Builder.ofDocument s' b.classText = .error .methodsNotSupported := by
  have hrefused : ∀ (aliasName : Text) (f : Fragments),
      Builder.ofDocument s' (f.classText aliasName s) = .error .methodsNotSupported :=
    fun aliasName f => ofDocument_of_hasMethod (Fragments.hasMethod_classText aliasName f s)
  refine ⟨hrefused, ?_⟩
  intro document b h
  obtain ⟨aliasName, members, rfl⟩ := exists_ofMembers_of_ofDocument h
  exact hrefused aliasName (Fragments.ofMembers s members)

/-- A class in one style is refused in another style too. -/
theorem Builder.ofDocument_classText_restyled :
    ∃ b, Builder.ofDocument {} "export type T = \x7b a: b \x7d".toList = .ok b ∧
      Builder.ofDocument { setterCase := .pascal, indentWidth := 0 } b.classText =
        .error .methodsNotSupported := by
  have hmade : Builder.ofDocument {} "export type T = \x7b a: b \x7d".toList =
      .ok (ofMembers {} "T".toList [{ name := "a".toList, type := "b".toList }]) := by
    decide +kernel
  exact ⟨_, hmade, (Builder.ofDocument_classText {} _).2 _ _ hmade⟩

end FluentBuilder
