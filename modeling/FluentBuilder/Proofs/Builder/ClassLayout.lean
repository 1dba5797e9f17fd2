import FluentBuilder.Proofs.Alias.FirstName
import FluentBuilder.Proofs.Alias.Shape
import FluentBuilder.Proofs.Builder.ClassText
import FluentBuilder.Proofs.PascalCase

namespace FluentBuilder

open Unicode

/-- A line of a class: the number of blocks around it, and its text without indentation. -/
structure Line where
  depth : Nat
  text : Text

def Line.written (indent : Text) (l : Line) : Text :=
  if l.text = [] then [] else (List.replicate l.depth indent).flatten ++ l.text

def Line.deeper (l : Line) : Line :=
  { l with depth := l.depth + 1 }

def block (opening : Text) (body : List Line) : List Line :=
  ⟨0, opening ++ " \x7b".toList⟩ :: body.map Line.deeper ++ [⟨0, ['}']⟩]

def plain (ts : List Text) : List Line :=
  ts.map (⟨0, ·⟩)

def commaSeparated (ts : List Text) : List Text :=
  ts.dropLast.map (· ++ [',']) ++ ts.getLast?.toList

def Member.setterBlock (m : Member) (s : ClassSettings) : List Line :=
  block ("public ".toList ++ s.setterName m.name ++ "(value: ".toList ++ m.type ++ [')']) <|
    plain ["this.".toList ++ m.name ++ " = value".toList, "return this".toList]

def buildBlock (aliasName : Text) (members : List Member) : List Line :=
  block ("public build(): ".toList ++ aliasName) <|
    block "return".toList (plain (commaSeparated (members.map Member.entry)))

/-- The class for an alias: its fields, `build`, and a setter for each member, with an empty line before
`build` and before each setter. -/
def classBlock (aliasName : Text) (members : List Member) (s : ClassSettings) : List Line :=
  block ((if s.exportClass then "export ".toList else []) ++ "class ".toList ++ aliasName ++
      "Builder".toList) <|
    plain (members.map (·.definition s)) ++ (plain [[]] ++ buildBlock aliasName members) ++
      members.flatMap fun m => plain [[]] ++ m.setterBlock s

/-- The lines of a class with one field. -/
example : (classBlock "T".toList [{ name := "a".toList, type := "b".toList }] {}).map
    (fun l => (l.depth, l.text)) =
      [(0, "export class TBuilder \x7b".toList),
        (1, "private a: b = undefined".toList),
        (1, []),
        (1, "public build(): T \x7b".toList),
        (2, "return \x7b".toList),
        (3, "a: this.a".toList),
        (2, ['}']),
        (1, ['}']),
        (1, []),
        (1, "public withA(value: b) \x7b".toList),
        (2, "this.a = value".toList),
        (2, "return this".toList),
        (1, ['}']),
        (0, ['}'])] := by
  decide

theorem length_block (opening : Text) (body : List Line) :
    (block opening body).length = body.length + 2 := by
  simp [block]

theorem length_plain (ts : List Text) : (plain ts).length = ts.length :=
  List.length_map _

theorem length_commaSeparated (ts : List Text) : (commaSeparated ts).length = ts.length := by
  rcases List.eq_nil_or_concat' ts with rfl | ⟨ts, t, rfl⟩
  · rfl
  · simp [commaSeparated]

theorem length_classBlock (aliasName : Text) (members : List Member) (s : ClassSettings) :
    (classBlock aliasName members s).length = 7 * members.length + 7 := by
  have hsetters : (members.flatMap fun m => plain [[]] ++ m.setterBlock s).length =
      members.length * 5 := by
    simp [Member.setterBlock, length_block, length_plain]
  simp only [classBlock, buildBlock, length_block, length_plain, length_commaSeparated,
    List.length_append, List.length_map, List.length_singleton, hsetters]
  omega

open Fragments

section Written

variable {indent : Text} {l : Line}

theorem written_deeper : l.deeper.written indent = indentLine indent (l.written indent) := by
  unfold Line.written Line.deeper indentLine
  by_cases h : l.text = []
  · simp [h]
  · simp [h, List.replicate_succ]

theorem written_plain (ts : List Text) : (plain ts).map (Line.written indent) = ts := by
  have hwritten : Line.written indent ∘ (⟨0, ·⟩) = id := by
    funext t
    by_cases h : t = [] <;> simp [Line.written, h]
  rw [plain, List.map_map, hwritten, List.map_id]

theorem written_block (opening : Text) (body : List Line) :
    (block opening body).map (Line.written indent) = (opening ++ " \x7b".toList) ::
      (body.map (Line.written indent)).map (indentLine indent) ++ [['}']] := by
  have hends : block opening body =
      plain [opening ++ " \x7b".toList] ++ body.map Line.deeper ++ plain [['}']] := rfl
  have hbody : Line.written indent ∘ Line.deeper = indentLine indent ∘ Line.written indent :=
    funext fun l => written_deeper
  rw [hends, List.map_append, List.map_append, written_plain, written_plain, List.map_map, hbody,
    List.map_map, List.cons_append, List.nil_append]

theorem map_indentLine {ts : List Text} (h : [] ∉ ts) :
    ts.map (indentLine indent) = ts.map (indent ++ ·) := by
  refine List.map_congr_left fun t ht => ?_
  have hne : t ≠ [] := fun hnil => h (hnil ▸ ht)
  simp [indentLine, hne]

theorem empty_not_mem_commaSeparated {ts : List Text} (h : [] ∉ ts) : [] ∉ commaSeparated ts := by
  intro hempty
  rcases List.mem_append.mp hempty with hearlier | hlast
  · obtain ⟨t, -, ht⟩ := List.mem_map.mp hearlier
    exact List.concat_ne_nil ',' t ht
  · exact h (List.mem_of_getLast? (by simpa using hlast))

theorem entryLines_eq (ts : List Text) :
    entryLines indent ts = (commaSeparated ts).map (indent ++ ·) := by
  fun_induction entryLines indent ts with
  | case1 => rfl
  | case2 t => rfl
  | case3 t rest hrest ih =>
    obtain ⟨u, rest, rfl⟩ := List.exists_cons_of_ne_nil hrest
    rw [ih]
    simp [commaSeparated]

end Written

section Class

variable {s : ClassSettings} {aliasName : Text} {m : Member} {members : List Member}

theorem ClassSettings.lf_not_mem_setterName {property : Text} (hstart : '\n' ∉ s.setterPrefix)
    (hproperty : '\n' ∉ property) : '\n' ∉ s.setterName property := by
  unfold setterName
  rw [List.mem_append, not_or]
  refine ⟨hstart, ?_⟩
  cases s.setterCase with
  | pascal => exact PascalCase.lf_not_mem_convert hproperty
  | capitalize =>
    cases property with
    | nil => exact hproperty
    | cons c rest =>
      obtain ⟨hc, hrest⟩ := List.ne_and_not_mem_of_not_mem_cons hproperty
      simp only [capitalize, List.mem_append, lf_not_mem_upperCase hc.symm, hrest, or_self,
        not_false_eq_true]

theorem setter_eq_unlines (m : Member) (s : ClassSettings) :
    m.setter s = Text.unlines [
      "public ".toList ++ s.setterName m.name ++ "(value: ".toList ++ m.type ++ ") \x7b".toList,
      s.indent ++ ("this.".toList ++ m.name ++ " = value".toList),
      s.indent ++ "return this".toList] ++ ['}'] := by
  have hopening : ") \x7b\n".toList = ") \x7b".toList ++ ['\n'] := by simp
  have hassignment : " = value\n".toList = " = value".toList ++ ['\n'] := by simp
  have hresult : "return this\n\x7d".toList = "return this".toList ++ (['\n'] ++ ['}']) := by simp
  unfold Member.setter Text.unlines
  rw [hopening, hassignment, hresult, List.flatMap_cons, List.flatMap_cons, List.flatMap_cons,
    List.flatMap_nil]
  simp only [List.append_assoc, List.append_nil]

/-- A setter keeps to its four lines, whatever the name and the type of the member. -/
theorem lines_setter (hstart : '\n' ∉ s.setterPrefix) (hm : m.OnOneLine) :
    Text.lines (m.setter s) = [
      "public ".toList ++ s.setterName m.name ++ "(value: ".toList ++ m.type ++ ") \x7b".toList,
      s.indent ++ ("this.".toList ++ m.name ++ " = value".toList),
      s.indent ++ "return this".toList, ['}']] := by
  have hname : '\n' ∉ s.setterName m.name := s.lf_not_mem_setterName hstart hm.1
  have hindent : '\n' ∉ s.indent := lf_not_mem_indent
  have hbrace : Text.lines ['}'] = [['}']] := rfl
  rw [setter_eq_unlines, Text.lines_unlines_append, hbrace]
  · simp only [List.cons_append, List.nil_append]
  · simp only [List.forall_mem_cons]
    refine ⟨⟨?_, ?_⟩, ⟨?_, ?_⟩, ⟨?_, ?_⟩, nofun⟩
    · simp [hname, hm.2]
    · rw [List.getLast?_append_of_ne_nil _ (by simp)]
      simp
    · simp [hindent, hm.1]
    · rw [List.getLast?_append_of_ne_nil _ (by simp), List.getLast?_append_of_ne_nil _ (by simp)]
      simp
    · simp [hindent]
    · rw [List.getLast?_append_of_ne_nil _ (by simp)]
      simp

/-- The lines of a setter are those of its block. -/
theorem written_setterBlock (hstart : '\n' ∉ s.setterPrefix) (hm : m.OnOneLine) :
    (m.setterBlock s).map (Line.written s.indent) = Text.lines (m.setter s) := by
  have hopening : [')'] ++ " \x7b".toList = ") \x7b".toList := by simp
  have hbody : [] ∉ ["this.".toList ++ m.name ++ " = value".toList, "return this".toList] := by
    simp
  rw [lines_setter hstart hm, Member.setterBlock, written_block, written_plain, map_indentLine hbody,
    List.append_assoc, hopening]
  simp only [List.map_cons, List.map_nil, List.cons_append, List.nil_append]

theorem empty_not_mem_entries : [] ∉ commaSeparated (members.map Member.entry) := by
  refine empty_not_mem_commaSeparated fun hempty => ?_
  obtain ⟨m, -, hm⟩ := List.mem_map.mp hempty
  simp [Member.entry] at hm

theorem written_buildBlock :
    (buildBlock aliasName members).map (Line.written s.indent) =
      ("public build(): ".toList ++ aliasName ++ " \x7b".toList) ::
        (("return \x7b".toList :: entryLines s.indent (members.map Member.entry) ++ [['}']]).map
          (s.indent ++ ·)) ++ [['}']] := by
  have hreturn : "return".toList ++ " \x7b".toList = "return \x7b".toList := by simp
  have hlines : [] ∉ "return \x7b".toList ::
      (commaSeparated (members.map Member.entry)).map (s.indent ++ ·) ++ [['}']] := by
    simp [empty_not_mem_entries]
  rw [buildBlock, written_block, written_block, written_plain, map_indentLine empty_not_mem_entries,
    hreturn, map_indentLine hlines, entryLines_eq]

theorem written_setters (hstart : '\n' ∉ s.setterPrefix) (hmembers : ∀ m ∈ members, m.OnOneLine) :
    ((members.flatMap fun m => plain [[]] ++ m.setterBlock s).map (Line.written s.indent)).map
        (indentLine s.indent) =
      (members.map (·.setter s)).flatMap fun setter =>
        [] :: (Text.lines setter).map (indentLine s.indent) := by
  have hempty : indentLine s.indent [] = [] := rfl
  rw [List.map_flatMap, List.map_flatMap, List.flatMap_map]
  refine List.flatMap_congr fun m hm => ?_
  rw [List.map_append, written_plain, written_setterBlock hstart (hmembers m hm),
    List.singleton_append, List.map_cons, hempty]

theorem written_classBlock (hstart : '\n' ∉ s.setterPrefix) (hmembers : ∀ m ∈ members, m.OnOneLine) :
    (classBlock aliasName members s).map (Line.written s.indent) =
      classLines aliasName (ofMembers s members) s := by
  have hheader : "Builder".toList ++ " \x7b".toList = "Builder \x7b".toList := by simp
  have hdefinitions : [] ∉ members.map (·.definition s) := empty_not_mem_definitions
  have hbuild : [] ∉ (buildBlock aliasName members).map (Line.written s.indent) := by
    rw [written_buildBlock, entryLines_eq]
    simp [empty_not_mem_entries]
  have hempty : [[]].map (indentLine s.indent) = [[]] := rfl
  rw [classBlock, written_block]
  simp only [List.map_append, written_plain, written_setters hstart hmembers,
    map_indentLine hdefinitions, map_indentLine hbuild, hempty]
  rw [written_buildBlock, classLines]
  simp only [entryLines_eq, ofMembers, List.map_append, List.map_cons, List.map_nil, List.map_map,
    Function.comp_def, List.append_assoc, List.cons_append, List.nil_append, hheader]

structure Line.Within (n : Nat) (l : Line) : Prop where
  lf_not_mem : '\n' ∉ l.text
  depth_le : l.depth ≤ n

theorem Line.Within.mono {n n' : Nat} {l : Line} (h : l.Within n) (hle : n ≤ n') : l.Within n' :=
  ⟨h.lf_not_mem, h.depth_le.trans hle⟩

theorem Line.Within.lf_not_mem_written {n : Nat} {l : Line} (h : l.Within n) :
    '\n' ∉ l.written s.indent := by
  unfold Line.written
  split_ifs
  · exact List.not_mem_nil
  · rw [List.mem_append, not_or]
    refine ⟨fun hindent => ?_, h.lf_not_mem⟩
    obtain ⟨indent, hmem, hlf⟩ := List.mem_flatten.mp hindent
    rw [List.eq_of_mem_replicate hmem] at hlf
    exact lf_not_mem_indent hlf

theorem within_plain {ts : List Text} (hts : ∀ t ∈ ts, '\n' ∉ t) : ∀ l ∈ plain ts, l.Within 0 := by
  intro l hl
  obtain ⟨t, ht, rfl⟩ := List.mem_map.mp hl
  exact ⟨hts t ht, le_rfl⟩

theorem within_block {n : Nat} {opening : Text} {body : List Line} (hopening : '\n' ∉ opening)
    (hbody : ∀ l ∈ body, l.Within n) : ∀ l ∈ block opening body, l.Within (n + 1) := by
  intro l hl
  rcases List.mem_append.mp hl with hl | hl
  · rcases List.mem_cons.mp hl with rfl | hl
    · exact ⟨by simp [hopening], Nat.zero_le _⟩
    · obtain ⟨l, hmem, rfl⟩ := List.mem_map.mp hl
      exact ⟨(hbody l hmem).lf_not_mem, Nat.succ_le_succ (hbody l hmem).depth_le⟩
  · rw [List.mem_singleton.mp hl]
    exact ⟨by simp, Nat.zero_le _⟩

theorem within_setterBlock (hstart : '\n' ∉ s.setterPrefix) (hm : m.OnOneLine) :
    ∀ l ∈ m.setterBlock s, l.Within 1 := by
  have hname : '\n' ∉ s.setterName m.name := s.lf_not_mem_setterName hstart hm.1
  refine within_block ?_ (within_plain ?_)
  · simp [hname, hm.2]
  · simp [hm.1]

theorem lf_not_mem_commaSeparated {ts : List Text} (hts : ∀ t ∈ ts, '\n' ∉ t) :
    ∀ t ∈ commaSeparated ts, '\n' ∉ t := by
  intro t ht
  rcases List.mem_append.mp ht with hearlier | hlast
  · obtain ⟨u, hu, rfl⟩ := List.mem_map.mp hearlier
    simp [hts u (List.mem_of_mem_dropLast hu)]
  · exact hts t (List.mem_of_getLast? (by simpa using hlast))

theorem within_buildBlock (halias : '\n' ∉ aliasName)
    (hentries : ∀ entry ∈ members.map Member.entry, '\n' ∉ entry) :
    ∀ l ∈ buildBlock aliasName members, l.Within 2 := by
  refine within_block ?_ (within_block ?_ (within_plain (lf_not_mem_commaSeparated hentries)))
  · simp [halias]
  · simp

theorem within_classBlock (hstart : '\n' ∉ s.setterPrefix) (hinitializer : '\n' ∉ s.fieldInitializer)
    (halias : '\n' ∉ aliasName) (hmembers : ∀ m ∈ members, m.OnOneLine) :
    ∀ l ∈ classBlock aliasName members s, l.Within 3 := by
  have hfragments := onOneLine_ofMembers hinitializer hmembers
  have hexport : '\n' ∉ if s.exportClass then "export ".toList else [] := by
    cases s.exportClass <;> decide
  have hclass : '\n' ∉ "class ".toList := by decide
  have hbuilder : '\n' ∉ "Builder".toList := by decide
  have hempty : ∀ l ∈ plain [[]], l.Within 0 := within_plain (by simp)
  refine within_block ?_ fun l hl => ?_
  · simp only [List.mem_append, hexport, hclass, halias, hbuilder, or_self, not_false_eq_true]
  rcases List.mem_append.mp hl with hl | hsetter
  · rcases List.mem_append.mp hl with hfield | hl
    · exact (within_plain hfragments.definitions l hfield).mono (Nat.zero_le 2)
    · rcases List.mem_append.mp hl with hgap | hbuild
      · exact (hempty l hgap).mono (Nat.zero_le 2)
      · exact within_buildBlock halias hfragments.entries l hbuild
  · obtain ⟨m, hm, hl⟩ := List.mem_flatMap.mp hsetter
    rcases List.mem_append.mp hl with hgap | hl
    · exact (hempty l hgap).mono (Nat.zero_le 2)
    · exact (within_setterBlock hstart (hmembers m hm) l hl).mono (Nat.le_succ 1)

end Class

theorem Member.IsDeclarable.onOneLine {m : Member} (h : m.IsDeclarable) : m.OnOneLine := by
  have hspace : isSpace '\n' = true := by decide
  have hends : Alias.endsType '\n' = true := by decide
  refine ⟨fun hname => ?_, fun htype => ?_⟩
  · rw [h.name_isSpace '\n' hname] at hspace
    cases hspace
  · rw [h.type_endsType '\n' htype] at hends
    cases hends

/-- The class of a builder is written in the lines of its blocks, seven for each member and seven more.
Each line ends with LF and holds no other one. -/
theorem Builder.classText_eq_unlines {s : ClassSettings} {document : Text} {b : Builder}
    (hstart : '\n' ∉ s.setterPrefix) (hinitializer : '\n' ∉ s.fieldInitializer)
    (h : Builder.ofDocument s document = .ok b) :
    b.classText = Text.unlines ((classBlock b.aliasName b.members s).map (Line.written s.indent)) ∧
      (classBlock b.aliasName b.members s).length = 7 * b.members.length + 7 ∧
      ∀ l ∈ classBlock b.aliasName b.members s, l.depth ≤ 3 ∧ '\n' ∉ l.written s.indent := by
  obtain ⟨-, -, aliasName, members, hname, hmembers, rfl⟩ := ofDocument_eq_ok_iff.mp h
  obtain ⟨rfl, -⟩ := (Alias.answers_members document).eq_ok_iff.mp hmembers
  have honeLine : ∀ m ∈ Alias.memberList document, m.OnOneLine :=
    fun m hm => (Alias.isDeclarable_of_mem hm).onOneLine
  have halias : '\n' ∉ aliasName := (Alias.isWord_of_name hname).not_mem (by decide)
  refine ⟨?_, length_classBlock _ _ s, fun l hl => ?_⟩
  · exact congrArg Text.unlines (written_classBlock hstart honeLine).symm
  · have hwithin := within_classBlock hstart hinitializer halias honeLine l hl
    exact ⟨hwithin.depth_le, hwithin.lf_not_mem_written⟩

/-- A class without indentation, with names in pascal case. -/
theorem Builder.classText_eq_unlines_flush :
    ∃ b, Builder.ofDocument { setterPrefix := "set".toList, setterCase := .pascal, indentWidth := 0 }
        "export type T = \x7b\r\n first_name?: A,\u2028 b: C \x7d".toList = .ok b ∧
      b.members.length = 2 ∧
      b.classText = Text.unlines ((classBlock b.aliasName b.members
        { setterPrefix := "set".toList, setterCase := .pascal, indentWidth := 0 }).map
          (Line.written [])) := by
  have hmade : Builder.ofDocument
      { setterPrefix := "set".toList, setterCase := .pascal, indentWidth := 0 }
      "export type T = \x7b\r\n first_name?: A,\u2028 b: C \x7d".toList =
        .ok (ofMembers { setterPrefix := "set".toList, setterCase := .pascal, indentWidth := 0 }
          "T".toList [{ name := "first_name".toList, type := "A".toList, optional := true },
            { name := "b".toList, type := "C".toList }]) := by
    decide +kernel
  exact ⟨_, hmade, rfl, (Builder.classText_eq_unlines (by decide) (by decide) hmade).1⟩

end FluentBuilder
