import FluentBuilder.Proofs.Alias.Clause

namespace FluentBuilder.Alias

open Unicode

/-- A type alias with one optional member, on a line of its own. Spaces and tabs may stand on both sides
of the question mark and behind the colon. -/
structure OptionalDeclaration where
  aliasName : Text
  name : Text
  beforeMark : Text
  beforeColon : Text
  afterColon : Text
  type : Text
  aliasName_isWord : aliasName.IsWord
  name_isWord : name.IsWord
  beforeMark_isBlank : beforeMark.IsBlank
  beforeColon_isBlank : beforeColon.IsBlank
  afterColon_isBlank : afterColon.IsBlank
  type_isSimple : IsSimpleType type

namespace OptionalDeclaration

def header (d : OptionalDeclaration) : Text :=
  "export type ".toList ++ d.aliasName ++ " = \x7b".toList

def clause (d : OptionalDeclaration) : Text :=
  d.name ++ (d.beforeMark ++ '?' :: (d.beforeColon ++ ':' :: (d.afterColon ++ d.type)))

def text (d : OptionalDeclaration) : Text :=
  d.header ++ '\n' :: (d.clause ++ "\n\x7d".toList)

def member (d : OptionalDeclaration) : Member where
  name := d.name
  type := d.type
  optional := true

def markedName (d : OptionalDeclaration) : Text :=
  if d.beforeMark = [] then d.name else []

end OptionalDeclaration

/-- The scan passes a word that blanks part from a text without a colon at its start. -/
theorem memberList_word_append {w b t : Text} (hw : w.IsWord) (hb : b.IsBlank) (hne : b ≠ [])
    (h : ¬ColonAhead (b ++ t)) : memberList (w ++ (b ++ t)) = memberList t := by
  obtain ⟨c, b, rfl⟩ := List.exists_cons_of_ne_nil hne
  have hc : isBlank c := hb c List.mem_cons_self
  have hstop : isWord c = false := isWord_eq_false_of_isBlank hc
  have hheads : heads (w ++ (c :: b ++ t)) = [] := by
    rw [List.cons_append, heads_word hw hstop, if_pos (isSpace_of_isBlank hc), List.nil_append]
    exact closeHead_eq_nil h w
  have hskip : skipWord (w ++ (c :: b ++ t)) = b ++ t := by
    rw [skipWord, List.cons_append, Text.dropWhile_run hw.2 hstop, List.tail_cons]
  have hspace : Text.IsSpace b := fun d hd => isSpace_of_isBlank (hb d (List.mem_cons_of_mem c hd))
  rw [memberList_of_none (member?_of_heads_nil hheads), hskip, memberList_space_append hspace]

/-- A word with a question mark directly behind it is read as the name of an optional member, also if the
word is empty. -/
theorem member?_marked {w b₁ b₂ type : Text} {x : Char} (hw : ∀ c ∈ w, isWord c) (hb₁ : b₁.IsBlank)
    (hb₂ : b₂.IsBlank) (htype : IsSimpleType type) (hx : endsType x) (tail : Text) :
    member? (w ++ '?' :: (b₁ ++ ':' :: (b₂ ++ (type ++ x :: tail)))) =
      some ({ name := w, type, optional := true }, x :: tail) := by
  let o : Occurrence := ⟨w, '?', b₁, b₂, type⟩
  have hmark : isSpace '?' = false ∧ isWord '?' = false := by decide
  have hbefore : TypeBefore (x :: tail) (type ++ []) := htype.typeBefore (s := []) nofun hx tail
  rw [List.append_nil] at hbefore
  have hfits : o.Fits (x :: tail) := ⟨hw, hmark.1, hb₁, hb₂, hbefore⟩
  have htext : w ++ '?' :: (b₁ ++ ':' :: (b₂ ++ (type ++ x :: tail))) = o.text ++ x :: tail := by
    simp [Occurrence.text, Occurrence.head, o]
  rw [htext, hfits.member? (.inl hmark.2)]
  simp [Occurrence.member, o, Text.trim_eq_self htype.isTrimmed]

namespace OptionalDeclaration

variable (d : OptionalDeclaration)

theorem markedName_isWord : ∀ c ∈ d.markedName, isWord c := by
  unfold markedName
  split_ifs
  · exact d.name_isWord.2
  · exact nofun

theorem markedName_eq_iff : d.markedName = d.name ↔ d.beforeMark = [] := by
  unfold markedName
  split_ifs with h
  · exact iff_of_true rfl h
  · exact iff_of_false d.name_isWord.1.symm h

/-- Of a name that does not stand directly in front of its mark nothing is read. -/
theorem memberList_clause_append (t : Text) :
    memberList (d.clause ++ t) =
      memberList (d.markedName ++
        '?' :: (d.beforeColon ++ ':' :: (d.afterColon ++ (d.type ++ t)))) := by
  have hcut : d.clause ++ t = d.name ++ (d.beforeMark ++
      '?' :: (d.beforeColon ++ ':' :: (d.afterColon ++ (d.type ++ t)))) := by
    simp [clause]
  rw [hcut, markedName]
  split_ifs with h
  · rw [h, List.nil_append]
  · exact memberList_word_append d.name_isWord d.beforeMark_isBlank h
      (not_colonAhead_append d.beforeMark_isBlank (by decide) (by decide) _)

theorem memberList_text : memberList d.text = [{ d.member with name := d.markedName }] := by
  have hskip : memberList d.text = memberList (d.clause ++ "\n\x7d".toList) :=
    memberList_header_append d.aliasName_isWord _
  have hread := member?_marked d.markedName_isWord d.beforeColon_isBlank d.afterColon_isBlank
    d.type_isSimple (x := '\n') (by decide) ['}']
  have hclose : memberList "\n\x7d".toList = [] := memberList_of_no_colon (by decide)
  rw [hskip, memberList_clause_append]
  exact (memberList_of_some hread).trans (congrArg _ hclose)

/-- The member is read as it is declared just if its name stands directly in front of the question mark.
Blanks everywhere else make no difference. -/
theorem members_eq_member_iff :
    (members d.text = .ok [d.member] ↔ d.beforeMark = []) ∧
      members d.text = .ok [{ d.member with name := d.markedName }] := by
  have hread : members d.text = .ok [{ d.member with name := d.markedName }] :=
    (answers_members d.text).eq_ok_iff.mpr ⟨d.memberList_text, List.cons_ne_nil _ _⟩
  refine ⟨?_, hread⟩
  rw [hread, ← d.markedName_eq_iff]
  simp [member]

/-- One blank, and the name is gone. -/
theorem blank_before_mark_loses_name :
    ∃ d : OptionalDeclaration, d.text = "export type A = \x7b\nname ?: string\n\x7d".toList ∧
      d.member = { name := "name".toList, type := "string".toList, optional := true } ∧
      members d.text = .ok [{ name := [], type := "string".toList, optional := true }] ∧
      members d.text ≠ .ok [d.member] := by
  refine ⟨{
    aliasName := "A".toList, name := "name".toList, type := "string".toList
    beforeMark := [' '], beforeColon := [], afterColon := [' ']
    aliasName_isWord := by decide, name_isWord := by decide, type_isSimple := by decide
    beforeMark_isBlank := by decide, beforeColon_isBlank := by decide
    afterColon_isBlank := by decide }, rfl, rfl, ?_, ?_⟩
  · decide +kernel
  · decide +kernel

end OptionalDeclaration

end FluentBuilder.Alias
