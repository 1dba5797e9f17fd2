import FluentBuilder.Proofs.Alias.Clause
import FluentBuilder.Proofs.Builder.Document

namespace FluentBuilder

open Unicode

/-- A member as it is written, with the spaces and tabs around its parts. -/
structure Clause where
  member : Member
  indent : Text
  beforeColon : Text
  afterColon : Text
  afterType : Text
  name_isWord : member.name.IsWord
  type_isSimple : Alias.IsSimpleType member.type
  type_no_paren : '(' ∉ member.type
  indent_isBlank : indent.IsBlank
  beforeColon_isBlank : beforeColon.IsBlank
  afterColon_isBlank : afterColon.IsBlank
  afterType_isBlank : afterType.IsBlank

def Clause.text (c : Clause) : Text :=
  c.indent ++ (c.member.name ++ (Alias.mark c.member.optional ++ (c.beforeColon ++ ':' ::
    (c.afterColon ++ (c.member.type ++ c.afterType)))))

inductive Separator where
  | lf
  | crlf
  | semicolon
  | comma
  | semicolonLf
  | commaLf
deriving DecidableEq

def Separator.text : Separator → Text
  | .lf => ['\n']
  | .crlf => ['\r', '\n']
  | .semicolon => [';']
  | .comma => [',']
  | .semicolonLf => [';', '\n']
  | .commaLf => [',', '\n']

/-- A type alias with members on lines of their own or set apart by marks. The last member may also do
without a separator. -/
structure Declaration where
  name : Text
  name_isWord : name.IsWord
  earlier : List (Clause × Separator)
  last : Clause
  ending : Option Separator

namespace Declaration

def members (d : Declaration) : List Member :=
  d.earlier.map (·.1.member) ++ [d.last.member]

def header (d : Declaration) : Text :=
  "export type ".toList ++ d.name ++ " = \x7b".toList

def body (d : Declaration) : Text :=
  d.earlier.flatMap (fun c => c.1.text ++ c.2.text) ++
    (d.last.text ++ ((d.ending.map Separator.text).getD [] ++ ['}']))

def text (d : Declaration) : Text :=
  d.header ++ '\n' :: d.body

end Declaration

open Alias

theorem Alias.declaredName?_append {w : Text} {c : Char} (hw : w.IsWord) (hc : isWord c = false)
    (rest : Text) : declaredName? ("export type ".toList ++ (w ++ c :: rest)) = some w := by
  have hprefix : "export type".toList.isPrefixOf? ("export type ".toList ++ (w ++ c :: rest)) =
      some (' ' :: (w ++ c :: rest)) := rfl
  have hne : w.isEmpty = false := by simpa using hw.1
  simp only [declaredName?, hprefix, Text.takeWhile_run hw.2 hc, hne]
  rfl

theorem Alias.firstName?_of_declaredName? {t w : Text} (h : declaredName? t = some w) :
    firstName? false t = some w := by
  cases t with
  | nil => cases h
  | cons c t =>
    rw [firstName?]
    simp [h]

theorem Clause.not_colonAhead (c : Clause) (t : Text) : ¬ColonAhead (c.text ++ t) := by
  obtain ⟨hne, hall⟩ := c.name_isWord
  obtain ⟨d, w, hname⟩ := List.exists_cons_of_ne_nil hne
  have hd : isWord d := hall d (by simp [hname])
  have hblank : isBlank d = false :=
    isBlank_eq_false_of_isSpace_eq_false (isSpace_eq_false_of_isWord hd)
  have hcolon : d ≠ ':' := by
    rintro rfl
    exact absurd hd (by decide)
  rw [Clause.text, hname, List.append_assoc]
  exact not_colonAhead_append c.indent_isBlank hblank hcolon _

theorem Clause.memberList_append (c : Clause) {x : Char} (hx : endsType x) (t : Text) :
    memberList (c.text ++ x :: t) = c.member :: memberList (x :: t) := by
  have hread := member?_written c.name_isWord c.type_isSimple c.beforeColon_isBlank
    c.afterColon_isBlank c.afterType_isBlank hx t
  rw [← memberList_of_some hread, Clause.text, List.append_assoc,
    memberList_space_append c.indent_isBlank.isSpace]
  simp

theorem Clause.no_paren_text (c : Clause) : '(' ∉ c.text := by
  have hname : '(' ∉ c.member.name := c.name_isWord.not_mem (by decide)
  have hindent : '(' ∉ c.indent := c.indent_isBlank.not_mem (by decide)
  have hbefore : '(' ∉ c.beforeColon := c.beforeColon_isBlank.not_mem (by decide)
  have hafter : '(' ∉ c.afterColon := c.afterColon_isBlank.not_mem (by decide)
  have htype : '(' ∉ c.afterType := c.afterType_isBlank.not_mem (by decide)
  have hmark : '(' ∉ Alias.mark c.member.optional := by
    cases c.member.optional <;> decide
  simp [Clause.text, hname, hindent, hbefore, hafter, htype, hmark, c.type_no_paren]

theorem Separator.no_paren_text (s : Separator) : '(' ∉ s.text := by
  cases s <;> decide

theorem Separator.exists_cons (s : Separator) : ∃ x t, s.text = x :: t ∧ endsType x := by
  cases s <;> exact ⟨_, _, rfl, by decide⟩

theorem Separator.memberList_append (s : Separator) {t : Text} (h : ¬ColonAhead t) :
    memberList (s.text ++ t) = memberList t := by
  have hlf : memberList ('\n' :: t) = memberList t :=
    memberList_cons (by decide) (.inl (by decide))
  have hlf' : ¬ColonAhead ('\n' :: t) := by
    rw [ColonAhead, List.dropWhile_cons_of_neg (by decide), List.head?_cons]
    decide
  cases s with
  | lf => exact hlf
  | crlf => exact (memberList_cons (by decide) (.inl (by decide))).trans hlf
  | semicolon => exact memberList_cons (by decide) (.inr h)
  | comma => exact memberList_cons (by decide) (.inr h)
  | semicolonLf => exact (memberList_cons (by decide) (.inr hlf')).trans hlf
  | commaLf => exact (memberList_cons (by decide) (.inr hlf')).trans hlf

theorem memberList_earlier (l : List (Clause × Separator)) {t : Text} (ht : ¬ColonAhead t) :
    memberList (l.flatMap (fun c => c.1.text ++ c.2.text) ++ t) =
      l.map (·.1.member) ++ memberList t := by
  induction l with
  | nil => rfl
  | cons c l ih =>
    -- A separator is passed only if no colon follows it, so the next clause has to be looked at.
    have hrest : ¬ColonAhead (l.flatMap (fun c => c.1.text ++ c.2.text) ++ t) := by
      cases l with
      | nil => exact ht
      | cons d l =>
        rw [List.flatMap_cons, List.append_assoc, List.append_assoc]
        exact d.1.not_colonAhead _
    obtain ⟨x, more, hsep, hx⟩ := c.2.exists_cons
    rw [List.flatMap_cons, List.append_assoc, List.append_assoc, hsep, List.cons_append,
      c.1.memberList_append hx, ← List.cons_append, ← hsep, c.2.memberList_append hrest, ih,
      List.map_cons, List.cons_append]

namespace Declaration

variable (d : Declaration)

theorem memberList_last :
    memberList (d.last.text ++ ((d.ending.map Separator.text).getD [] ++ ['}'])) =
      [d.last.member] := by
  have hclose : memberList ['}'] = [] := by
    rw [memberList_cons (by decide) (.inr (by decide)), memberList_nil]
  cases d.ending with
  | none =>
    rw [Option.map_none, Option.getD_none, List.nil_append,
      d.last.memberList_append (by decide), hclose]
  | some s =>
    obtain ⟨x, more, hsep, hx⟩ := s.exists_cons
    rw [Option.map_some, Option.getD_some, hsep, List.cons_append, d.last.memberList_append hx,
      ← List.cons_append, ← hsep, s.memberList_append (by decide), hclose]

theorem memberList_text : memberList d.text = d.members := by
  have hskip : memberList d.text = memberList d.body := memberList_header_append d.name_isWord _
  rw [hskip, body, memberList_earlier d.earlier (d.last.not_colonAhead _), memberList_last, members]

theorem members_text : Alias.members d.text = .ok d.members :=
  (answers_members d.text).eq_ok_iff.mpr ⟨d.memberList_text, by simp [members]⟩

theorem name_text : Alias.name d.text = .ok d.name := by
  have htext : d.text =
      "export type ".toList ++ (d.name ++ ' ' :: ("= \x7b\n".toList ++ d.body)) := by
    unfold text header
    simp
  rw [Alias.name, htext,
    firstName?_of_declaredName? (declaredName?_append d.name_isWord (by decide) _)]

theorem trim_text : Text.trim d.text ≠ [] := by
  have hspace : isSpace 'e' = false := by decide
  refine Text.trim_ne_nil ?_ hspace
  unfold text header
  simp

theorem no_paren_text : '(' ∉ d.text := by
  have hname : '(' ∉ d.name := d.name_isWord.not_mem (by decide)
  have hearlier : '(' ∉ d.earlier.flatMap fun c => c.1.text ++ c.2.text := by
    simp only [List.mem_flatMap, List.mem_append, not_exists, not_and, not_or]
    exact fun c _ => ⟨c.1.no_paren_text, c.2.no_paren_text⟩
  have hending : '(' ∉ (d.ending.map Separator.text).getD [] := by
    cases d.ending with
    | none => exact List.not_mem_nil
    | some s => exact s.no_paren_text
  unfold text header body
  simp [hname, hearlier, hending, d.last.no_paren_text]

end Declaration

/-- Every declaration gives the builder for its name and its members, in the order in which they
stand. -/
theorem Builder.ofDocument_declaration (d : Declaration) (s : ClassSettings) :
    Builder.ofDocument s d.text = .ok {
      aliasName := d.name
      members := d.members
      classText := (Fragments.ofMembers s d.members).classText d.name s } :=
  ofDocument_of_name_members d.trim_text (hasMethod_of_no_paren d.no_paren_text) d.name_text
    d.members_text

/-- A declaration of two members, one to a line. -/
example :
    Declaration.text {
      name := "User".toList
      name_isWord := by decide
      earlier := [({
        member := { name := "id".toList, type := "string".toList }
        indent := "  ".toList, beforeColon := [], afterColon := [' '], afterType := []
        name_isWord := by decide, type_isSimple := by decide, type_no_paren := by decide
        indent_isBlank := by decide, beforeColon_isBlank := by decide
        afterColon_isBlank := by decide, afterType_isBlank := by decide }, .lf)]
      last := {
        member := { name := "tags".toList, type := "string[]".toList, optional := true }
        indent := "  ".toList, beforeColon := [], afterColon := [' '], afterType := []
        name_isWord := by decide, type_isSimple := by decide, type_no_paren := by decide
        indent_isBlank := by decide, beforeColon_isBlank := by decide
        afterColon_isBlank := by decide, afterType_isBlank := by decide }
      ending := some .lf } =
    "export type User = \x7b\n  id: string\n  tags?: string[]\n\x7d".toList := by
  decide

end FluentBuilder
