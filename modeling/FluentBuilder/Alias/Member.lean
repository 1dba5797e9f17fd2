import FluentBuilder.Failure
import FluentBuilder.Unicode.Word

namespace FluentBuilder

structure Member where
  name : Text
  type : Text
  optional : Bool := false
deriving DecidableEq, Repr

namespace Alias

open Unicode

/-- The head extended by the blanks that follow it, and what is left after the colon, provided that
nothing but blanks stands before a colon. -/
def closeHead (head t : Text) : List (Text × Text) :=
  match t.dropWhile isBlank with
  | ':' :: rest => [(head ++ t.takeWhile isBlank, rest)]
  | _ => []

/-- The heads that the text starts with, each with what follows its colon. A head is a run of word
characters with one more character that is not white space, or else the run alone. -/
def heads (t : Text) : List (Text × Text) :=
  let word := t.takeWhile isWord
  let rest := t.dropWhile isWord
  let extended :=
    match rest with
    | c :: more => if isSpace c then [] else closeHead (word ++ [c]) more
    | [] => []
  extended ++ if word.isEmpty then [] else closeHead word rest

/-- What is left of a text that no head starts in before its first non-word character. -/
def skipWord (t : Text) : Text :=
  (t.dropWhile isWord).tail

def endsType (c : Char) : Bool :=
  c == ',' || c == ';' || c == '}' || c == '\r' || c == '\n'

def type? (t : Text) : Option (Text × Text) :=
  let t := t.dropWhile isBlank
  match t with
  | [] => none
  | c :: _ =>
    if isSpace c || endsType c then none
    else some (t.takeWhile (!endsType ·), t.dropWhile (!endsType ·))

def cleanHead (head : Text) : Text × Bool :=
  let head := head.trim
  if head.getLast? = some '?' then (Text.trimEnd head.dropLast, true) else (head, false)

/-- The member that the text starts with: the first of its heads whose colon a type follows. -/
def member? (t : Text) : Option (Member × Text) :=
  (heads t).findSome? fun (head, rest) =>
    (type? rest).map fun (type, rest) =>
      let (name, optional) := cleanHead head
      ({ name, type := type.trim, optional }, rest)

theorem length_dropWhile_le (p : Char → Bool) (t : Text) : (t.dropWhile p).length ≤ t.length :=
  (List.dropWhile_suffix p).length_le

theorem length_skipWord_lt {t : Text} (h : t ≠ []) : (skipWord t).length < t.length := by
  have := length_dropWhile_le isWord t
  have := List.length_pos_iff.2 h
  simp only [skipWord, List.length_tail]
  omega

theorem length_lt_of_mem_closeHead {head t : Text} {x : Text × Text} (h : x ∈ closeHead head t) :
    x.2.length < t.length := by
  have := length_dropWhile_le isBlank t
  unfold closeHead at h
  split at h
  · rename_i rest heq
    simp only [List.mem_singleton] at h
    subst h
    simp only [heq, List.length_cons] at this
    simp only
    omega
  · simp at h

theorem length_lt_of_mem_heads {t : Text} {x : Text × Text} (h : x ∈ heads t) :
    x.2.length < t.length := by
  have := length_dropWhile_le isWord t
  simp only [heads, List.mem_append] at h
  rcases h with h | h
  · split at h
    · rename_i c more heq
      simp only [heq, List.length_cons] at this
      split at h
      · simp at h
      · have := length_lt_of_mem_closeHead h
        omega
    · simp at h
  · split at h
    · simp at h
    · have := length_lt_of_mem_closeHead h
      omega

theorem length_le_of_type? {t : Text} {x : Text × Text} (h : type? t = some x) :
    x.2.length ≤ t.length := by
  have := length_dropWhile_le isBlank t
  simp only [type?] at h
  split at h
  · simp at h
  · split at h
    · simp at h
    · simp only [Option.some.injEq] at h
      subst h
      have := length_dropWhile_le (!endsType ·) (t.dropWhile isBlank)
      simp only
      omega

theorem length_lt_of_member? {t : Text} {x : Member × Text} (h : member? t = some x) :
    x.2.length < t.length := by
  obtain ⟨head, hmem, heq⟩ := List.exists_of_findSome?_eq_some h
  obtain ⟨type, htype, rfl⟩ := Option.map_eq_some_iff.1 heq
  have := length_lt_of_mem_heads hmem
  have := length_le_of_type? htype
  simp only
  omega

def propertyNames (t : Text) : List Text :=
  if _ht : t = [] then []
  else match _h : heads t with
    | (head, rest) :: _ => (cleanHead head).1 :: propertyNames rest
    | [] => propertyNames (skipWord t)
termination_by t.length
decreasing_by
  · exact length_lt_of_mem_heads (x := (head, rest)) (by simp [_h])
  · exact length_skipWord_lt _ht

def typeTexts : Text → List Text
  | [] => []
  | c :: rest =>
    if c = ':' then
      match _h : type? rest with
      | some (type, rest') => type.trim :: typeTexts rest'
      | none => typeTexts rest
    else typeTexts rest
termination_by t => t.length
decreasing_by
  · have := length_le_of_type? _h
    simp only [List.length_cons] at *
    omega
  all_goals simp

def memberList (t : Text) : List Member :=
  if _ht : t = [] then []
  else match _h : member? t with
    | some (m, rest) => m :: memberList rest
    | none => memberList (skipWord t)
termination_by t.length
decreasing_by
  · exact length_lt_of_member? _h
  · exact length_skipWord_lt _ht

def properties (document : Text) : Except Failure (List Text) :=
  match propertyNames document with
  | [] => .error .noProperties
  | names => .ok names

def types (document : Text) : Except Failure (List Text) :=
  match typeTexts document with
  | [] => .error .noDataTypes
  | types => .ok types

/-- The members of a document, in order. If there is none, the failure says what is missing: the
properties, or only their types. -/
def members (document : Text) : Except Failure (List Member) :=
  match memberList document with
  | [] =>
    match propertyNames document with
    | [] => .error .noProperties
    | _ => .error .noDataTypes
  | members => .ok members

end Alias

end FluentBuilder
