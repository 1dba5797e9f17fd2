import FluentBuilder.Toml.DateTime
import FluentBuilder.Toml.Number
import FluentBuilder.Toml.Tables

namespace FluentBuilder.Toml

open Unicode

def skipGap? (inComment : Bool) : Text → Option Text
  | [] => some []
  | '\n' :: rest => skipGap? false rest
  | '\r' :: '\n' :: rest => skipGap? false rest
  | c :: rest =>
    if inComment then if isPlain c then skipGap? true rest else none
    else if c = '#' then skipGap? true rest
    else if isBlank c then skipGap? false rest
    else some (c :: rest)

/-- What follows the end of a line on which only blanks and a comment are left. -/
def endLine? (inComment : Bool) : Text → Option Text
  | [] => some []
  | '\n' :: rest => some rest
  | '\r' :: '\n' :: rest => some rest
  | c :: rest =>
    if inComment then if isPlain c then endLine? true rest else none
    else if c = '#' then endLine? true rest
    else if isBlank c then endLine? false rest
    else none

def isBareKey (c : Char) : Bool :=
  c.isAlphanum || c == '_' || c == '-'

def keyPart? (t : Text) : Option (Text × Text) :=
  match t with
  | '"' :: rest => basicString? rest
  | '\'' :: rest => literalString? rest
  | _ =>
    if (t.takeWhile isBareKey).isEmpty then none
    else some (t.takeWhile isBareKey, t.dropWhile isBareKey)

theorem length_lt_of_basicString? {t : Text} {x : Text × Text} (h : basicString? t = some x) :
    x.2.length < t.length := by
  fun_induction basicString? t generalizing x with
  | case1 => simp at h
  | case2 =>
    simp only [Option.some.injEq] at h
    subst h
    simp
  | case3 rest c rest' he ih =>
    obtain ⟨y, hy, rfl⟩ := Option.map_eq_some_iff.1 h
    have := ih hy
    have := length_lt_of_escape? he
    simp only [List.length_cons] at *
    omega
  | case4 => simp at h
  | case5 c rest _ _ hc ih =>
    obtain ⟨y, hy, rfl⟩ := Option.map_eq_some_iff.1 h
    have := ih hy
    simp only [List.length_cons]
    omega
  | case6 => simp at h

theorem length_lt_of_literalString? {t : Text} {x : Text × Text} (h : literalString? t = some x) :
    x.2.length < t.length := by
  fun_induction literalString? t generalizing x with
  | case1 => simp at h
  | case2 =>
    simp only [Option.some.injEq] at h
    subst h
    simp
  | case3 c rest _ hc ih =>
    obtain ⟨y, hy, rfl⟩ := Option.map_eq_some_iff.1 h
    have := ih hy
    simp only [List.length_cons]
    omega
  | case4 => simp at h

theorem length_lt_of_keyPart? {t : Text} {x : Text × Text} (h : keyPart? t = some x) :
    x.2.length < t.length := by
  unfold keyPart? at h
  split at h
  · have := length_lt_of_basicString? h
    simp only [List.length_cons]
    omega
  · have := length_lt_of_literalString? h
    simp only [List.length_cons]
    omega
  · split at h
    · simp at h
    · rename_i hne
      simp only [Option.some.injEq] at h
      subst h
      have := congrArg List.length (List.takeWhile_append_dropWhile (p := isBareKey) (l := t))
      have := List.length_pos_iff.2 (by simpa using hne : t.takeWhile isBareKey ≠ [])
      simp only [List.length_append] at *
      omega

def key? (t : Text) : Option (List Text × Text) :=
  match _h : keyPart? t with
  | none => none
  | some (part, rest) =>
    match _hd : rest.dropWhile isBlank with
    | '.' :: more => (key? (more.dropWhile isBlank)).map fun (parts, left) => (part :: parts, left)
    | left => some ([part], left)
termination_by t.length
decreasing_by
  have := length_lt_of_keyPart? _h
  have := (List.dropWhile_suffix isBlank (l := rest)).length_le
  have := (List.dropWhile_suffix isBlank (l := more)).length_le
  simp only [_hd, List.length_cons] at *
  omega

/-- The literal of a number, a truth value or a date at the start of a text. A space may stand between
a date and a time. -/
def splitLiteral (t : Text) : Text × Text :=
  let isLiteral := fun c => isBareKey c || c == '+' || c == '.' || c == ':'
  let literal := t.takeWhile isLiteral
  let rest := t.dropWhile isLiteral
  match rest with
  | ' ' :: more =>
    if hasDateForm literal && more.head?.any Char.isDigit then
      (literal ++ ' ' :: more.takeWhile isLiteral, more.dropWhile isLiteral)
    else (literal, rest)
  | _ => (literal, rest)

def literalValue? (literal : Text) : Option Value :=
  if literal = "true".toList then some (.boolean true)
  else if literal = "false".toList then some (.boolean false)
  else match integer? literal with
    | some n => some (.integer n)
    | none =>
      if isFloat literal then some (.float literal)
      else if isDateTime literal then some (.dateTime literal)
      else none

/-- The items of an array up to its closing bracket, at most `fuel` of them. -/
def items? (item? : Text → Option (Value × Text)) : Nat → Text → Option (List Value × Text)
  | 0, _ => none
  | fuel + 1, t => do
    match ← skipGap? false t with
    | ']' :: rest => return ([], rest)
    | t =>
      let (item, t) ← item? t
      match ← skipGap? false t with
      | ',' :: t =>
        let (items, rest) ← items? item? fuel t
        return (item :: items, rest)
      | ']' :: rest => return ([item], rest)
      | _ => none

def pairs? (value? : Text → Option (Value × Text)) :
    Nat → Text → Option (List (List Text × Value) × Text)
  | 0, _ => none
  | fuel + 1, t => do
    match ← skipGap? false t with
    | '}' :: rest => return ([], rest)
    | t =>
      let (key, t) ← key? t
      let t ← afterChar? '=' t
      let (value, t) ← value? (t.dropWhile isBlank)
      match ← skipGap? false t with
      | ',' :: t =>
        let (pairs, rest) ← pairs? value? fuel t
        return ((key, value) :: pairs, rest)
      | '}' :: rest => return ([(key, value)], rest)
      | _ => none

/-- A value, in which arrays and inline tables are nested at most `depth` deep. -/
def value? : Nat → Text → Option (Value × Text)
  | 0, '[' :: _ => none
  | 0, '{' :: _ => none
  | depth + 1, '[' :: rest => do
    let (items, rest) ← items? (value? depth) (rest.length + 1) rest
    return (.array items, rest)
  | depth + 1, '{' :: rest => do
    let (pairs, rest) ← pairs? (value? depth) (rest.length + 1) rest
    return (.table .inline (← Entries.ofPairs pairs), rest)
  | _, t =>
    if t.head? = some '"' ∨ t.head? = some '\'' then
      (string? t).map fun (s, rest) => (.string s, rest)
    else
      let (literal, rest) := splitLiteral t
      (literalValue? literal).map fun value => (value, rest)

def maxDepth : Nat := 80

def statement? (t : Text) : Option (Statement × Text) :=
  match t with
  | '[' :: '[' :: rest => do
    let (path, rest) ← key? (rest.dropWhile isBlank)
    let rest ← afterChar? ']' rest
    let rest ← endLine? false (← afterChar? ']' rest)
    return (.element path, rest)
  | '[' :: rest => do
    let (path, rest) ← key? (rest.dropWhile isBlank)
    let rest ← endLine? false (← afterChar? ']' rest)
    return (.table path, rest)
  | _ => do
    let (path, rest) ← key? t
    let rest ← afterChar? '=' rest
    let (value, rest) ← value? maxDepth (rest.dropWhile isBlank)
    let rest ← endLine? false rest
    return (.assign path value, rest)

def statementsUpTo? : Nat → Text → Option (List Statement)
  | 0, _ => none
  | fuel + 1, t => do
    match ← skipGap? false t with
    | [] => return []
    | t =>
      let (statement, rest) ← statement? t
      return statement :: (← statementsUpTo? fuel rest)

def statements? (t : Text) : Option (List Statement) :=
  statementsUpTo? (t.length + 1) t

/-- The entries of a document in version 1.1 of the language, whose first character may be a byte order
mark. -/
def document? (t : Text) : Option Entries :=
  let t := if t.head? = some '\uFEFF' then t.tail else t
  (statements? t).bind fun statements => Entries.extend [] [] statements

end FluentBuilder.Toml
