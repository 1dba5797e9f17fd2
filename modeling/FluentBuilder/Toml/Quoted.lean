import FluentBuilder.Text
import FluentBuilder.Unicode.Space

namespace FluentBuilder.Toml

open Unicode

def isPlain (c : Char) : Bool :=
  c == '\t' || (0x20 ≤ c.toNat && c.toNat != 0x7F)

def hexDigit? (c : Char) : Option Nat :=
  if c.isDigit then some (c.toNat - '0'.toNat)
  else if 'a' ≤ c && c ≤ 'f' then some (c.toNat - 'a'.toNat + 10)
  else if 'A' ≤ c && c ≤ 'F' then some (c.toNat - 'A'.toNat + 10)
  else none

def hexChar? (n : Nat) (t : Text) : Option (Char × Text) := do
  let digits ← (t.take n).mapM hexDigit?
  let code := digits.foldl (16 * · + ·) 0
  if digits.length = n ∧ code.isValidChar then some (Char.ofNat code, t.drop n) else none

/-- The character that an escape stands for, read behind its backslash. -/
def escape? : Text → Option (Char × Text)
  | 'b' :: rest => some ('\x08', rest)
  | 't' :: rest => some ('\t', rest)
  | 'n' :: rest => some ('\n', rest)
  | 'f' :: rest => some ('\x0c', rest)
  | 'r' :: rest => some ('\r', rest)
  | 'e' :: rest => some ('\x1b', rest)
  | '"' :: rest => some ('"', rest)
  | '\\' :: rest => some ('\\', rest)
  | 'x' :: rest => hexChar? 2 rest
  | 'u' :: rest => hexChar? 4 rest
  | 'U' :: rest => hexChar? 8 rest
  | _ => none

theorem length_le_of_hexChar? {n : Nat} {t : Text} {x : Char × Text} (h : hexChar? n t = some x) :
    x.2.length ≤ t.length := by
  simp only [hexChar?, Option.bind_eq_bind, Option.bind_eq_some_iff] at h
  obtain ⟨digits, -, h⟩ := h
  split at h
  · simp only [Option.some.injEq] at h
    subst h
    simp
  · simp at h

theorem length_lt_of_escape? {t : Text} {x : Char × Text} (h : escape? t = some x) :
    x.2.length < t.length := by
  unfold escape? at h
  split at h
  case h_12 => simp at h
  case h_9 | h_10 | h_11 =>
    have := length_le_of_hexChar? h
    simp only [List.length_cons]
    omega
  all_goals
    simp only [Option.some.injEq] at h
    subst h
    simp

def lineEnd? : Text → Option (Text × Text)
  | '\n' :: rest => some (['\n'], rest)
  | '\r' :: '\n' :: rest => some (['\r', '\n'], rest)
  | _ => none

theorem length_lt_of_lineEnd? {t : Text} {x : Text × Text} (h : lineEnd? t = some x) :
    x.2.length < t.length := by
  unfold lineEnd? at h
  split at h <;> simp only [Option.some.injEq, reduceCtorEq] at h <;> subst h <;>
    simp only [List.length_cons] <;> omega

def dropLineEnd (t : Text) : Text :=
  match lineEnd? t with
  | some (_, rest) => rest
  | none => t

def skipLines : Text → Text
  | [] => []
  | '\n' :: rest => skipLines rest
  | '\r' :: '\n' :: rest => skipLines rest
  | c :: rest => if isBlank c then skipLines rest else c :: rest

theorem length_skipLines_le (t : Text) : (skipLines t).length ≤ t.length := by
  fun_induction skipLines t <;> simp_all <;> omega

def basicString? (t : Text) : Option (Text × Text) :=
  match t with
  | [] => none
  | '"' :: rest => some ([], rest)
  | '\\' :: rest =>
    match _h : escape? rest with
    | some (c, rest') => (basicString? rest').map fun (s, left) => (c :: s, left)
    | none => none
  | c :: rest =>
    if isPlain c then (basicString? rest).map fun (s, left) => (c :: s, left) else none
termination_by t.length
decreasing_by
  · have := length_lt_of_escape? _h
    simp only [List.length_cons] at *
    omega
  · simp

def literalString? : Text → Option (Text × Text)
  | [] => none
  | '\'' :: rest => some ([], rest)
  | c :: rest =>
    if isPlain c then (literalString? rest).map fun (s, left) => (c :: s, left) else none

/-- The end of a string in triple quotes: at least three quotes, of which two more may belong to the
string. -/
def tripleEnd? (quote : Char) (t : Text) : Option (Text × Text) :=
  let count := (t.takeWhile (· == quote)).length
  if count < 3 then none
  else some (List.replicate (min count 5 - 3) quote, t.drop (min count 5))

/-- A string in three double quotes. Behind a backslash at the end of a line, white space is skipped
up to the next other character. -/
def longBasicString? (t : Text) : Option (Text × Text) :=
  match tripleEnd? '"' t with
  | some ending => some ending
  | none =>
    match t with
    | [] => none
    | '\\' :: rest =>
      match _h : lineEnd? (rest.dropWhile isBlank) with
      | some (_, rest') => longBasicString? (skipLines rest')
      | none =>
        match _h : escape? rest with
        | some (c, rest') => (longBasicString? rest').map fun (s, left) => (c :: s, left)
        | none => none
    | c :: rest =>
      match _h : lineEnd? (c :: rest) with
      | some (ending, rest') => (longBasicString? rest').map fun (s, left) => (ending ++ s, left)
      | none =>
        if isPlain c then (longBasicString? rest).map fun (s, left) => (c :: s, left) else none
termination_by t.length
decreasing_by
  · have := length_lt_of_lineEnd? _h
    have := (List.dropWhile_suffix isBlank (l := rest)).length_le
    have := length_skipLines_le rest'
    simp only [List.length_cons] at *
    omega
  · have := length_lt_of_escape? _h
    simp only [List.length_cons] at *
    omega
  · exact length_lt_of_lineEnd? _h
  · simp

def longLiteralString? (t : Text) : Option (Text × Text) :=
  match tripleEnd? '\'' t with
  | some ending => some ending
  | none =>
    match t with
    | [] => none
    | c :: rest =>
      match _h : lineEnd? (c :: rest) with
      | some (ending, rest') => (longLiteralString? rest').map fun (s, left) => (ending ++ s, left)
      | none =>
        if isPlain c then (longLiteralString? rest).map fun (s, left) => (c :: s, left) else none
termination_by t.length
decreasing_by
  · exact length_lt_of_lineEnd? _h
  · simp

def string? : Text → Option (Text × Text)
  | '"' :: '"' :: '"' :: rest => longBasicString? (dropLineEnd rest)
  | '\'' :: '\'' :: '\'' :: rest => longLiteralString? (dropLineEnd rest)
  | '"' :: rest => basicString? rest
  | '\'' :: rest => literalString? rest
  | _ => none

end FluentBuilder.Toml
