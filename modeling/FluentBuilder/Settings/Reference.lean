import FluentBuilder.Text

namespace FluentBuilder

abbrev Environment := Text → Option Text

structure Reference where
  name : Text
  fallback : Option Text
deriving DecidableEq, Repr

namespace Reference

def endsName (c : Char) : Bool :=
  c == '}' || c == ':'

def read? : Text → Option (Reference × Text)
  | '$' :: '{' :: t =>
    let name := t.takeWhile (!endsName ·)
    if name.isEmpty then none
    else match t.dropWhile (!endsName ·) with
      | '}' :: rest => some (⟨name, none⟩, rest)
      | ':' :: '-' :: t =>
        match t.dropWhile (· != '}') with
        | _ :: rest => some (⟨name, some (t.takeWhile (· != '}'))⟩, rest)
        | [] => none
      | _ => none
  | _ => none

def resolve? (env : Environment) (r : Reference) : Option Text :=
  env r.name <|> r.fallback

theorem length_lt_of_read? {t : Text} {x : Reference × Text} (h : read? t = some x) :
    x.2.length < t.length := by
  unfold read? at h
  split at h
  · rename_i t
    dsimp only at h
    have h₁ := (List.dropWhile_suffix (!endsName ·) (l := t)).length_le
    by_cases hname : (t.takeWhile (!endsName ·)).isEmpty
    · simp [hname] at h
    · rw [if_neg hname] at h
      split at h
      · rename_i rest heq
        cases h
        simp only [heq, List.length_cons] at *
        omega
      · rename_i t' heq
        have h₂ := (List.dropWhile_suffix (· != '}') (l := t')).length_le
        split at h
        · rename_i heq'
          cases h
          simp only [heq, heq', List.length_cons] at *
          omega
        · simp at h
      · simp at h
  · simp at h

end Reference

/-- The text with every reference replaced by what it stands for, or the first name that stands for
nothing. -/
def expand (env : Environment) (t : Text) : Except Text Text :=
  match t with
  | [] => .ok []
  | c :: rest =>
    match _h : Reference.read? (c :: rest) with
    | some (r, rest') =>
      match r.resolve? env with
      | some value => (expand env rest').map (value ++ ·)
      | none => .error r.name
    | none => (expand env rest).map (c :: ·)
termination_by t.length
decreasing_by
  · exact Reference.length_lt_of_read? _h
  · simp

/-- The references that an expansion comes to, if it gets to the end. -/
def references (t : Text) : List Reference :=
  match t with
  | [] => []
  | c :: rest =>
    match _h : Reference.read? (c :: rest) with
    | some (r, rest') => r :: references rest'
    | none => references rest
termination_by t.length
decreasing_by
  · exact Reference.length_lt_of_read? _h
  · simp

/-- The variables whose fallbacks are used, up to the first reference that stands for nothing. -/
def defaulted (env : Environment) (rs : List Reference) : List Text :=
  ((rs.takeWhile fun r => (r.resolve? env).isSome).filter fun r => (env r.name).isNone).map (·.name)

end FluentBuilder
