import FluentBuilder.Settings.Reference
import FluentBuilder.Proofs.Text.Runs

namespace FluentBuilder

namespace Reference

variable {env : Environment} {r : Reference}

def written (r : Reference) : Text :=
  '$' :: '{' :: (r.name ++ match r.fallback with
    | none => ['}']
    | some t => ':' :: '-' :: (t ++ ['}']))

/-- No part of the reference holds what ends it, so that the parts can be told apart. -/
structure IsWritable (r : Reference) : Prop where
  name : r.name ≠ []
  brace : '}' ∉ r.name
  colon : ':' ∉ r.name
  fallback : ∀ t ∈ r.fallback, '}' ∉ t

instance (r : Reference) : Decidable r.IsWritable :=
  decidable_of_iff (r.name ≠ [] ∧ '}' ∉ r.name ∧ ':' ∉ r.name ∧ ∀ t ∈ r.fallback, '}' ∉ t)
    ⟨fun ⟨name, brace, colon, fallback⟩ => ⟨name, brace, colon, fallback⟩,
      fun h => ⟨h.name, h.brace, h.colon, h.fallback⟩⟩

def IsUnset (env : Environment) (r : Reference) : Prop :=
  env r.name = none ∧ r.fallback = none

instance (env : Environment) (r : Reference) : Decidable (r.IsUnset env) :=
  inferInstanceAs (Decidable (env r.name = none ∧ r.fallback = none))

def replacement (env : Environment) (r : Reference) : Text :=
  (env r.name).getD (r.fallback.getD [])

theorem resolve?_of_isUnset (h : r.IsUnset env) : r.resolve? env = none := by
  obtain ⟨hname, hfallback⟩ := h
  rw [resolve?, hname, hfallback]
  rfl

theorem resolve?_of_not_isUnset (h : ¬ r.IsUnset env) :
    r.resolve? env = some (r.replacement env) := by
  unfold resolve? replacement
  cases hname : env r.name with
  | some value => rfl
  | none =>
    cases hfallback : r.fallback with
    | some t => rfl
    | none => exact absurd ⟨hname, hfallback⟩ h

theorem read?_eq_none {t : Text} (h : ¬ ['$', '{'] <+: t) : read? t = none := by
  unfold read?
  split
  · rename_i rest
    exact absurd (List.prefix_append ['$', '{'] rest) h
  · rfl

/-- A reference is read as it is written, whatever stands behind it. -/
theorem read?_written (h : r.IsWritable) (t : Text) : read? (r.written ++ t) = some (r, t) := by
  obtain ⟨name, fallback⟩ := r
  have hname : ∀ c ∈ name, (!endsName c) = true := by
    intro c hc
    have hbrace : c ≠ '}' := ne_of_mem_of_not_mem hc h.brace
    have hcolon : c ≠ ':' := ne_of_mem_of_not_mem hc h.colon
    simp [endsName, hbrace, hcolon]
  have hbrace : (!endsName '}') = false := rfl
  have hcolon : (!endsName ':') = false := rfl
  have hnonempty : name.isEmpty = false := by
    simpa using h.name
  -- without a fallback a brace ends the name, and with one a colon does
  cases fallback with
  | none =>
    have hcut : written ⟨name, none⟩ ++ t = '$' :: '{' :: (name ++ '}' :: t) := by
      simp [written]
    simp only [hcut, read?, Text.takeWhile_run hname hbrace, Text.dropWhile_run hname hbrace, hnonempty]
    rfl
  | some value =>
    have hcut : written ⟨name, some value⟩ ++ t =
        '$' :: '{' :: (name ++ ':' :: '-' :: (value ++ '}' :: t)) := by
      simp [written]
    have hvalue : ∀ c ∈ value, (c != '}') = true := by
      intro c hc
      simpa using ne_of_mem_of_not_mem hc (h.fallback value rfl)
    have hend : ('}' != '}') = false := rfl
    simp only [hcut, read?, Text.takeWhile_run hname hcolon, Text.dropWhile_run hname hcolon, hnonempty,
      Text.takeWhile_run hvalue hend, Text.dropWhile_run hvalue hend]
    rfl

end Reference

def IsLiteral (t : Text) : Prop :=
  ¬ ['$', '{'] <:+: t

instance (t : Text) : Decidable (IsLiteral t) :=
  inferInstanceAs (Decidable (¬ ['$', '{'] <:+: t))

/-- A text in its parts: a literal, and then references, each with a literal behind it. -/
structure Interpolation where
  first : Text
  rest : List (Reference × Text)

namespace Interpolation

def written (t : Interpolation) : Text :=
  t.first ++ t.rest.flatMap fun (r, literal) => r.written ++ literal

def filled (env : Environment) (t : Interpolation) : Text :=
  t.first ++ t.rest.flatMap fun (r, literal) => r.replacement env ++ literal

structure IsWritable (t : Interpolation) : Prop where
  first : IsLiteral t.first
  references : ∀ p ∈ t.rest, p.1.IsWritable
  literals : ∀ p ∈ t.rest, IsLiteral p.2

end Interpolation

section Expand

variable {env : Environment} {literal t : Text} {r : Reference}

theorem IsLiteral.tail {c : Char} (h : IsLiteral (c :: literal)) : IsLiteral literal :=
  fun hin => h (hin.trans (List.suffix_cons c literal).isInfix)

/-- No reference starts in a literal, nor with its last character, unless a brace follows. -/
theorem IsLiteral.not_starts {c : Char} (h : IsLiteral (c :: literal)) (ht : t.head? ≠ some '{') :
    ¬ ['$', '{'] <+: c :: (literal ++ t) := by
  intro hstarts
  obtain ⟨rfl, hbrace⟩ := List.cons_prefix_cons.mp hstarts
  cases literal with
  | nil =>
    obtain ⟨rest, rfl⟩ := hbrace
    exact ht rfl
  | cons d literal =>
    obtain ⟨rfl, -⟩ := List.cons_prefix_cons.mp hbrace
    exact h (List.prefix_append ['$', '{'] literal).isInfix

theorem expand_literal_append (h : IsLiteral literal) (ht : t.head? ≠ some '{') :
    expand env (literal ++ t) = (expand env t).map (literal ++ ·) := by
  induction literal with
  | nil =>
    rw [List.nil_append]
    cases expand env t <;> rfl
  | cons c literal ih =>
    have hread : Reference.read? (c :: (literal ++ t)) = none :=
      Reference.read?_eq_none (h.not_starts ht)
    rw [List.cons_append, expand]
    split
    · rename_i hsome
      rw [hread] at hsome
      cases hsome
    · rw [ih h.tail]
      cases expand env t <;> rfl

theorem expand_of_isLiteral (h : IsLiteral t) : expand env t = .ok t := by
  have happend : expand env (t ++ []) = (expand env []).map (t ++ ·) :=
    expand_literal_append h nofun
  have hnil : expand env [] = .ok [] := by
    rw [expand]
  rw [List.append_nil, hnil] at happend
  rw [happend, Except.map, List.append_nil]

theorem expand_written_append (h : r.IsWritable) (t : Text) :
    expand env (r.written ++ t) =
      if r.IsUnset env then .error r.name else (expand env t).map (r.replacement env ++ ·) := by
  have hread : Reference.read? (r.written ++ t) = some (r, t) := Reference.read?_written h t
  unfold Reference.written at hread ⊢
  rw [List.cons_append, expand]
  -- the equation of `expand` has a case for a reference, which is the one that is read
  split
  · rename_i hsome
    rw [List.cons_append] at hread
    cases hread.symm.trans hsome
    by_cases hunset : r.IsUnset env
    · rw [if_pos hunset, Reference.resolve?_of_isUnset hunset]
    · rw [if_neg hunset, Reference.resolve?_of_not_isUnset hunset]
  · rename_i hnone
    rw [List.cons_append] at hread
    cases hread.symm.trans hnone

namespace Interpolation

theorem written_cons (first : Text) (r : Reference) (literal : Text) (rest : List (Reference × Text)) :
    written ⟨first, (r, literal) :: rest⟩ = first ++ (r.written ++ written ⟨literal, rest⟩) := by
  simp [written]

theorem filled_cons (first : Text) (r : Reference) (literal : Text) (rest : List (Reference × Text)) :
    filled env ⟨first, (r, literal) :: rest⟩ =
      first ++ (r.replacement env ++ filled env ⟨literal, rest⟩) := by
  simp [filled]

theorem IsWritable.behind {first : Text} {rest : List (Reference × Text)}
    (h : IsWritable ⟨first, (r, literal) :: rest⟩) : IsWritable ⟨literal, rest⟩ where
  first := h.literals _ List.mem_cons_self
  references p hp := h.references p (List.mem_cons_of_mem _ hp)
  literals p hp := h.literals p (List.mem_cons_of_mem _ hp)

def firstUnset? (env : Environment) (t : Interpolation) : Option Reference :=
  (t.rest.map Prod.fst).find? (·.IsUnset env)

theorem expand_written {t : Interpolation} (h : t.IsWritable) :
    expand env t.written =
      match t.firstUnset? env with
      | some r => .error r.name
      | none => .ok (t.filled env) := by
  obtain ⟨first, rest⟩ := t
  induction rest generalizing first with
  | nil =>
    have hwritten : written ⟨first, []⟩ = first := List.append_nil first
    have hfilled : filled env ⟨first, []⟩ = first := List.append_nil first
    rw [hwritten, expand_of_isLiteral h.first]
    exact congrArg Except.ok hfilled.symm
  | cons p rest ih =>
    obtain ⟨r, literal⟩ := p
    have hreference : r.IsWritable := h.references _ List.mem_cons_self
    have hhead : (r.written ++ written ⟨literal, rest⟩).head? ≠ some '{' := by
      simp [Reference.written]
    rw [written_cons, expand_literal_append h.first hhead, expand_written_append hreference]
    by_cases hunset : r.IsUnset env
    · have hfirst : firstUnset? env ⟨first, (r, literal) :: rest⟩ = some r := by
        simp [firstUnset?, hunset]
      rw [if_pos hunset, hfirst]
      rfl
    · have hlater : firstUnset? env ⟨first, (r, literal) :: rest⟩ = firstUnset? env ⟨literal, rest⟩ := by
        simp [firstUnset?, hunset]
      rw [if_neg hunset, hlater, ih literal h.behind, filled_cons]
      cases firstUnset? env ⟨literal, rest⟩ <;> rfl

end Interpolation

/-- A text without a reference stays as it is. A text made of literals and references expands to its
literals with the replacements of the references between them if something stands for each one, and
the error is otherwise the name in the first for which nothing does. -/
theorem expand_in_one_pass (env : Environment) :
    (∀ t, IsLiteral t → expand env t = .ok t) ∧
      ∀ t : Interpolation, t.IsWritable →
        ((∀ p ∈ t.rest, ¬ p.1.IsUnset env) → expand env t.written = .ok (t.filled env)) ∧
        ∀ before r literal after, t.rest = before ++ (r, literal) :: after →
          (∀ p ∈ before, ¬ p.1.IsUnset env) → r.IsUnset env →
            expand env t.written = .error r.name := by
  refine ⟨fun t => expand_of_isLiteral, fun t ht => ⟨?_, ?_⟩⟩
  · intro hset
    have hnone : t.firstUnset? env = none := by
      simpa [Interpolation.firstUnset?] using hset
    rw [Interpolation.expand_written ht, hnone]
  · intro before r literal after hrest hset hunset
    have hfirst : t.firstUnset? env = some r := by
      rw [Interpolation.firstUnset?, hrest, List.map_append, List.find?_append,
        List.find?_eq_none.mpr (by simpa using hset)]
      simp [hunset]
    rw [Interpolation.expand_written ht, hfirst]

end Expand

/-- A literal may end with a dollar, a value may look like a reference or be empty, and a fallback may
hold the start of one. -/
theorem expand_in_one_pass_nested :
    let env : Environment := fun name =>
      if name = ['A'] then some "$\x7bB\x7d".toList else if name = ['E'] then some [] else none
    let t : Interpolation := {
      first := "x$".toList
      rest := [(⟨['A'], none⟩, []), (⟨['E'], some ['n']⟩, "é".toList),
        (⟨['U'], some "a$\x7b:b".toList⟩, [])] }
    let missing : Interpolation := { t with rest := t.rest ++ [(⟨['V'], none⟩, []), (⟨['U'], none⟩, [])] }
    t.IsWritable ∧ missing.IsWritable ∧
      t.written = "x$$\x7bA\x7d$\x7bE:-n\x7dé$\x7bU:-a$\x7b:b\x7d".toList ∧
      expand env t.written = .ok "x$$\x7bB\x7déa$\x7b:b".toList ∧
      expand env missing.written = .error ['V'] := by
  intro env t missing
  have ht : t.IsWritable := ⟨by decide, by decide, by decide⟩
  have hmissing : missing.IsWritable := ⟨by decide, by decide, by decide⟩
  have hset : ∀ p ∈ t.rest, ¬ p.1.IsUnset env := by decide
  refine ⟨ht, hmissing, by decide, ?_, ?_⟩
  · exact ((expand_in_one_pass env).2 t ht).1 hset
  · exact ((expand_in_one_pass env).2 missing hmissing).2 t.rest _ _ _ rfl hset ⟨rfl, rfl⟩

end FluentBuilder
