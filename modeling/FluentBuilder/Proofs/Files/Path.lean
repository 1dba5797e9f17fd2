import FluentBuilder.Files.Path
import FluentBuilder.Proofs.Text.Pieces
import Mathlib.Data.List.Infix

namespace FluentBuilder.Path

/-- A name that leads from a directory to something in it. -/
def IsName (name : Text) : Prop :=
  name ≠ [] ∧ name ≠ ['.'] ∧ name ≠ ['.', '.'] ∧ '/' ∉ name

instance (name : Text) : Decidable (IsName name) :=
  inferInstanceAs (Decidable (_ ∧ _ ∧ _ ∧ _))

variable {place : List Text}

theorem pieces_ofNames (hplace : ∀ name ∈ place, IsName name) (hne : place ≠ []) :
    (ofNames true place).pieces '/' = [] :: place := by
  have hslash : ∀ name ∈ place, '/' ∉ name := fun name hname => (hplace name hname).2.2.2
  have hroot : (ofNames true place).pieces '/' =
      Text.pieces '/' [] ++ Text.pieces '/' (['/'].intercalate place) :=
    Text.pieces_append_cons '/' [] _
  rw [hroot, Text.pieces_intercalate hslash hne]
  rfl

theorem names_ofNames_of_kept (absolute : Bool) (hslash : ∀ name ∈ place, '/' ∉ name)
    (hkept : ∀ name ∈ place, name ≠ [] ∧ name ≠ ['.']) : names (ofNames absolute place) = place := by
  have hrelative : names (['/'].intercalate place) = place := by
    by_cases hne : place = []
    · rw [hne]
      decide
    · rw [names, Text.pieces_intercalate hslash hne, List.filter_eq_self]
      intro name hname
      simp [hkept name hname]
  cases absolute with
  | false => exact hrelative
  | true =>
    -- The slash at the start gives an empty piece, which is no name.
    have hslash : names ('/' :: ['/'].intercalate place) = names (['/'].intercalate place) := by
      simp [names, Text.pieces]
    exact hslash.trans hrelative

theorem names_ofNames (hplace : ∀ name ∈ place, IsName name) :
    names (ofNames true place) = place := by
  refine names_ofNames_of_kept true (fun name hname => (hplace name hname).2.2.2) ?_
  intro name hname
  exact ⟨(hplace name hname).1, (hplace name hname).2.1⟩

theorem initialParts_eq_inits (names : List Text) : initialParts names = names.inits := by
  induction names with
  | nil => rfl
  | cons name names ih => rw [initialParts, ih, List.inits_cons]

theorem inits_eq_dropLast (names : List Text) : names.inits = names.inits.dropLast ++ [names] := by
  rcases List.eq_nil_or_concat' names with rfl | ⟨before, last, rfl⟩
  · rfl
  · have hinits : (before ++ [last]).inits = before.inits ++ [before ++ [last]] := by
      simp
    rw [hinits, List.dropLast_concat]

theorem mem_dropLast_inits {above : List Text} :
    above ∈ place.inits.dropLast ↔ above <+: place ∧ above ≠ place := by
  rcases List.eq_nil_or_concat' place with rfl | ⟨before, last, rfl⟩
  · simp
  · have hinits : (before ++ [last]).inits = before.inits ++ [before ++ [last]] := by
      simp
    rw [hinits, List.dropLast_concat, List.mem_inits, List.prefix_concat_iff]
    constructor
    · intro h
      refine ⟨Or.inr h, ?_⟩
      rintro rfl
      have hlength := h.length_le
      rw [List.length_append, List.length_singleton] at hlength
      omega
    · rintro ⟨rfl | h, hne⟩
      · exact absurd rfl hne
      · exact h

/-- The directories above a place, the place itself first. -/
def upwards (place : List Text) : List (List Text) :=
  place.inits.reverse

theorem mem_upwards {above : List Text} : above ∈ upwards place ↔ above <+: place := by
  rw [upwards, List.mem_reverse, List.mem_inits]

theorem upwards_eq_cons (place : List Text) :
    upwards place = place :: place.inits.dropLast.reverse := by
  rw [upwards, inits_eq_dropLast, List.reverse_append, List.dropLast_concat]
  rfl

theorem ancestors_ofNames (hplace : ∀ name ∈ place, IsName name) :
    ancestors (ofNames true place) = (upwards place).map (ofNames true) := by
  have habsolute : isAbsolute (ofNames true place) = true := rfl
  rw [ancestors, names_ofNames hplace, habsolute, initialParts_eq_inits, upwards_eq_cons]
  rfl

theorem kept_of_mem_names {path name : Text} (h : name ∈ names path) :
    '/' ∉ name ∧ name ≠ [] ∧ name ≠ ['.'] := by
  obtain ⟨hpiece, hkept⟩ := List.mem_filter.mp h
  refine ⟨Text.not_mem_of_mem_pieces hpiece, ?_⟩
  simpa using hkept

theorem isAbsolute_ofNames {absolute : Bool} (hslash : ∀ name ∈ place, '/' ∉ name)
    (hkept : ∀ name ∈ place, name ≠ [] ∧ name ≠ ['.']) :
    isAbsolute (ofNames absolute place) = absolute := by
  cases absolute with
  | true => rfl
  | false =>
    cases place with
    | nil => rfl
    | cons name place =>
      obtain ⟨c, more, rfl⟩ := List.exists_cons_of_ne_nil (hkept name List.mem_cons_self).1
      have hc : c ≠ '/' := by
        rintro rfl
        exact hslash _ List.mem_cons_self List.mem_cons_self
      cases place <;> simp [isAbsolute, ofNames, hc]

theorem map_names_ancestors (path : Text) : (ancestors path).map names = upwards (names path) := by
  have hparts : ∀ part ∈ (names path).inits.dropLast.reverse,
      names (ofNames (isAbsolute path) part) = part := by
    intro part hpart
    have hpart := (mem_dropLast_inits.mp (List.mem_reverse.mp hpart)).1
    refine names_ofNames_of_kept _ ?_ ?_
    · exact fun name hname => (kept_of_mem_names (hpart.subset hname)).1
    · exact fun name hname => (kept_of_mem_names (hpart.subset hname)).2
  rw [ancestors, initialParts_eq_inits, List.map_cons, List.map_map, upwards_eq_cons]
  congr 1
  exact (List.map_congr_left hparts).trans (List.map_id _)

theorem isAbsolute_of_mem_ancestors {path above : Text} (h : above ∈ ancestors path) :
    isAbsolute above = isAbsolute path := by
  rw [ancestors, initialParts_eq_inits] at h
  rcases List.mem_cons.mp h with rfl | h
  · rfl
  · obtain ⟨part, hpart, rfl⟩ := List.mem_map.mp h
    have hpart := (mem_dropLast_inits.mp (List.mem_reverse.mp hpart)).1
    refine isAbsolute_ofNames ?_ ?_
    · exact fun name hname => (kept_of_mem_names (hpart.subset hname)).1
    · exact fun name hname => (kept_of_mem_names (hpart.subset hname)).2

end FluentBuilder.Path
