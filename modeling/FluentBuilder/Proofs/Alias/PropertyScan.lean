import FluentBuilder.Proofs.Alias.MemberScan

namespace FluentBuilder.Alias

open Unicode

def property? (t : Text) : Option (Text × Text) :=
  (heads t).head?.map fun head => ((cleanHead head.1).1, head.2)

theorem property?_eq_some {t name rest : Text} (h : property? t = some (name, rest)) :
    ∃ head more, heads t = (head, rest) :: more ∧ (cleanHead head).1 = name := by
  obtain ⟨⟨head, left⟩, hhead, heq⟩ := Option.map_eq_some_iff.mp h
  obtain ⟨rfl, rfl⟩ := Prod.mk.inj heq
  obtain ⟨more, hmore⟩ := List.head?_eq_some_iff.mp hhead
  exact ⟨head, more, hmore, rfl⟩

theorem property?_eq_none {t : Text} : property? t = none ↔ heads t = [] := by
  rw [property?, Option.map_eq_none_iff, List.head?_eq_none_iff]

theorem propertyNames_nil : propertyNames [] = [] := by
  rw [propertyNames, dif_pos rfl]

theorem propertyNames_of_some {t rest name : Text} (h : property? t = some (name, rest)) :
    propertyNames t = name :: propertyNames rest := by
  obtain ⟨head, more, hheads, rfl⟩ := property?_eq_some h
  have ht : t ≠ [] := by
    rintro rfl
    cases hheads
  rw [propertyNames, dif_neg ht]
  split
  · rename_i heq
    rw [hheads] at heq
    cases heq
    rfl
  · rename_i heq
    rw [hheads] at heq
    cases heq

theorem propertyNames_of_none {t : Text} (h : property? t = none) :
    propertyNames t = propertyNames (skipWord t) := by
  rw [property?_eq_none] at h
  by_cases ht : t = []
  · subst ht
    rfl
  · rw [propertyNames, dif_neg ht]
    split
    · rename_i heq
      rw [h] at heq
      cases heq
    · rfl

theorem answers_properties (t : Text) : Answers (propertyNames t) (properties t) := by
  unfold properties
  cases propertyNames t with
  | nil => exact .inr ⟨rfl, _, rfl⟩
  | cons name rest => exact .inl ⟨List.cons_ne_nil name rest, rfl⟩

theorem isScan_propertyNames : IsScan property? skipWord propertyNames where
  nil := propertyNames_nil
  found := propertyNames_of_some
  skipped := propertyNames_of_none
  length_step_lt := by
    intro t rest name h
    obtain ⟨head, more, hheads, -⟩ := property?_eq_some h
    exact length_lt_of_mem_heads (hheads ▸ List.mem_cons_self)
  length_skip_lt := length_skipWord_lt

theorem stopsAtLineEnds_property? : StopsAtLineEnds property? skipWord where
  step?_append := by
    intro x hx s t
    rw [property?, heads_append_lineEnd hx, List.head?_map, property?, Option.map_map, Option.map_map]
    rfl
  skip_append := fun hx => skipWord_append_cons (class_of_endsLine hx).1

/-- What ends a type stops the scan for properties too, unless it is the last character of a head. -/
theorem stopsBefore_property? {x : Char} {t : Text} (hx : endsType x) (hahead : ¬ColonAhead t) :
    StopsBefore property? skipWord x t where
  step?_append := by
    intro s
    obtain ⟨hword, hblank, hcolon⟩ := class_of_endsType hx
    rw [property?, heads_append_cons hword hblank hcolon (.inr hahead), List.head?_map, property?,
      Option.map_map, Option.map_map]
    rfl
  skip_append := fun s => skipWord_append_cons (class_of_endsType hx).1 s t

end FluentBuilder.Alias
