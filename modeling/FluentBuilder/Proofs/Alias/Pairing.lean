import FluentBuilder.Proofs.Alias.Outcome

namespace FluentBuilder.Alias

open Unicode

variable {t : Text}

/-- A colon that stands on its own: between a head and a type, with neither another colon nor what ends
a type directly in front of it, and with the type ended before the next colon. -/
structure Alone (before after : Text) : Prop where
  head : EndsWith (fun c => isSpace c = false ∧ c ≠ ':' ∧ endsType c = false) before
  type : Typed after
  next : ':' ∈ after → (after.takeWhile (· != ':')).any endsType

instance {before after : Text} : Decidable (Alone before after) :=
  decidable_of_iff
    (EndsWith (fun c => isSpace c = false ∧ c ≠ ':' ∧ endsType c = false) before ∧ Typed after ∧
      (':' ∈ after → (after.takeWhile (· != ':')).any endsType))
    ⟨fun ⟨head, type, next⟩ => ⟨head, type, next⟩, fun h => ⟨h.head, h.type, h.next⟩⟩

/-- What is left of `Alone` if the text is cut somewhere in front of the colon, perhaps inside of its
head. Unlike `Alone` it passes to every end of a text, so it can be carried along the scans. -/
structure Separated (before after : Text) : Prop where
  free : ¬EndsWith (fun c => endsType c) before
  type : Typed after
  next : ':' ∈ after → (after.takeWhile (· != ':')).any endsType

theorem Alone.separated {before after : Text} (h : Alone before after) : Separated before after where
  free := by
    rintro ⟨c, hlast, hends⟩
    obtain ⟨d, hlast', -, -, hkeep⟩ := h.head
    rw [Option.mem_unique hlast hlast', hkeep] at hends
    cases hends
  type := h.type
  next := h.next

theorem Separated.of_append {u before after : Text} (h : Separated (u ++ before) after) :
    Separated before after where
  free := by
    intro hends
    obtain ⟨c, b, hsuffix, hb, hc⟩ := exists_of_endsWith hends
    exact h.free (endsWith_of_suffix (hsuffix.trans (List.suffix_append u before)) hb
      (class_of_endsType hc).2.1 hc)
  type := h.type
  next := h.next

theorem everyColon_separated_of_suffix {s : Text} (h : EveryColon Separated t) (hs : s <:+ t) :
    EveryColon Separated s := by
  obtain ⟨u, rfl⟩ := hs
  rintro before after rfl
  exact (h (u ++ before) after (List.append_assoc u before _).symm).of_append

theorem exists_of_colonAhead (h : ColonAhead t) : ∃ b after, Text.IsBlank b ∧ t = b ++ ':' :: after := by
  obtain ⟨after, hafter⟩ := List.head?_eq_some_iff.mp h
  refine ⟨t.takeWhile isBlank, after, fun c hc => List.mem_takeWhile_imp hc, ?_⟩
  rw [← hafter, List.takeWhile_append_dropWhile]

theorem propertyNames_of_no_colon (h : ':' ∉ t) : propertyNames t = [] := by
  by_contra hne
  obtain ⟨before, after, rfl, -⟩ := propertyNames_ne_nil_iff.mp hne
  exact h List.mem_append_cons_self

/-- A type follows the colon of every head. -/
theorem exists_type_of_heads {head after : Text} {more : List (Text × Text)}
    (h : EveryColon Separated t) (hheads : heads t = (head, after) :: more) :
    t = head ++ ':' :: after ∧ ∃ type rest, type? after = some (type, rest) := by
  obtain ⟨-, -, -, -, -, -, -, hcut⟩ := exists_of_mem_heads (hheads ▸ List.mem_cons_self)
  obtain ⟨⟨type, rest⟩, htype⟩ :=
    Option.ne_none_iff_exists'.mp (type?_ne_none_iff.mpr (h head after hcut).type)
  exact ⟨hcut, type, rest, htype⟩

/-- The property scan passes the type behind a colon, and goes on where the member scan does. -/
theorem propertyNames_of_type? {head after type rest : Text}
    (h : EveryColon Separated (head ++ ':' :: after)) (htype : type? after = some (type, rest)) :
    propertyNames after = propertyNames rest := by
  obtain ⟨b, hb, hbefore, rfl⟩ := type?_eq_some_iff.mp htype
  have hcolon : ':' ∉ b ++ type := by
    intro hmem
    obtain ⟨u, v, huv⟩ := List.append_of_mem hmem
    -- The next colon would stand in the type, and nothing before it ends the type.
    have hcut : b ++ (type ++ rest) = u ++ ':' :: (v ++ rest) := by
      rw [← List.append_assoc, huv]
      simp
    have hbetween := (h head _ rfl).next (hcut ▸ List.mem_append_cons_self)
    rw [hcut, Text.takeWhile_append_cons (by decide)] at hbetween
    obtain ⟨c, hc, hends⟩ := List.any_eq_true.mp hbetween
    have hinside : c ∈ b ++ type := huv ▸ List.mem_append_left _ ((List.takeWhile_prefix _).subset hc)
    rcases List.mem_append.mp hinside with hc | hc
    · rw [endsType_eq_false_of_isBlank (hb c hc)] at hends
      cases hends
    · rw [hbefore.inside c hc] at hends
      cases hends
  have hnone : propertyNames (b ++ type) = [] := propertyNames_of_no_colon hcolon
  cases rest with
  | nil => rw [List.append_nil, hnone, propertyNames_nil]
  | cons x rest =>
    have hx : endsType x := hbefore.stops x rfl
    have hahead : ¬ColonAhead rest := by
      intro hcolon
      obtain ⟨b', after, hb', rfl⟩ := exists_of_colonAhead hcolon
      refine (h (head ++ ':' :: (b ++ (type ++ x :: b'))) after (by simp)).free ?_
      exact endsWith_of_suffix ⟨head ++ ':' :: (b ++ type), by simp⟩ hb' (class_of_endsType hx).2.1 hx
    have hstop : StopsBefore property? skipWord x rest := stopsBefore_property? hx hahead
    calc propertyNames (b ++ (type ++ x :: rest))
        = propertyNames (b ++ type) ++ propertyNames rest := by
          rw [← List.append_assoc, isScan_propertyNames.append hstop]
      _ = propertyNames [] ++ propertyNames rest := by rw [hnone, propertyNames_nil]
      _ = propertyNames (x :: rest) := (isScan_propertyNames.append hstop []).symm

theorem propertyNames_eq_map_memberList (h : EveryColon Separated t) :
    propertyNames t = (memberList t).map Member.name := by
  -- The induction follows the member scan; the property scan has to catch up with it behind each type.
  fun_induction memberList t with
  | case1 => exact propertyNames_nil
  | case2 t ht m rest hfound ih =>
    cases hheads : heads t with
    | nil =>
      rw [member?_of_heads_nil hheads] at hfound
      cases hfound
    | cons head more =>
      obtain ⟨head, after⟩ := head
      obtain ⟨rfl, type, left, htype⟩ := exists_type_of_heads h hheads
      rw [member?_eq_some_of_heads hheads htype] at hfound
      obtain ⟨rfl, rfl⟩ := Prod.mk.inj (Option.some.inj hfound)
      have hproperty : property? (head ++ ':' :: after) = some ((cleanHead head).1, after) := by
        rw [property?, hheads]
        rfl
      have hrest : EveryColon Separated left := by
        obtain ⟨b, -, -, rfl⟩ := type?_eq_some_iff.mp htype
        exact everyColon_separated_of_suffix h ⟨head ++ ':' :: (b ++ type), by simp⟩
      rw [propertyNames_of_some hproperty, propertyNames_of_type? h htype, ih hrest]
      rfl
  | case3 t ht hnone ih =>
    have hheads : heads t = [] := by
      by_contra hne
      obtain ⟨⟨head, after⟩, more, hheads⟩ := List.exists_cons_of_ne_nil hne
      obtain ⟨-, type, rest, htype⟩ := exists_type_of_heads h hheads
      rw [member?_eq_some_of_heads hheads htype] at hnone
      cases hnone
    rw [propertyNames_of_none (property?_eq_none.mpr hheads)]
    exact ih (everyColon_separated_of_suffix h (skipWord_suffix t))

theorem properties_eq_noProperties_iff :
    properties t = .error .noProperties ↔ propertyNames t = [] := by
  unfold properties
  cases propertyNames t <;> simp

/-- The properties of a document are the names of its members, if every colon stands on its own. -/
theorem properties_eq_names_of_members {document : Text} (h : EveryColon Alone document) :
    properties document = .error .noProperties ∧ members document = .error .noProperties ∨
      ∃ ms, members document = .ok ms ∧ properties document = .ok (ms.map Member.name) := by
  have hnames : propertyNames document = (memberList document).map Member.name :=
    propertyNames_eq_map_memberList fun before after hcut => (h before after hcut).separated
  by_cases hnil : memberList document = []
  · have hnone : propertyNames document = [] := by rw [hnames, hnil, List.map_nil]
    exact .inl ⟨properties_eq_noProperties_iff.mpr hnone,
      members_eq_noProperties_iff.mpr ⟨hnil, hnone⟩⟩
  · refine .inr ⟨memberList document, ?_, ?_⟩
    · exact (answers_members document).eq_ok_iff.mpr ⟨rfl, hnil⟩
    · exact (answers_properties document).eq_ok_iff.mpr ⟨hnames, by simpa using hnil⟩

/-- Types of several words, a mark behind blanks and a head that ends with a plus sign. -/
theorem properties_of_lone_colons :
    EveryColon Alone "a? : b c;\nd+:\te f, g:h".toList ∧
      properties "a? : b c;\nd+:\te f, g:h".toList =
        .ok ["a".toList, "d+".toList, "g".toList] := by
  have hcolons : EveryColon Alone "a? : b c;\nd+:\te f, g:h".toList := by
    decide +kernel
  have hmembers : members "a? : b c;\nd+:\te f, g:h".toList = .ok [
      { name := "a".toList, type := "b c".toList, optional := true },
      { name := "d+".toList, type := "e f".toList },
      { name := "g".toList, type := "h".toList }] := by
    decide +kernel
  refine ⟨hcolons, ?_⟩
  rcases properties_eq_names_of_members hcolons with ⟨-, hfailed⟩ | ⟨ms, hms, hnames⟩
  · rw [hmembers] at hfailed
    cases hfailed
  · rw [hmembers] at hms
    cases hms
    exact hnames

/-- With a comma directly before a colon, a word at the end of a type becomes part of a name. -/
example :
    properties "a: b,: c".toList = .ok ["a".toList, "b,".toList] ∧
      members "a: b,: c".toList = .ok [
        { name := "a".toList, type := "b".toList }, { name := ",".toList, type := "c".toList }] := by
  decide +kernel

end FluentBuilder.Alias
