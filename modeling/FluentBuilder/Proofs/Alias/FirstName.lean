import FluentBuilder.Alias.Name
import FluentBuilder.Proofs.Text.Runs

namespace FluentBuilder.Alias

open Unicode

/-- A declaration of `w` stands behind `u`: `export type`, one white-space character and a word. The text
before it does not end inside a word, and nothing of the word is left out. -/
def DeclaresBehind (t u w : Text) : Prop :=
  ∃ c v, t = u ++ ("export type".toList ++ c :: (w ++ v)) ∧ isSpace c ∧ w.IsWord ∧
    (∀ d, v.head? = some d → isWord d = false) ∧ ∀ d, u.getLast? = some d → isWord d = false

variable {insideWord : Bool} {c : Char} {t u u' w w' : Text}

theorem startsWithWord_iff :
    (∃ v, t = w ++ v ∧ w.IsWord ∧ ∀ d, v.head? = some d → isWord d = false) ↔
      t.takeWhile isWord = w ∧ w ≠ [] := by
  constructor
  · rintro ⟨v, rfl, hw, hstop⟩
    exact ⟨Text.takeWhile_append_of_stop hw.2 hstop, hw.1⟩
  · rintro ⟨rfl, hne⟩
    exact ⟨t.dropWhile isWord, List.takeWhile_append_dropWhile.symm,
      ⟨hne, fun d hd => List.mem_takeWhile_imp hd⟩, fun d hd => Text.eq_false_of_head?_dropWhile hd⟩

theorem declaredName?_eq_some_iff : declaredName? t = some w ↔ DeclaresBehind t [] w := by
  have hstart : DeclaresBehind t [] w ↔ ∃ c rest, t = "export type".toList ++ c :: rest ∧ isSpace c ∧
      rest.takeWhile isWord = w ∧ w ≠ [] := by
    simp only [← startsWithWord_iff]
    constructor
    · rintro ⟨c, v, rfl, hc, hw, hstop, -⟩
      exact ⟨c, w ++ v, rfl, hc, v, rfl, hw, hstop⟩
    · rintro ⟨c, _, rfl, hc, v, rfl, hw, hstop⟩
      exact ⟨c, v, rfl, hc, hw, hstop, nofun⟩
  -- what the scan takes is the longest run of word characters, so nothing of the word is left out
  rw [hstart]
  constructor
  · intro h
    unfold declaredName? at h
    split at h
    · rename_i c rest hrest
      simp only at h
      split_ifs at h with hfits
      cases h
      exact ⟨c, rest, (List.isPrefixOf?_eq_some_iff_append_eq.mp hrest).symm, by simpa using hfits⟩
    · cases h
  · rintro ⟨c, rest, rfl, hc, rfl, hne⟩
    have hkeyword : "export type".toList.isPrefixOf? ("export type".toList ++ c :: rest) =
        some (c :: rest) := List.isPrefixOf?_eq_some_iff_append_eq.mpr rfl
    rw [declaredName?, hkeyword]
    simp [hc, hne]

def endsInWord (insideWord : Bool) (u : Text) : Bool :=
  u.foldl (fun _ c => isWord c) insideWord

theorem endsInWord_eq_false_iff :
    endsInWord false u = false ↔ ∀ c, u.getLast? = some c → isWord c = false := by
  rcases List.eq_nil_or_concat' u with rfl | ⟨u, c, rfl⟩
  · simp [endsInWord]
  · simp [endsInWord]

def DeclaresFrom (insideWord : Bool) (t u w : Text) : Prop :=
  ∃ r, t = u ++ r ∧ DeclaresBehind r [] w ∧ endsInWord insideWord u = false

theorem declaresFrom_false_iff : DeclaresFrom false t u w ↔ DeclaresBehind t u w := by
  constructor
  · rintro ⟨r, rfl, ⟨c, v, rfl, hc, hw, hstop, -⟩, hends⟩
    exact ⟨c, v, rfl, hc, hw, hstop, endsInWord_eq_false_iff.mp hends⟩
  · rintro ⟨c, v, rfl, hc, hw, hstop, hends⟩
    exact ⟨_, rfl, ⟨c, v, rfl, hc, hw, hstop, nofun⟩, endsInWord_eq_false_iff.mpr hends⟩

theorem declaresFrom_nil_iff :
    DeclaresFrom insideWord t [] w ↔ (if insideWord then none else declaredName? t) = some w := by
  have hhere : DeclaresFrom insideWord t [] w ↔ insideWord = false ∧ DeclaresBehind t [] w := by
    simp [DeclaresFrom, endsInWord, and_comm]
  rw [hhere, ← declaredName?_eq_some_iff]
  cases insideWord <;> simp

theorem declaresFrom_cons_iff {d : Char} :
    DeclaresFrom insideWord (c :: t) (d :: u) w ↔ d = c ∧ DeclaresFrom (isWord c) t u w := by
  constructor
  · rintro ⟨r, hr, hdeclares, hends⟩
    obtain ⟨rfl, rfl⟩ := List.cons.inj hr
    exact ⟨rfl, r, rfl, hdeclares, hends⟩
  · rintro ⟨rfl, r, rfl, hdeclares, hends⟩
    exact ⟨r, rfl, hdeclares, hends⟩

theorem not_declaresFrom_nil : ¬DeclaresFrom insideWord [] u w := by
  rintro ⟨r, hr, ⟨c, v, hkeyword, -⟩, -⟩
  rw [(List.append_eq_nil_iff.mp hr.symm).2] at hkeyword
  exact absurd hkeyword (by simp)

theorem not_declaresFrom_of_firstName? (h : firstName? insideWord t = none) (u w : Text) :
    ¬DeclaresFrom insideWord t u w := by
  fun_induction firstName? insideWord t generalizing u with
  | case1 => exact not_declaresFrom_nil
  | case2 => cases h
  | case3 insideWord c rest hhere ih =>
    cases u with
    | nil =>
      rw [declaresFrom_nil_iff, hhere]
      exact nofun
    | cons d u =>
      rw [declaresFrom_cons_iff]
      exact fun hlater => ih h u hlater.2

theorem exists_first_of_firstName? (h : firstName? insideWord t = some w) :
    ∃ u, DeclaresFrom insideWord t u w ∧
      ∀ u' w', DeclaresFrom insideWord t u' w' → u.length ≤ u'.length := by
  fun_induction firstName? insideWord t with
  | case1 => cases h
  | case2 insideWord c rest name hhere =>
    exact ⟨[], declaresFrom_nil_iff.mpr (hhere.trans h), fun _ _ _ => Nat.zero_le _⟩
  | case3 insideWord c rest hhere ih =>
    obtain ⟨u, hu, hfirst⟩ := ih h
    refine ⟨c :: u, declaresFrom_cons_iff.mpr ⟨rfl, hu⟩, ?_⟩
    intro u' w' hu'
    cases u' with
    | nil =>
      rw [declaresFrom_nil_iff, hhere] at hu'
      cases hu'
    | cons d u' => exact Nat.succ_le_succ (hfirst u' w' (declaresFrom_cons_iff.mp hu').2)

/-- The declaration behind `u` is the one that stands nearest to the start of the text. -/
structure IsFirst (t u w : Text) : Prop where
  declares : DeclaresBehind t u w
  le : ∀ u' w', DeclaresBehind t u' w' → u.length ≤ u'.length

theorem IsFirst.unique (h : IsFirst t u w) (h' : IsFirst t u' w') : w = w' := by
  have hlength : u.length = u'.length :=
    Nat.le_antisymm (h.le u' w' h'.declares) (h'.le u w h.declares)
  obtain ⟨r, rfl, hhere, -⟩ := declaresFrom_false_iff.mpr h.declares
  obtain ⟨r', hr, hhere', -⟩ := declaresFrom_false_iff.mpr h'.declares
  obtain ⟨-, rfl⟩ := List.append_inj hr hlength
  have hsame := (declaredName?_eq_some_iff.mpr hhere).symm.trans (declaredName?_eq_some_iff.mpr hhere')
  exact Option.some.inj hsame

theorem exists_isFirst_of_firstName? (h : firstName? false t = some w) : ∃ u, IsFirst t u w := by
  obtain ⟨u, hu, hfirst⟩ := exists_first_of_firstName? h
  simp only [declaresFrom_false_iff] at hu hfirst
  exact ⟨u, hu, hfirst⟩

theorem name_eq_error_iff : name t = .error .aliasNameNotFound ↔ ∀ u w, ¬DeclaresBehind t u w := by
  unfold name
  cases hname : firstName? false t with
  | none =>
    have hnone := not_declaresFrom_of_firstName? hname
    simp only [declaresFrom_false_iff] at hnone
    exact iff_of_true rfl hnone
  | some w =>
    obtain ⟨u, hu⟩ := exists_isFirst_of_firstName? hname
    exact iff_of_false nofun fun hnone => hnone u w hu.declares

theorem name_eq_ok_iff : name t = .ok w ↔ ∃ u, IsFirst t u w := by
  cases hname : firstName? false t with
  | none =>
    have herror : name t = .error .aliasNameNotFound := by rw [name, hname]
    rw [herror]
    exact iff_of_false nofun fun ⟨u, hu⟩ => name_eq_error_iff.mp herror u w hu.declares
  | some w' =>
    have hok : name t = .ok w' := by rw [name, hname]
    obtain ⟨u', hu'⟩ := exists_isFirst_of_firstName? hname
    rw [hok, Except.ok.injEq]
    constructor
    · rintro rfl
      exact ⟨u', hu'⟩
    · rintro ⟨u, hu⟩
      exact hu'.unique hu

theorem isWord_of_name (h : name t = .ok w) : w.IsWord := by
  obtain ⟨u, ⟨c, v, -, -, hw, -⟩, -⟩ := name_eq_ok_iff.mp h
  exact hw

/-- Why `export type` between `u` and `r` declares nothing. -/
inductive IsIdle : Text → Text → Prop where
  | glued {u r : Text} {c : Char} (hc : isWord c) : IsIdle (u ++ [c]) r
  | unspaced {u r : Text} (hr : ∀ c, r.head? = some c → isSpace c = false) : IsIdle u r
  /-- No word stands behind the first character that follows it, but a second blank or a mark. -/
  | unnamed {u r : Text} {c : Char} (hr : ∀ d, r.head? = some d → isWord d = false) : IsIdle u (c :: r)

theorem IsIdle.not_declaresBehind {r : Text} (h : IsIdle u r) (w : Text) :
    ¬DeclaresBehind (u ++ ("export type".toList ++ r)) u w := by
  rintro ⟨c, v, heq, hc, ⟨hne, hw⟩, -, hends⟩
  obtain rfl := List.append_cancel_left (List.append_cancel_left heq)
  cases h with
  | @glued u _ d hd =>
    rw [hends d List.getLast?_concat] at hd
    cases hd
  | unspaced hr =>
    rw [hr c rfl] at hc
    cases hc
  | unnamed hr =>
    obtain ⟨d, w, rfl⟩ := List.exists_cons_of_ne_nil hne
    have hd := hw d List.mem_cons_self
    rw [hr d rfl] at hd
    cases hd

theorem isIdle_of_not_declaresBehind {r : Text}
    (h : ∀ w, ¬DeclaresBehind (u ++ ("export type".toList ++ r)) u w) : IsIdle u r := by
  by_cases hglued : ∃ c, u.getLast? = some c ∧ isWord c
  · obtain ⟨c, hlast, hc⟩ := hglued
    obtain ⟨v, rfl⟩ := List.getLast?_eq_some_iff.mp hlast
    exact .glued hc
  · have hends : ∀ c, u.getLast? = some c → isWord c = false :=
      fun c hlast => Bool.eq_false_iff.mpr fun hc => hglued ⟨c, hlast, hc⟩
    cases r with
    | nil => exact .unspaced nofun
    | cons c r =>
      cases hc : isSpace c with
      | false => exact .unspaced fun d hd => Option.some.inj hd ▸ hc
      | true =>
        refine .unnamed fun d hd => Bool.eq_false_iff.mpr fun hword => ?_
        -- Otherwise the word that goes on there is declared.
        have hne : r.takeWhile isWord ≠ [] := by
          obtain ⟨rest, rfl⟩ := List.head?_eq_some_iff.mp hd
          rw [List.takeWhile_cons_of_pos hword]
          exact List.cons_ne_nil d _
        obtain ⟨v, hr, hw, hstop⟩ := startsWithWord_iff.mpr ⟨rfl, hne⟩
        exact h _ ⟨c, v, by rw [← hr], hc, hw, hstop, hends⟩

/-- The name of a document is the one that is declared first. There is none if nothing is declared, that
is, if each `export type` continues a word or has no white-space character with a word behind it. -/
theorem name_is_first_declared (t : Text) :
    (∀ w, name t = .ok w ↔ ∃ u, DeclaresBehind t u w ∧
      ¬∃ u' w', DeclaresBehind t u' w' ∧ u'.length < u.length) ∧
    (name t = .error .aliasNameNotFound ↔ ¬∃ u w, DeclaresBehind t u w) ∧
    (name t = .error .aliasNameNotFound ↔
      ∀ u r, t = u ++ ("export type".toList ++ r) → IsIdle u r) := by
  refine ⟨fun w => ?_, ?_, ?_⟩
  · rw [name_eq_ok_iff]
    constructor
    · rintro ⟨u, hu, hfirst⟩
      exact ⟨u, hu, fun ⟨u', w', hu', hlt⟩ => absurd (hfirst u' w' hu') (Nat.not_le.mpr hlt)⟩
    · rintro ⟨u, hu, hfirst⟩
      exact ⟨u, hu, fun u' w' hu' => Nat.not_lt.mp fun hlt => hfirst ⟨u', w', hu', hlt⟩⟩
  · simp only [name_eq_error_iff, not_exists]
  · rw [name_eq_error_iff]
    constructor
    · rintro hnone u r rfl
      exact isIdle_of_not_declaresBehind (hnone u)
    · intro hidle u w hu
      have hoccurs := hu
      obtain ⟨c, v, rfl, -⟩ := hoccurs
      exact (hidle u _ rfl).not_declaresBehind w hu

/-- Three occurrences that declare nothing stand before the declaration. -/
example : name "reexport type A; export type  B; export type =\nexport type\tÉtat<T>".toList =
    .ok "État".toList := by
  decide +kernel

end FluentBuilder.Alias
