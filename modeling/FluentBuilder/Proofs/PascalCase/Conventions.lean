import FluentBuilder.Builder.Fragments
import FluentBuilder.Proofs.PascalCase
import FluentBuilder.Proofs.Unicode.Ascii
import Mathlib

namespace FluentBuilder

namespace PascalCase

open Unicode

section Cuts

variable {cluster next : Text} {cs rest : List Text}

theorem words_ne_nil (cs : List Text) : words cs ≠ [] := by
  fun_cases words cs <;> simp_all

theorem not_isSeparator_of_isLower (h : isLower cluster) : isSeparator cluster = false := by
  rw [Bool.eq_false_iff]
  intro hseparator
  simp only [isSeparator, Bool.or_eq_true, beq_iff_eq] at hseparator
  obtain (rfl | rfl) | rfl := hseparator <;> revert h <;> decide

theorem isSeparator_not_cased (h : isSeparator cluster) :
    isLower cluster = false ∧ isUpper cluster = false ∧ isDigit cluster = false := by
  simp only [isSeparator, Bool.or_eq_true, beq_iff_eq] at h
  obtain (rfl | rfl) | rfl := h <;> decide

theorem not_isLower_of_isUpper (h : isUpper cluster) : isLower cluster = false := by
  rw [Bool.eq_false_iff]
  intro hlower
  simp only [isUpper, isLower, Bool.and_eq_true, bne_iff_ne, beq_iff_eq] at h hlower
  exact h.1 (h.2.symm.trans hlower.2)

theorem not_isUpper_of_isLower (h : isLower cluster) : isUpper cluster = false := by
  rw [Bool.eq_false_iff]
  intro hupper
  rw [not_isLower_of_isUpper hupper] at h
  cases h

/-- Past the next cluster, a word only looks for a lower one, to end before the last capital. -/
theorem endsWord_append (hcs : cs ≠ []) (hnext : isLower next = false) :
    endsWord cluster (cs ++ next :: rest) = endsWord cluster cs := by
  match cs with
  | [_] => simp [endsWord, hnext]
  | _ :: _ :: _ => rfl

/-- A cut before a cluster that is not in lower case stays one when a cluster is put in front. -/
theorem words_cons_append (hcs : cs ≠ []) (hnext : isLower next = false) {more : List Text}
    (h : words (cs ++ next :: rest) = words cs ++ more) :
    words (cluster :: (cs ++ next :: rest)) = words (cluster :: cs) ++ more := by
  obtain ⟨word, others, hwords⟩ := List.exists_cons_of_ne_nil (words_ne_nil cs)
  rw [words, words, endsWord_append hcs hnext, h, hwords]
  split_ifs <;> rfl

/-- A separator cuts a name in two, whatever stands on its sides. -/
theorem words_append_separator {separator : Text} (h : isSeparator separator) (cs rest : List Text) :
    words (cs ++ separator :: rest) = words cs ++ words rest := by
  obtain ⟨hlower, hupper, hdigit⟩ := isSeparator_not_cased h
  have hseparator : words (separator :: rest) = [] :: words rest := by
    rw [words, if_pos h]
  induction cs with
  | nil => exact hseparator
  | cons cluster cs ih =>
    by_cases hcs : cs = []
    · have hgoes : endsWord cluster (separator :: rest) = false := by
        simp [endsWord, hlower, hupper, hdigit]
      rw [hcs, List.singleton_append, words, hgoes, hseparator]
      by_cases hcluster : isSeparator cluster <;> simp [words, endsWord, hcluster]
    · exact words_cons_append hcs hlower ih

/-- A capital after a letter in lower case cuts a name in two. -/
theorem words_append_capital (hlast : cs.getLast?.any isLower) (hnext : isUpper next)
    (rest : List Text) :
    words (cs ++ next :: rest) = words cs ++ words (next :: rest) := by
  induction cs with
  | nil => cases hlast
  | cons cluster cs ih =>
    by_cases hcs : cs = []
    · subst hcs
      have hlower : isLower cluster := hlast
      have hends : endsWord cluster (next :: rest) := by
        simp [endsWord, hlower, hnext]
      have hword : isSeparator cluster = false := not_isSeparator_of_isLower hlower
      have halone : words [cluster] = [cluster] := by
        simp [words, hword, endsWord]
      rw [List.singleton_append, words, if_neg (by simp [hword]), if_pos hends, halone]
      rfl
    · rw [List.getLast?_cons_of_ne_nil hcs] at hlast
      exact words_cons_append hcs (not_isLower_of_isUpper hnext) (ih hlast)

end Cuts

section Letters

variable {c : Char} {w : Text}

theorem ascii_of_isAlpha (h : c.isAlpha) : c.toNat < 0x80 := by
  delta Char.isAlpha Char.isUpper Char.isLower at h
  simp only [Bool.or_eq_true, Bool.and_eq_true, decide_eq_true_eq, ge_iff_le,
    UInt32.le_iff_toNat_le] at h
  have hc : c.toNat = c.val.toNat := rfl
  have hZ : 'Z'.val.toNat = 90 := rfl
  have hz : 'z'.val.toNat = 122 := rfl
  omega

theorem isAlpha_of_isLower (h : c.isLower) : c.isAlpha := by
  simp [Char.isAlpha, h]

theorem isAlpha_of_isUpper (h : c.isUpper) : c.isAlpha := by
  simp [Char.isAlpha, h]

theorem isLower_letter (h : c.isLower) : isLower [c] :=
  ascii_of_codes (p := fun c => c.isLower → isLower [c]) (by decide +kernel)
    (ascii_of_isAlpha (isAlpha_of_isLower h)) h

theorem isUpper_letter (h : c.isUpper) : isUpper [c] :=
  ascii_of_codes (p := fun c => c.isUpper → isUpper [c]) (by decide +kernel)
    (ascii_of_isAlpha (isAlpha_of_isUpper h)) h

theorem not_isDigit_letter (h : c.isAlpha) : isDigit [c] = false :=
  ascii_of_codes (p := fun c => c.isAlpha → isDigit [c] = false) (by decide +kernel)
    (ascii_of_isAlpha h) h

theorem not_isSeparator_letter (h : c.isAlpha) : isSeparator [c] = false :=
  ascii_of_codes (p := fun c => c.isAlpha → isSeparator [c] = false) (by decide +kernel)
    (ascii_of_isAlpha h) h

theorem words_letter_cons {cs : List Text} (hc : c.isAlpha) (hgoes : endsWord [c] cs = false)
    (hw : words cs = [w]) : words ([c] :: cs) = [c :: w] := by
  rw [words, not_isSeparator_letter hc, hgoes, hw]
  rfl

/-- Letters in lower case are one word, with any letter in front. -/
theorem words_of_lower_tail (hc : c.isAlpha) (hw : ∀ d ∈ w, d.isLower) :
    words ((c :: w).map ([·])) = [c :: w] := by
  induction w generalizing c with
  | nil => exact words_letter_cons hc rfl rfl
  | cons d w ih =>
    obtain ⟨hd, hw⟩ := List.forall_mem_cons.mp hw
    have hd' : d.isAlpha := isAlpha_of_isLower hd
    have hgoes : endsWord [c] ((d :: w).map ([·])) = false := by
      simp [endsWord, not_isUpper_of_isLower (isLower_letter hd), not_isDigit_letter hc,
        not_isDigit_letter hd']
    exact words_letter_cons hc hgoes (ih hd' hw)

/-- Two capitals only part before a letter in lower case. -/
theorem endsWord_upper (hc : c.isUpper) (hw : ∀ d ∈ w, d.isUpper) :
    endsWord [c] (w.map ([·])) = false := by
  have hlower : ∀ d : Char, d.isUpper → isLower [d] = false :=
    fun d hd => not_isLower_of_isUpper (isUpper_letter hd)
  have hdigit : ∀ d : Char, d.isUpper → isDigit [d] = false :=
    fun d hd => not_isDigit_letter (isAlpha_of_isUpper hd)
  match w with
  | [] => rfl
  | [d] => simp [endsWord, hlower c hc, hdigit c hc, hdigit d (hw d (by simp))]
  | d :: e :: w =>
    simp [endsWord, hlower c hc, hdigit c hc, hdigit d (hw d (by simp)), hlower e (hw e (by simp))]

/-- Capitals are one word. -/
theorem words_of_upper (hw : ∀ c ∈ w, c.isUpper) : words (w.map ([·])) = [w] := by
  induction w with
  | nil => rfl
  | cons c w ih =>
    obtain ⟨hc, hw⟩ := List.forall_mem_cons.mp hw
    exact words_letter_cons (isAlpha_of_isUpper hc) (endsWord_upper hc hw) (ih hw)

end Letters

def capitalized (w : Text) : Text :=
  w.modifyHead Char.toUpper

structure IsLowerWord (w : Text) : Prop where
  two_le_length : 2 ≤ w.length
  lower : ∀ c ∈ w, c.isLower

instance : DecidablePred IsLowerWord := fun w =>
  decidable_of_iff (2 ≤ w.length ∧ w.all Char.isLower)
    ⟨fun h => ⟨h.1, List.all_eq_true.mp h.2⟩, fun h => ⟨h.1, List.all_eq_true.mpr h.2⟩⟩

/-- Ways to write several words as one name. -/
inductive Convention
  | snake
  | kebab
  | screamingSnake
  | camel
  | pascal
deriving DecidableEq, Repr

def Convention.spell : Convention → List Text → Text
  | .snake, ws => ['_'].intercalate ws
  | .kebab, ws => ['-'].intercalate ws
  | .screamingSnake, ws => ['_'].intercalate (ws.map (·.map Char.toUpper))
  | .camel, [] => []
  | .camel, w :: ws => w ++ ws.flatMap capitalized
  | .pascal, ws => ws.flatMap capitalized

section Words

variable {w : Text} {ws : List Text}

theorem IsLowerWord.exists_cons (h : IsLowerWord w) :
    ∃ c d tail, w = c :: d :: tail ∧ c.isLower ∧ ∀ e ∈ d :: tail, e.isLower := by
  obtain ⟨hlength, hlower⟩ := h
  match w with
  | [] => cases hlength
  | [_] => simp at hlength
  | c :: d :: tail => exact ⟨c, d, tail, rfl, List.forall_mem_cons.mp hlower⟩

/-- A word that a capital after it ends. -/
structure IsHump (w : Text) : Prop where
  words_eq : words (w.map ([·])) = [w]
  last_lower : (w.map ([·])).getLast?.any isLower

theorem isHump_of_tail {c d : Char} {tail : Text} (hc : c.isAlpha)
    (htail : ∀ e ∈ d :: tail, e.isLower) : IsHump (c :: d :: tail) where
  words_eq := words_of_lower_tail hc htail
  last_lower := by
    have hne : d :: tail ≠ [] := List.cons_ne_nil d tail
    rw [List.getLast?_map, List.getLast?_cons_cons, List.getLast?_eq_getLast_of_ne_nil hne]
    exact isLower_letter (htail _ (List.getLast_mem hne))

theorem IsLowerWord.isHump (h : IsLowerWord w) : IsHump w := by
  obtain ⟨c, d, tail, rfl, hc, htail⟩ := h.exists_cons
  exact isHump_of_tail (isAlpha_of_isLower hc) htail

theorem IsLowerWord.exists_capitalized (h : IsLowerWord w) :
    IsHump (capitalized w) ∧ ∃ c tail, capitalized w = c :: tail ∧ c.isUpper := by
  obtain ⟨c, d, tail, rfl, hc, htail⟩ := h.exists_cons
  have hcapital : c.toUpper.isUpper := by
    rw [Char.isUpper_toUpper_eq_isAlpha, isAlpha_of_isLower hc]
  exact ⟨isHump_of_tail (isAlpha_of_isUpper hcapital) htail, _, _, rfl, hcapital⟩

/-- Separated words come back, each as it was written. -/
theorem words_intercalate {separator : Char} (h : isSeparator [separator])
    (hw : words (w.map ([·])) = [w]) (hws : ∀ v ∈ ws, words (v.map ([·])) = [v]) :
    words (([separator].intercalate (w :: ws)).map ([·])) = w :: ws := by
  induction ws generalizing w with
  | nil => simpa using hw
  | cons v vs ih =>
    obtain ⟨hv, hvs⟩ := List.forall_mem_cons.mp hws
    have hcut : ([separator].intercalate (w :: v :: vs)).map ([·]) =
        w.map ([·]) ++ [separator] :: ([separator].intercalate (v :: vs)).map ([·]) := by
      simp [List.intercalate_cons_cons]
    rw [hcut, words_append_separator h, hw, ih hv hvs]
    rfl

/-- Words with a capital at their start come back from a name without separators. -/
theorem words_humps (hw : IsHump w) (hws : ∀ v ∈ ws, IsLowerWord v) :
    words ((w ++ ws.flatMap capitalized).map ([·])) = w :: ws.map capitalized := by
  induction ws generalizing w with
  | nil => simpa using hw.words_eq
  | cons v vs ih =>
    obtain ⟨hv, hvs⟩ := List.forall_mem_cons.mp hws
    obtain ⟨hhump, c, tail, hcapital, hc⟩ := hv.exists_capitalized
    -- a word of one capital alone would run on into the capital of the next
    have hcut : words ((w ++ (capitalized v ++ vs.flatMap capitalized)).map ([·])) =
        words (w.map ([·])) ++ words ((capitalized v ++ vs.flatMap capitalized).map ([·])) := by
      rw [List.map_append, hcapital]
      exact words_append_capital hw.last_lower (isUpper_letter hc) _
    rw [List.flatMap_cons, hcut, hw.words_eq, ih hhump hvs]
    rfl

theorem map_toLower_capitalized (w : Text) :
    (capitalized w).map Char.toLower = w.map Char.toLower := by
  cases w <;> simp [capitalized]

theorem map_toLower_upper (w : Text) :
    (w.map Char.toUpper).map Char.toLower = w.map Char.toLower := by
  simp

theorem IsLowerWord.map_toLower (h : IsLowerWord w) : w.map Char.toLower = w := by
  refine (List.map_congr_left fun c hc => ?_).trans (List.map_id w)
  exact Char.toLower_eq_of_not_isUpper (Char.not_isUpper_of_isLower (h.lower c hc))

/-- Words in lower case come back from any change to the case of their letters. -/
theorem map_toLower_map {f : Text → Text} (hf : ∀ w, (f w).map Char.toLower = w.map Char.toLower)
    (hws : ∀ w ∈ ws, IsLowerWord w) : (ws.map f).map (·.map Char.toLower) = ws := by
  rw [List.map_map]
  refine (List.map_congr_left fun w hw => ?_).trans (List.map_id ws)
  exact (hf w).trans (hws w hw).map_toLower

/-- The words of a name come back from it, but for their case. -/
theorem words_spell (convention : Convention) (hne : ws ≠ []) (hws : ∀ w ∈ ws, IsLowerWord w) :
    (words ((convention.spell ws).map ([·]))).map (·.map Char.toLower) = ws := by
  obtain ⟨w, ws, rfl⟩ := List.exists_cons_of_ne_nil hne
  obtain ⟨hw, hothers⟩ := List.forall_mem_cons.mp hws
  have hwhole : ∀ v ∈ ws, words (v.map ([·])) = [v] := fun v hv => (hothers v hv).isHump.words_eq
  have hupper : ∀ v ∈ w :: ws, words ((v.map Char.toUpper).map ([·])) = [v.map Char.toUpper] := by
    intro v hv
    refine words_of_upper (List.forall_mem_map.mpr fun c hc => ?_)
    rw [Char.isUpper_toUpper_eq_isAlpha, isAlpha_of_isLower ((hws v hv).lower c hc)]
  -- a separator or a capital marks the end of each word, and both are cuts
  cases convention with
  | snake =>
    rw [Convention.spell, words_intercalate (by decide) hw.isHump.words_eq hwhole]
    simpa using map_toLower_map (f := id) (fun _ => rfl) hws
  | kebab =>
    rw [Convention.spell, words_intercalate (by decide) hw.isHump.words_eq hwhole]
    simpa using map_toLower_map (f := id) (fun _ => rfl) hws
  | screamingSnake =>
    obtain ⟨hw', hws'⟩ := List.forall_mem_cons.mp hupper
    rw [Convention.spell, List.map_cons,
      words_intercalate (by decide) hw' (List.forall_mem_map.mpr hws')]
    exact map_toLower_map map_toLower_upper hws
  | camel =>
    rw [Convention.spell, words_humps hw.isHump hothers, List.map_cons, hw.map_toLower,
      map_toLower_map map_toLower_capitalized hothers]
  | pascal =>
    rw [Convention.spell, List.flatMap_cons, words_humps hw.exists_capitalized.1 hothers]
    exact map_toLower_map map_toLower_capitalized hws

end Words

section Names

variable {w : Text} {ws : List Text}

theorem IsLowerWord.isAscii (h : IsLowerWord w) : IsAscii w :=
  fun c hc => ascii_of_isAlpha (isAlpha_of_isLower (h.lower c hc))

theorem isAscii_capitalized (h : IsAscii w) : IsAscii (capitalized w) := by
  cases w with
  | nil => exact h
  | cons c w =>
    obtain ⟨hc, hw⟩ := List.forall_mem_cons.mp h
    exact List.forall_mem_cons.mpr ⟨toUpper_ascii hc, hw⟩

theorem isAscii_spell (convention : Convention) (hws : ∀ w ∈ ws, IsAscii w) :
    IsAscii (convention.spell ws) := by
  have hhumps : ∀ vs : List Text, (∀ v ∈ vs, IsAscii v) → IsAscii (vs.flatMap capitalized) :=
    fun vs hvs => List.forall_mem_flatMap.mpr fun v hv => isAscii_capitalized (hvs v hv)
  cases convention with
  | snake => exact isAscii_intercalate (by decide) hws
  | kebab => exact isAscii_intercalate (by decide) hws
  | screamingSnake =>
    exact isAscii_intercalate (by decide)
      (List.forall_mem_map.mpr fun w hw => isAscii_map_toUpper (hws w hw))
  | camel =>
    cases ws with
    | nil => exact List.forall_mem_nil _
    | cons w ws =>
      obtain ⟨hw, hothers⟩ := List.forall_mem_cons.mp hws
      exact List.forall_mem_append.mpr ⟨hw, hhumps ws hothers⟩
  | pascal => exact hhumps ws hws

theorem capitalizeWord_ascii (hw : IsAscii w) :
    capitalizeWord w = capitalized (w.map Char.toLower) := by
  cases w with
  | nil => rfl
  | cons c w =>
    obtain ⟨hc, hw⟩ := List.forall_mem_cons.mp hw
    rw [capitalizeWord, upperCase_ascii hc, lowerText, lowerTextAfter_ascii hw]
    simp [capitalized]

theorem convert_ascii {name : Text} (h : IsAscii name) :
    convert name = ((words (name.map ([·]))).map (·.map Char.toLower)).flatMap capitalized := by
  rw [convert, ← clusters_ascii h, List.flatMap_map]
  exact List.flatMap_congr fun u hu => capitalizeWord_ascii fun c hc => h c (mem_of_mem_words hu hc)

end Names

end PascalCase

/-- In pascal case a setter has the same name for every convention that spells the property: the prefix
and the words, each with its first letter in upper case. -/
theorem ClassSettings.setterName_of_convention {s : ClassSettings} {ws : List Text}
    (convention : PascalCase.Convention) (hcase : s.setterCase = .pascal) (hne : ws ≠ [])
    (hws : ∀ w ∈ ws, PascalCase.IsLowerWord w) :
    s.setterName (convention.spell ws) = s.setterPrefix ++ ws.flatMap PascalCase.capitalized := by
  rw [setterName, hcase]
  simp only
  rw [PascalCase.convert_ascii (PascalCase.isAscii_spell convention fun w hw => (hws w hw).isAscii),
    PascalCase.words_spell convention hne hws]

theorem ClassSettings.setterName_of_convention_userIdUrl :
    PascalCase.Convention.camel.spell [['u', 's', 'e', 'r'], ['i', 'd'], ['u', 'r', 'l']] =
        "userIdUrl".toList ∧
      PascalCase.Convention.screamingSnake.spell [['u', 's', 'e', 'r'], ['i', 'd'], ['u', 'r', 'l']] =
        "USER_ID_URL".toList ∧
      ClassSettings.setterName { setterCase := .pascal } "userIdUrl".toList =
        "withUserIdUrl".toList ∧
      ClassSettings.setterName { setterCase := .pascal } "USER_ID_URL".toList =
        "withUserIdUrl".toList := by
  have hwords : ∀ w ∈ [['u', 's', 'e', 'r'], ['i', 'd'], ['u', 'r', 'l']],
      PascalCase.IsLowerWord w := by
    decide
  exact ⟨by decide, by decide, setterName_of_convention .camel rfl (by simp) hwords,
    setterName_of_convention .screamingSnake rfl (by simp) hwords⟩

end FluentBuilder
