import FluentBuilder.Unicode.Cluster
import FluentBuilder.Unicode.LetterCase
import Mathlib.Data.List.Basic

namespace FluentBuilder.Unicode

def IsAscii (t : List Char) : Prop :=
  ∀ c ∈ t, c.toNat < 0x80

/-- What holds of the 128 codes holds of the ASCII characters. -/
theorem ascii_of_codes {p : Char → Prop} (h : ∀ n < 0x80, p (Char.ofNat n)) {c : Char}
    (hc : c.toNat < 0x80) : p c :=
  Char.ofNat_toNat c ▸ h c.toNat hc

theorem isAscii_intercalate {separator : Char} {ws : List (List Char)} (h : separator.toNat < 0x80)
    (hws : ∀ w ∈ ws, IsAscii w) : IsAscii ([separator].intercalate ws) := by
  induction ws with
  | nil => exact List.forall_mem_nil _
  | cons w ws ih =>
    obtain ⟨hw, hothers⟩ := List.forall_mem_cons.mp hws
    cases ws with
    | nil => simpa using hw
    | cons v vs =>
      rw [List.intercalate_cons_cons]
      exact List.forall_mem_append.mpr
        ⟨List.forall_mem_append.mpr ⟨hw, List.forall_mem_singleton.mpr h⟩, ih hothers⟩

section Clusters

theorem Ranges.covers_of_lt_first {first last n : Nat} {rest : Ranges} (h : n < first) :
    Ranges.covers ((first, last) :: rest) n = false :=
  if_pos h

/-- Nothing in ASCII joins what stands before it, and nothing joins an ASCII character. -/
theorem joins_ascii {last c : Char} (hlast : last.toNat < 0x80) (hc : c.toNat < 0x80) :
    joins [last] c = false := by
  have hattaching : attachingRanges.covers c.toNat = false :=
    Ranges.covers_of_lt_first (by omega)
  have hprepended : prependedRanges.covers last.toNat = false :=
    Ranges.covers_of_lt_first (by omega)
  have hjoiner : (last == '\u200D') = false := by
    rw [beq_eq_false_iff_ne]
    rintro rfl
    exact absurd hlast (by decide)
  simp [joins, hattaching, hprepended, hjoiner]

theorem clustersAfter_ascii {c : Char} {t : List Char} (hc : c.toNat < 0x80) (ht : IsAscii t) :
    clustersAfter [c] t = (c :: t).map ([·]) := by
  induction t generalizing c with
  | nil => rfl
  | cons d t ih =>
    obtain ⟨hd, ht⟩ := List.forall_mem_cons.mp ht
    rw [clustersAfter, if_neg (by simp [joins_ascii hc hd]), ih hd ht]
    rfl

theorem clusters_ascii {t : List Char} (ht : IsAscii t) : clusters t = t.map ([·]) := by
  cases t with
  | nil => rfl
  | cons c t =>
    obtain ⟨hc, ht⟩ := List.forall_mem_cons.mp ht
    exact clustersAfter_ascii hc ht

end Clusters

section LetterCase

theorem upperCase_ascii {c : Char} (hc : c.toNat < 0x80) : upperCase c = [c.toUpper] :=
  if_pos hc

theorem lowerTextAfter_ascii {afterLetter : Bool} {t : List Char} (ht : IsAscii t) :
    lowerTextAfter afterLetter t = t.map Char.toLower := by
  induction t generalizing afterLetter with
  | nil => rfl
  | cons c t ih =>
    obtain ⟨hc, ht⟩ := List.forall_mem_cons.mp ht
    have hsigma : c ≠ 'Σ' := by
      rintro rfl
      exact absurd hc (by decide)
    have hlower : lowerCase c = [c.toLower] := if_pos hc
    rw [lowerTextAfter, if_neg hsigma, hlower, ih ht]
    rfl

theorem toUpper_ascii {c : Char} (h : c.toNat < 0x80) : c.toUpper.toNat < 0x80 :=
  ascii_of_codes (p := fun c => c.toUpper.toNat < 0x80) (by decide +kernel) h

theorem isAscii_map_toUpper {t : List Char} (ht : IsAscii t) : IsAscii (t.map Char.toUpper) :=
  List.forall_mem_map.mpr fun c hc => toUpper_ascii (ht c hc)

end LetterCase

end FluentBuilder.Unicode
