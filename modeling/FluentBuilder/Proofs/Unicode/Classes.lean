import FluentBuilder.Unicode.Space
import FluentBuilder.Unicode.Word
import Mathlib.Tactic.ByContra

namespace FluentBuilder.Unicode

theorem Ranges.exists_of_covers {r : Ranges} {n : Nat} (h : r.covers n) :
    ∃ p ∈ r, p.1 ≤ n ∧ n ≤ p.2 := by
  induction r with
  | nil => simp [Ranges.covers] at h
  | cons p r ih =>
    obtain ⟨first, last⟩ := p
    rw [Ranges.covers] at h
    split at h
    · simp at h
    · rename_i hfirst
      rcases Bool.or_eq_true_iff.1 h with hl | hr
      · exact ⟨(first, last), by simp, by omega, by simpa using hl⟩
      · obtain ⟨q, hq, hn⟩ := ih hr
        exact ⟨q, by simp [hq], hn⟩

theorem spaceRanges_apart_wordRanges :
    ∀ p ∈ spaceRanges, ∀ q ∈ wordRanges, p.2 < q.1 ∨ q.2 < p.1 := by
  decide +kernel

theorem spaceRanges_ascii : ∀ p ∈ spaceRanges, p.2 ≤ 0x20 ∨ 0x80 ≤ p.1 := by
  decide

theorem lt_toNat_of_isAlphanum {c : Char} (h : c.isAlphanum) : 0x20 < c.toNat := by
  delta Char.isAlphanum Char.isAlpha Char.isUpper Char.isLower Char.isDigit at h
  simp only [Bool.or_eq_true, Bool.and_eq_true, decide_eq_true_eq, ge_iff_le,
    UInt32.le_iff_toNat_le] at h
  have hc : c.toNat = c.val.toNat := rfl
  have hA : 'A'.val.toNat = 65 := rfl
  have ha : 'a'.val.toNat = 97 := rfl
  have h0 : '0'.val.toNat = 48 := rfl
  omega

/-- ASCII word characters are told by their form and the others by a table. -/
theorem isWord_eq_false_of_isSpace {c : Char} (h : isSpace c) : isWord c = false := by
  obtain ⟨p, hp, h₁, h₂⟩ := Ranges.exists_of_covers h
  by_contra hw
  rw [Bool.not_eq_false, isWord] at hw
  split at hw
  · have hlow := spaceRanges_ascii p hp
    have hlt : 0x20 < c.toNat := by
      rcases Bool.or_eq_true_iff.1 hw with ha | hu
      · exact lt_toNat_of_isAlphanum ha
      · rw [eq_of_beq hu]
        decide
    omega
  · obtain ⟨q, hq, h₃, h₄⟩ := Ranges.exists_of_covers hw
    have := spaceRanges_apart_wordRanges p hp q hq
    omega

theorem isSpace_eq_false_of_isWord {c : Char} (h : isWord c) : isSpace c = false := by
  by_contra hs
  rw [isWord_eq_false_of_isSpace (by simpa using hs)] at h
  exact Bool.false_ne_true h

theorem isSpace_of_isBlank {c : Char} (h : isBlank c) : isSpace c := by
  simp only [isBlank, Bool.or_eq_true, beq_iff_eq] at h
  rcases h with rfl | rfl <;> decide

theorem isWord_eq_false_of_isBlank {c : Char} (h : isBlank c) : isWord c = false :=
  isWord_eq_false_of_isSpace (isSpace_of_isBlank h)

theorem isBlank_eq_false_of_isSpace_eq_false {c : Char} (h : isSpace c = false) :
    isBlank c = false := by
  by_contra hb
  rw [isSpace_of_isBlank (by simpa using hb)] at h
  exact Bool.noConfusion h

end FluentBuilder.Unicode
