import FluentBuilder.Toml.Document
import FluentBuilder.Proofs.Text.Runs

namespace FluentBuilder.Toml

/-- A string that may stand between double quotes as it is. -/
def IsUnescaped (t : Text) : Prop :=
  ∀ c ∈ t, c ≠ '"' ∧ c ≠ '\\' ∧ isPlain c

instance (t : Text) : Decidable (IsUnescaped t) :=
  List.decidableBAll (fun c => c ≠ '"' ∧ c ≠ '\\' ∧ isPlain c) t

inductive Scalar where
  | string (text : Text)
  | count (n : Nat)
  | boolean (b : Bool)

namespace Scalar

def value : Scalar → Value
  | string t => .string t
  | count n => .integer n
  | boolean b => .boolean b

def written : Scalar → Text
  | string t => '"' :: (t ++ ['"'])
  | count n => Nat.toDigits 10 n
  | boolean true => "true".toList
  | boolean false => "false".toList

/-- A string needs no escapes, and a count keeps to the range of integers. -/
def IsWritable : Scalar → Prop
  | string t => IsUnescaped t
  | count n => n < Nat.pow 2 128
  | boolean _ => True

end Scalar

theorem basicString?_append {t : Text} (h : IsUnescaped t) (rest : Text) :
    basicString? (t ++ '"' :: rest) = some (t, rest) := by
  induction t with
  | nil => rw [List.nil_append, basicString?]
  | cons c t ih =>
    obtain ⟨hquote, hbackslash, hplain⟩ := h c List.mem_cons_self
    have hrest := ih fun d hd => h d (List.mem_cons_of_mem c hd)
    rw [List.cons_append, basicString?, if_pos hplain, hrest]
    · rfl
    · exact hquote
    · exact hbackslash

-- Two quotes at the start are an empty string, as long as a third does not follow.
theorem string?_quoted {t : Text} (h : IsUnescaped t) {rest : Text} (hrest : rest.head? ≠ some '"') :
    string? ('"' :: (t ++ '"' :: rest)) = some (t, rest) := by
  have hread := basicString?_append h rest
  cases t with
  | nil =>
    cases rest with
    | nil => exact hread
    | cons c rest =>
      have hc : c ≠ '"' := fun heq => hrest (congrArg some heq)
      rw [List.nil_append, string?]
      · exact hread
      · intro more heq
        exact hc (List.cons.inj (List.cons.inj heq).2).1
  | cons c t =>
    have hc : c ≠ '"' := (h c List.mem_cons_self).1
    rw [string?]
    · exact hread
    · intro more heq
      exact hc (List.cons.inj heq).1

theorem hexDigit?_of_isDigit {c : Char} (h : c.isDigit) : hexDigit? c = some (c.toNat - '0'.toNat) := by
  rw [hexDigit?, if_pos h]

theorem digits?_eq_self {ds : Text} (hne : ds ≠ []) (h : ∀ c ∈ ds, c.isDigit) :
    digits? Char.isDigit ds = some ds := by
  induction ds with
  | nil => exact absurd rfl hne
  | cons c ds ih =>
    have hc : c.isDigit := h c List.mem_cons_self
    have hds : ∀ d ∈ ds, d.isDigit := fun d hd => h d (List.mem_cons_of_mem c hd)
    cases ds with
    | nil => simp [digits?, hc]
    | cons d ds =>
      have hd : d ≠ '_' := by
        rintro rfl
        exact absurd (hds '_' List.mem_cons_self) (by decide)
      rw [digits?, if_pos hc, ih (List.cons_ne_nil d ds) hds]
      · rfl
      · exact nofun
      · intro more heq
        exact hd (List.cons.inj heq).1

theorem digitsValue_ten {ds : Text} (h : ∀ c ∈ ds, c.isDigit) :
    digitsValue 10 ds = Nat.ofDigitChars 10 ds 0 := by
  refine List.foldl_ext _ _ 0 fun n c hc => ?_
  rw [hexDigit?_of_isDigit (h c hc)]
  rfl

theorem isDigit_of_mem_decimal {n : Nat} {c : Char} (h : c ∈ Nat.toDigits 10 n) : c.isDigit :=
  Nat.isDigit_of_mem_toDigits (by decide) (by decide) h

theorem head?_decimal_ne_zero {n : Nat} (h : n ≠ 0) : (Nat.toDigits 10 n).head? ≠ some '0' := by
  induction n using Nat.strongRecOn with
  | ind n ih =>
    by_cases hlt : n < 10
    · have hdigit : ∀ m < 10, m ≠ 0 → some m.digitChar ≠ some '0' := by decide
      rw [Nat.toDigits_of_lt_base hlt]
      exact hdigit n hlt h
    · rw [Nat.toDigits_of_base_le (by decide) (by omega),
        List.head?_append_of_ne_nil _ Nat.toDigits_ne_nil]
      exact ih (n / 10) (by omega) (by omega)

theorem wholeDigits?_decimal (n : Nat) :
    wholeDigits? (Nat.toDigits 10 n) = some (Nat.toDigits 10 n) := by
  have hread := digits?_eq_self Nat.toDigits_ne_nil fun c => isDigit_of_mem_decimal (n := n)
  by_cases hn : n = 0
  · rw [hn]
    rfl
  · rw [wholeDigits?, if_neg (fun h => head?_decimal_ne_zero hn h.1), hread]

/-- A literal of digits alone has no sign and names no other base. -/
theorem integer?_of_digits {ds : Text} (h : ∀ c ∈ ds, c.isDigit) :
    integer? ds = ((wholeDigits? ds).map fun digits => (digitsValue 10 digits : Int)).filter
      fun n => n.toNat < Nat.pow 2 128 && (-n).toNat ≤ Nat.pow 2 127 := by
  have hnone : ∀ {c : Char}, c.isDigit = false → c ∉ ds := by
    intro c hc hmem
    rw [h c hmem] at hc
    cases hc
  have hsign : splitSign ds = (false, ds) := by
    unfold splitSign
    split
    · exact absurd List.mem_cons_self (hnone rfl)
    · exact absurd List.mem_cons_self (hnone rfl)
    · rfl
  unfold integer?
  dsimp only
  split
  · exact absurd (List.mem_cons_of_mem _ List.mem_cons_self) (hnone rfl)
  · exact absurd (List.mem_cons_of_mem _ List.mem_cons_self) (hnone rfl)
  · exact absurd (List.mem_cons_of_mem _ List.mem_cons_self) (hnone rfl)
  · rw [hsign]
    rfl

theorem integer?_decimal {n : Nat} (h : n < Nat.pow 2 128) :
    integer? (Nat.toDigits 10 n) = some (n : Int) := by
  have hdigits : ∀ c ∈ Nat.toDigits 10 n, c.isDigit := fun c => isDigit_of_mem_decimal
  have hvalue : digitsValue 10 (Nat.toDigits 10 n) = n := by
    rw [digitsValue_ten hdigits, Nat.ofDigitChars_ten_toDigits]
  have hlow : (-(n : Int)).toNat = 0 := by omega
  rw [integer?_of_digits hdigits, wholeDigits?_decimal, Option.map_some, hvalue, Option.filter_some,
    Int.toNat_natCast, hlow, if_pos]
  simpa using h

def isLiteral (c : Char) : Bool :=
  isBareKey c || c == '+' || c == '.' || c == ':'

theorem splitLiteral_line {l : Text} (hl : ∀ c ∈ l, isLiteral c) (rest : Text) :
    splitLiteral (l ++ '\n' :: rest) = (l, '\n' :: rest) := by
  have hend : isLiteral '\n' = false := rfl
  have htake : (l ++ '\n' :: rest).takeWhile isLiteral = l := Text.takeWhile_run hl hend rest
  have hdrop : (l ++ '\n' :: rest).dropWhile isLiteral = '\n' :: rest := Text.dropWhile_run hl hend rest
  unfold isLiteral at htake hdrop
  simp only [splitLiteral, htake, hdrop]
  rfl

/-- A value that starts with no bracket and no quote is a literal. -/
theorem value?_of_head? {c : Char} (hbracket : c ≠ '[') (hbrace : c ≠ '{') (hdouble : c ≠ '"')
    (hsingle : c ≠ '\'') (t : Text) (depth : Nat) :
    value? depth (c :: t) = (literalValue? (splitLiteral (c :: t)).1).map
      fun v => (v, (splitLiteral (c :: t)).2) := by
  cases depth <;> simp [value?, hbracket, hbrace, hdouble, hsingle]

theorem value?_literal {l : Text} {v : Value} (hl : ∀ c ∈ l, isLiteral c)
    (hv : literalValue? l = some v) (rest : Text) (depth : Nat) :
    value? depth (l ++ '\n' :: rest) = some (v, '\n' :: rest) := by
  have hsplit := splitLiteral_line hl rest
  obtain ⟨c, t, ht⟩ : ∃ c t, l ++ '\n' :: rest = c :: t := List.exists_cons_of_ne_nil (by simp)
  have hc : isLiteral c ∨ c = '\n' := by
    cases l with
    | nil => exact Or.inr (List.cons.inj ht).1.symm
    | cons d l => exact Or.inl ((List.cons.inj ht).1 ▸ hl d List.mem_cons_self)
  rw [ht] at hsplit ⊢
  rw [value?_of_head?, hsplit, hv]
  · rfl
  all_goals
    rintro rfl
    exact absurd hc (by decide)

theorem value?_string {t : Text} (h : IsUnescaped t) (rest : Text) (depth : Nat) :
    value? depth ('"' :: (t ++ '"' :: '\n' :: rest)) = some (.string t, '\n' :: rest) := by
  have hread : string? ('"' :: (t ++ '"' :: '\n' :: rest)) = some (t, '\n' :: rest) :=
    string?_quoted h (by simp)
  cases depth <;> simp [value?, hread]

theorem literalValue?_decimal {n : Nat} (h : n < Nat.pow 2 128) :
    literalValue? (Nat.toDigits 10 n) = some (.integer n) := by
  have hword : ∀ {c : Char} {word : Text}, c.isDigit = false → c ∈ word →
      Nat.toDigits 10 n ≠ word := by
    rintro c _ hc hmem rfl
    rw [isDigit_of_mem_decimal hmem] at hc
    cases hc
  have htrue : Nat.toDigits 10 n ≠ "true".toList := hword (c := 'e') rfl (by decide)
  have hfalse : Nat.toDigits 10 n ≠ "false".toList := hword (c := 'e') rfl (by decide)
  rw [literalValue?, if_neg htrue, if_neg hfalse, integer?_decimal h]

namespace Scalar

/-- A value is read as it is written, up to the end of its line. -/
theorem value?_written {s : Scalar} (h : s.IsWritable) (rest : Text) (depth : Nat) :
    value? depth (s.written ++ '\n' :: rest) = some (s.value, '\n' :: rest) := by
  cases s with
  | string t =>
    have hcut : written (string t) ++ '\n' :: rest = '"' :: (t ++ '"' :: '\n' :: rest) := by
      simp [written]
    rw [hcut]
    exact value?_string h rest depth
  | count n =>
    have hdigits : ∀ c ∈ Nat.toDigits 10 n, isLiteral c := by
      intro c hc
      simp [isLiteral, isBareKey, Char.isAlphanum, isDigit_of_mem_decimal hc]
    exact value?_literal hdigits (literalValue?_decimal h) rest depth
  | boolean b =>
    cases b with
    | true => exact value?_literal (List.all_eq_true.mp (by decide)) rfl rest depth
    | false => exact value?_literal (List.all_eq_true.mp (by decide)) rfl rest depth

theorem dropWhile_isBlank_written (s : Scalar) (t : Text) :
    (s.written ++ t).dropWhile Unicode.isBlank = s.written ++ t := by
  obtain ⟨c, more, hwritten, hc⟩ : ∃ c more, s.written = c :: more ∧ Unicode.isBlank c = false := by
    cases s with
    | string t => exact ⟨'"', _, rfl, rfl⟩
    | count n =>
      obtain ⟨c, more, hdigits⟩ := List.exists_cons_of_ne_nil (Nat.toDigits_ne_nil (n := n) (b := 10))
      refine ⟨c, more, hdigits, ?_⟩
      have hc : c.isDigit := isDigit_of_mem_decimal (hdigits ▸ List.mem_cons_self)
      rw [Bool.eq_false_iff]
      intro hblank
      simp only [Unicode.isBlank, Bool.or_eq_true, beq_iff_eq] at hblank
      rcases hblank with rfl | rfl <;> cases hc
    | boolean b => cases b <;> exact ⟨_, _, rfl, rfl⟩
  rw [hwritten, List.cons_append, List.dropWhile_cons_of_neg (by simp [hc])]

end Scalar

end FluentBuilder.Toml
