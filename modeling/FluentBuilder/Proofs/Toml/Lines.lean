import FluentBuilder.Proofs.Text.Pieces
import FluentBuilder.Proofs.Toml.Scalar

namespace FluentBuilder.Toml

open Unicode

def IsBareWord (key : Text) : Prop :=
  key ≠ [] ∧ ∀ c ∈ key, isBareKey c

instance (key : Text) : Decidable (IsBareWord key) :=
  @instDecidableAnd (key ≠ []) _ inferInstance (List.decidableBAll (fun c => isBareKey c) key)

inductive Line where
  | empty
  | comment (text : Text)
  | table (key : Text)
  | assign (key : Text) (value : Scalar)

namespace Line

def written : Line → Text
  | empty => []
  | comment t => t
  | table key => '[' :: (key ++ [']'])
  | assign key value => key ++ " = ".toList ++ value.written

def statement? : Line → Option Statement
  | empty | comment _ => none
  | table key => some (.table [key])
  | assign key value => some (.assign [key] value.value)

/-- A comment holds no control characters, keys need no quotes, and the value can be written. -/
def IsWritable : Line → Prop
  | empty => True
  | comment t => t.head? = some '#' ∧ ∀ c ∈ t, isPlain c
  | table key => IsBareWord key
  | assign key value => IsBareWord key ∧ value.IsWritable

end Line

theorem IsBareWord.exists_cons {key : Text} (h : IsBareWord key) :
    ∃ c more, key = c :: more ∧ isBareKey c := by
  obtain ⟨c, more, rfl⟩ := List.exists_cons_of_ne_nil h.1
  exact ⟨c, more, rfl, h.2 c List.mem_cons_self⟩

theorem ne_of_isBareKey {c d : Char} (hc : isBareKey c) (hd : isBareKey d = false) : c ≠ d := by
  rintro rfl
  rw [hc] at hd
  cases hd

theorem isBlank_of_isBareKey {c : Char} (hc : isBareKey c) : isBlank c = false := by
  simp [isBlank, ne_of_isBareKey hc (d := ' ') rfl, ne_of_isBareKey hc (d := '\t') rfl]

theorem keyPart?_bare {key rest : Text} (h : IsBareWord key)
    (hrest : ∀ c, rest.head? = some c → isBareKey c = false) :
    keyPart? (key ++ rest) = some (key, rest) := by
  have htake : (key ++ rest).takeWhile isBareKey = key := Text.takeWhile_append_of_stop h.2 hrest
  have hdrop : (key ++ rest).dropWhile isBareKey = rest := Text.dropWhile_append_of_stop h.2 hrest
  have hkey : key.isEmpty = false := by
    simpa using h.1
  obtain ⟨c, more, rfl, hc⟩ := h.exists_cons
  rw [List.cons_append] at htake hdrop ⊢
  rw [keyPart?, htake, hdrop, hkey]
  · rfl
  · intro t heq
    exact ne_of_isBareKey hc (d := '"') rfl (List.cons.inj heq).1
  · intro t heq
    exact ne_of_isBareKey hc (d := '\'') rfl (List.cons.inj heq).1

/-- A bare key that no dot follows is a key of one part. -/
theorem key?_bare {key rest : Text} (h : IsBareWord key)
    (hrest : ∀ c, rest.head? = some c → isBareKey c = false)
    (hdot : (rest.dropWhile isBlank).head? ≠ some '.') :
    key? (key ++ rest) = some ([key], rest.dropWhile isBlank) := by
  have hpart := keyPart?_bare h hrest
  rw [key?]
  split
  · rename_i hnone
    rw [hpart] at hnone
    cases hnone
  · rename_i hsome
    cases hpart.symm.trans hsome
    split
    · rename_i hcut
      rw [hcut] at hdot
      exact absurd rfl hdot
    · rfl

theorem afterChar?_cons (c : Char) (t : Text) : afterChar? c (c :: t) = some t := by
  rw [afterChar?, if_pos rfl]

theorem endLine?_lf (t : Text) : endLine? false ('\n' :: t) = some t := by
  rw [endLine?]

theorem statement?_table {key : Text} (h : IsBareWord key) (rest : Text) :
    statement? ('[' :: (key ++ ']' :: '\n' :: rest)) = some (.table [key], rest) := by
  have hkey : key? (key ++ ']' :: '\n' :: rest) = some ([key], ']' :: '\n' :: rest) :=
    key?_bare h (by rintro _ ⟨⟩; rfl) (by simp [isBlank])
  obtain ⟨c, more, rfl, hc⟩ := h.exists_cons
  rw [List.cons_append] at hkey ⊢
  rw [statement?, List.dropWhile_cons_of_neg (by simp [isBlank_of_isBareKey hc]), hkey]
  · simp only [Option.bind_eq_bind, Option.bind_some, afterChar?_cons, endLine?_lf, Option.pure_def]
  · rintro t heq
    exact ne_of_isBareKey hc (d := '[') rfl (List.cons.inj heq).1

theorem statement?_assign {key : Text} (h : IsBareWord key) {value : Scalar}
    (hvalue : value.IsWritable) (rest : Text) :
    statement? (key ++ ' ' :: '=' :: ' ' :: (value.written ++ '\n' :: rest)) =
      some (.assign [key] value.value, rest) := by
  have hkey : key? (key ++ ' ' :: '=' :: ' ' :: (value.written ++ '\n' :: rest)) =
      some ([key], '=' :: ' ' :: (value.written ++ '\n' :: rest)) :=
    key?_bare h (by rintro _ ⟨⟩; rfl) (by simp [isBlank])
  have hskip : (' ' :: (value.written ++ '\n' :: rest)).dropWhile isBlank =
      value.written ++ '\n' :: rest :=
    value.dropWhile_isBlank_written _
  obtain ⟨c, more, rfl, hc⟩ := h.exists_cons
  have hbracket : c ≠ '[' := ne_of_isBareKey hc rfl
  rw [List.cons_append] at hkey ⊢
  rw [statement?, hkey]
  · simp only [Option.bind_eq_bind, Option.bind_some, afterChar?_cons, hskip,
      Scalar.value?_written hvalue, endLine?_lf, Option.pure_def]
  · rintro t heq
    exact hbracket (List.cons.inj heq).1
  · rintro t heq
    exact hbracket (List.cons.inj heq).1

theorem skipGap?_lf (inComment : Bool) (t : Text) :
    skipGap? inComment ('\n' :: t) = skipGap? false t := by
  rw [skipGap?]

theorem ne_cr_of_isPlain {c : Char} (h : isPlain c) : c ≠ '\r' := by
  rintro rfl
  cases h

theorem ne_lf_of_isPlain {c : Char} (h : isPlain c) : c ≠ '\n' := by
  rintro rfl
  cases h

theorem skipGap?_inComment {t : Text} (h : ∀ c ∈ t, isPlain c) (rest : Text) :
    skipGap? true (t ++ '\n' :: rest) = skipGap? false rest := by
  induction t with
  | nil => exact skipGap?_lf true rest
  | cons c t ih =>
    have hc : isPlain c := h c List.mem_cons_self
    rw [List.cons_append, skipGap?, if_pos rfl, if_pos hc]
    · exact ih fun d hd => h d (List.mem_cons_of_mem c hd)
    · exact ne_lf_of_isPlain hc
    · exact fun more heq => absurd heq (ne_cr_of_isPlain hc)

theorem skipGap?_comment {t : Text} (h : ∀ c ∈ t, isPlain c) (rest : Text) :
    skipGap? false ('#' :: (t ++ '\n' :: rest)) = skipGap? false rest := by
  rw [skipGap?, if_neg Bool.false_ne_true, if_pos rfl, skipGap?_inComment h]
  · decide
  · exact fun more heq => absurd heq (by decide)

/-- A gap ends where a header or a key starts. -/
theorem skipGap?_start {c : Char} (h : isBareKey c ∨ c = '[') (t : Text) :
    skipGap? false (c :: t) = some (c :: t) := by
  have hne : ∀ {d : Char}, (¬ (isBareKey d ∨ d = '[')) → c ≠ d := by
    rintro d hd rfl
    exact hd h
  have hblank : isBlank c = false := by
    simp [isBlank, hne (d := ' ') (by decide), hne (d := '\t') (by decide)]
  rw [skipGap?, if_neg Bool.false_ne_true, if_neg (hne (by decide)), hblank]
  · rfl
  · exact hne (by decide)
  · exact fun more heq => absurd heq (hne (by decide))

theorem statementsUpTo?_of_skipGap? {t t' : Text} (h : skipGap? false t = skipGap? false t')
    (fuel : Nat) : statementsUpTo? fuel t = statementsUpTo? fuel t' := by
  cases fuel with
  | zero => rfl
  | succ fuel => rw [statementsUpTo?, statementsUpTo?, h]

theorem statementsUpTo?_cons {c : Char} {t rest : Text} {statement : Statement} (fuel : Nat)
    (hstart : isBareKey c ∨ c = '[') (h : statement? (c :: t) = some (statement, rest)) :
    statementsUpTo? (fuel + 1) (c :: t) =
      (statementsUpTo? fuel rest).map (statement :: ·) := by
  rw [statementsUpTo?, skipGap?_start hstart]
  simp only [Option.bind_eq_bind, Option.bind_some, h, Option.pure_def]
  cases statementsUpTo? fuel rest <;> rfl

namespace Line

-- An empty line and a comment are part of the gap before the next statement, so they take no step.
theorem statementsUpTo?_written_append {l : Line} (h : l.IsWritable) (rest : Text) (fuel : Nat) :
    statementsUpTo? (fuel + 1) (l.written ++ '\n' :: rest) =
      match l.statement? with
      | none => statementsUpTo? (fuel + 1) rest
      | some statement => (statementsUpTo? fuel rest).map (statement :: ·) := by
  -- a line without a statement takes no fuel, as it belongs to the gap in front of the next one
  cases l with
  | empty => exact statementsUpTo?_of_skipGap? (skipGap?_lf false rest) _
  | comment t =>
    obtain ⟨hsign, hplain⟩ := h
    obtain ⟨more, rfl⟩ := List.head?_eq_some_iff.mp hsign
    exact statementsUpTo?_of_skipGap? (skipGap?_comment (List.forall_mem_cons.mp hplain).2 rest) _
  | table key =>
    have hcut : written (table key) ++ '\n' :: rest = '[' :: (key ++ ']' :: '\n' :: rest) := by
      simp [written]
    rw [hcut]
    exact statementsUpTo?_cons fuel (Or.inr rfl) (statement?_table h rest)
  | assign key value =>
    obtain ⟨hkey, hvalue⟩ := h
    have hcut : written (assign key value) ++ '\n' :: rest =
        key ++ ' ' :: '=' :: ' ' :: (value.written ++ '\n' :: rest) := by
      simp [written]
    have hread := statement?_assign hkey hvalue rest
    obtain ⟨c, more, rfl, hc⟩ := hkey.exists_cons
    rw [hcut]
    exact statementsUpTo?_cons fuel (Or.inl hc) hread

end Line

def ofLines (ls : List Line) : Text :=
  Text.unlines (ls.map Line.written)

theorem ofLines_cons (l : Line) (ls : List Line) :
    ofLines (l :: ls) = l.written ++ '\n' :: ofLines ls := by
  simp [ofLines, Text.unlines]

theorem length_le_ofLines (ls : List Line) : ls.length ≤ (ofLines ls).length := by
  induction ls with
  | nil => exact Nat.zero_le _
  | cons l ls ih =>
    rw [ofLines_cons, List.length_append, List.length_cons, List.length_cons]
    omega

theorem statementsUpTo?_ofLines {ls : List Line} (h : ∀ l ∈ ls, l.IsWritable) {fuel : Nat}
    (hfuel : ls.length < fuel) :
    statementsUpTo? fuel (ofLines ls) = some (ls.filterMap Line.statement?) := by
  induction ls generalizing fuel with
  | nil =>
    obtain ⟨fuel, rfl⟩ := Nat.exists_eq_add_one.mpr hfuel
    rfl
  | cons l ls ih =>
    have hl : l.IsWritable := h l List.mem_cons_self
    have hls : ∀ l' ∈ ls, l'.IsWritable := fun l' hl' => h l' (List.mem_cons_of_mem l hl')
    rw [List.length_cons] at hfuel
    obtain ⟨fuel, rfl⟩ : ∃ less, fuel = less + 1 := ⟨fuel - 1, by omega⟩
    rw [ofLines_cons, Line.statementsUpTo?_written_append hl]
    cases hstatement : l.statement? with
    | none =>
      rw [List.filterMap_cons_none hstatement]
      exact ih hls (by omega)
    | some statement =>
      have hrest : statementsUpTo? fuel (ofLines ls) = some (ls.filterMap Line.statement?) :=
        ih hls (by omega)
      rw [List.filterMap_cons_some hstatement, hrest]
      rfl

theorem head?_ofLines_ne {ls : List Line} (h : ∀ l ∈ ls, l.IsWritable) :
    (ofLines ls).head? ≠ some '\uFEFF' := by
  cases ls with
  | nil => exact nofun
  | cons l ls =>
    have hl : l.IsWritable := h l List.mem_cons_self
    rw [ofLines_cons]
    cases l with
    | empty => simp [Line.written]
    | comment t =>
      obtain ⟨more, rfl⟩ := List.head?_eq_some_iff.mp hl.1
      simp [Line.written]
    | table key => simp [Line.written]
    | assign key value =>
      obtain ⟨c, more, rfl, hc⟩ := hl.1.exists_cons
      simpa [Line.written] using ne_of_isBareKey hc rfl

/-- A document written line by line has the entries that the statements on its lines make. -/
theorem document?_ofLines {ls : List Line} (h : ∀ l ∈ ls, l.IsWritable) :
    document? (ofLines ls) = Entries.extend [] [] (ls.filterMap Line.statement?) := by
  have hfuel : ls.length < (ofLines ls).length + 1 := Nat.lt_succ_of_le (length_le_ofLines ls)
  rw [document?, if_neg (head?_ofLines_ne h), statements?, statementsUpTo?_ofLines h hfuel,
    Option.bind_some]

end FluentBuilder.Toml
