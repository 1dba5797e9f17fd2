import FluentBuilder.Proofs.Alias.Agreement

namespace FluentBuilder.Alias

open Unicode

variable {s t : Text}

def SomeColon (P : Text → Text → Prop) (t : Text) : Prop :=
  ∃ before after, t = before ++ ':' :: after ∧ P before after

theorem someColon_iff {P : Text → Text → Prop} :
    SomeColon P t ↔ ¬EveryColon (fun before after => ¬P before after) t := by
  simp only [SomeColon, EveryColon, not_forall, not_not, exists_prop]

instance {P : Text → Text → Prop} [∀ before after, Decidable (P before after)] :
    Decidable (SomeColon P t) :=
  decidable_of_iff _ someColon_iff.symm

def BeginsWith (P : Char → Prop) (t : Text) : Prop :=
  ∃ c ∈ (t.dropWhile isBlank).head?, P c

instance {P : Char → Prop} [DecidablePred P] : Decidable (BeginsWith P t) :=
  Option.decidableExistsMem _

/-- The text ends with a head for a colon behind it: any character that is not white space will do. -/
def Headed (before : Text) : Prop :=
  EndsWith (fun c => isSpace c = false) before

def Typed (after : Text) : Prop :=
  BeginsWith (fun c => isSpace c = false ∧ endsType c = false) after

instance : Decidable (Headed t) :=
  inferInstanceAs (Decidable (EndsWith _ t))

instance : Decidable (Typed t) :=
  inferInstanceAs (Decidable (BeginsWith _ t))

theorem type?_ne_none_iff : type? t ≠ none ↔ Typed t := by
  unfold type? Typed BeginsWith
  cases t.dropWhile isBlank with
  | nil => simp
  | cons c rest => simp

/-- The heads that start anywhere in a text belong to its colons: a colon has one just if it can have one
of a single character and blanks. -/
theorem exists_head_iff {P : Text → Prop} :
    (∃ s, s <:+ t ∧ ∃ x ∈ heads s, P x.2) ↔
      SomeColon (fun before after => Headed before ∧ P after) t := by
  constructor
  · rintro ⟨s, ⟨u, rfl⟩, x, hx, hP⟩
    obtain ⟨w, c, b, -, hc, hb, hhead, rfl⟩ := exists_of_mem_heads hx
    refine ⟨u ++ x.1, x.2, (List.append_assoc u x.1 _).symm, ?_, hP⟩
    have hsuffix : c :: b <:+ u ++ x.1 := ⟨u ++ w, by rw [hhead, List.append_assoc]⟩
    exact endsWith_of_suffix hsuffix hb (isBlank_eq_false_of_isSpace_eq_false hc) hc
  · rintro ⟨before, after, rfl, hhead, hP⟩
    obtain ⟨c, b, ⟨u, rfl⟩, hb, hc⟩ := exists_of_endsWith hhead
    exact ⟨c :: b ++ ':' :: after, ⟨u, by simp⟩, (c :: b, after),
      mem_heads (w := []) (by simp) hc hb after, hP⟩

/-- A head that starts inside of a word is also found, longer, at the start of the word. -/
theorem exists_head_append {P : Text → Prop} {w : Text} (hw : ∀ c ∈ w, isWord c)
    (h : ∃ x ∈ heads s, P x.2) : ∃ x ∈ heads (w ++ s), P x.2 := by
  obtain ⟨x, hx, hP⟩ := h
  obtain ⟨w', c, b, hw', hc, hb, hhead, rfl⟩ := exists_of_mem_heads hx
  have hmem := mem_heads (List.forall_mem_append.mpr ⟨hw, hw'⟩) hc hb x.2
  refine ⟨(w ++ w' ++ c :: b, x.2), ?_, hP⟩
  simpa [hhead] using hmem

section Heads

variable {α : Type} {step? : Text → Option (α × Text)} {scan : Text → List α} {P : Text → Prop}

/-- A scan for heads lists something just if some colon of the text has a head, with what else the scan
looks for behind it. -/
theorem IsScan.ne_nil_iff_someColon (hscan : IsScan step? skipWord scan)
    (hstep : ∀ s, step? s ≠ none ↔ ∃ x ∈ heads s, P x.2) (t : Text) :
    scan t ≠ [] ↔ SomeColon (fun before after => Headed before ∧ P after) t := by
  have hskip : SkipsInVain step? skipWord := skipsInVain_skipWord fun hw hfound =>
    (hstep _).mpr (exists_head_append hw ((hstep _).mp hfound))
  rw [← exists_head_iff, ne_eq, hscan.eq_nil_iff hskip]
  simp only [not_forall, exists_prop, ← hstep, ne_eq]

end Heads

theorem memberList_ne_nil_iff :
    memberList t ≠ [] ↔ SomeColon (fun before after => Headed before ∧ Typed after) t := by
  refine isScan_memberList.ne_nil_iff_someColon (fun s => ?_) t
  rw [member?_eq, ne_eq, List.findSome?_eq_none_iff]
  simp only [Option.map_eq_none_iff, not_forall, exists_prop, ← type?_ne_none_iff, ne_eq]

theorem propertyNames_ne_nil_iff :
    propertyNames t ≠ [] ↔ SomeColon (fun before _ => Headed before) t := by
  have hstep : ∀ s, property? s ≠ none ↔ ∃ x ∈ heads s, True := by
    intro s
    rw [ne_eq, property?_eq_none, List.eq_nil_iff_forall_not_mem]
    simp
  simpa using isScan_propertyNames.ne_nil_iff_someColon (P := fun _ => True) hstep t

theorem memberList_eq_nil_of_propertyNames (h : propertyNames t = []) : memberList t = [] := by
  by_contra hne
  obtain ⟨before, after, hcut, hhead, -⟩ := memberList_ne_nil_iff.mp hne
  exact propertyNames_ne_nil_iff.mpr ⟨before, after, hcut, hhead⟩ h

theorem members_eq_noProperties_iff :
    members t = .error .noProperties ↔ memberList t = [] ∧ propertyNames t = [] := by
  unfold members
  cases memberList t <;> cases propertyNames t <;> simp

theorem members_eq_noDataTypes_iff :
    members t = .error .noDataTypes ↔ memberList t = [] ∧ propertyNames t ≠ [] := by
  unfold members
  cases memberList t <;> cases propertyNames t <;> simp

/-- A document has members just if some colon stands between a head and a type. Of the other documents,
those with no head before any colon lack properties and all others lack types, even if a type stands
behind some colon that has no head. -/
theorem members_outcome (document : Text) :
    ((∃ ms, members document = .ok ms) ↔
      SomeColon (fun before after => Headed before ∧ Typed after) document) ∧
    (members document = .error .noProperties ↔
      ¬SomeColon (fun before _ => Headed before) document) ∧
    (members document = .error .noDataTypes ↔
      SomeColon (fun before _ => Headed before) document ∧
        ¬SomeColon (fun before after => Headed before ∧ Typed after) document) ∧
    ∀ names texts, properties document = .ok names → types document = .ok texts →
      (∀ ms, members document ≠ .ok ms) → members document = .error .noDataTypes := by
  have hpair := memberList_ne_nil_iff (t := document)
  have hhead := propertyNames_ne_nil_iff (t := document)
  refine ⟨?_, ?_, ?_, ?_⟩
  · rw [(answers_members document).exists_ok_iff, hpair]
  · rw [members_eq_noProperties_iff, ← hhead, not_not]
    exact and_iff_right_of_imp memberList_eq_nil_of_propertyNames
  · rw [members_eq_noDataTypes_iff, ← hhead, ← hpair, not_not, and_comm]
  · intro names texts hnames _ hnone
    have hfound := (answers_properties document).exists_ok_iff.mp ⟨names, hnames⟩
    have hempty := mt (answers_members document).exists_ok_iff.mpr fun ⟨ms, hms⟩ => hnone ms hms
    exact members_eq_noDataTypes_iff.mpr ⟨not_not.mp hempty, hfound⟩

/-- Of two colons one has a head and the other one a type, so that there are properties and types but
nothing to pair. -/
theorem members_outcome_unpaired :
    properties "\x7b a:\n: b \x7d".toList = .ok ["a".toList] ∧
      types "\x7b a:\n: b \x7d".toList = .ok ["b".toList] ∧
      members "\x7b a:\n: b \x7d".toList = .error .noDataTypes := by
  have hnames : properties "\x7b a:\n: b \x7d".toList = .ok ["a".toList] := by decide +kernel
  have htexts : types "\x7b a:\n: b \x7d".toList = .ok ["b".toList] := by decide +kernel
  have hpair : ¬SomeColon (fun before after => Headed before ∧ Typed after)
      "\x7b a:\n: b \x7d".toList := by
    decide +kernel
  obtain ⟨hok, -, -, hunpaired⟩ := members_outcome "\x7b a:\n: b \x7d".toList
  exact ⟨hnames, htexts, hunpaired _ _ hnames htexts fun ms hms => hpair (hok.mp ⟨ms, hms⟩)⟩

end FluentBuilder.Alias
