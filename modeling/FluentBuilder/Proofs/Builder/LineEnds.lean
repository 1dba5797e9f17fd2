import FluentBuilder.Proofs.Alias.PropertyScan
import FluentBuilder.Proofs.Builder.Document
import FluentBuilder.Proofs.Text.LineEnds

namespace FluentBuilder

open Text Unicode

namespace Alias

theorem after?_withCrLf {stop : Char} (hcr : '\r' ≠ stop) (hlf : '\n' ≠ stop) (t : Text) :
    after? stop (withCrLf t) = (after? stop t).map withCrLf := by
  have hpass : ('\r' != stop) = ('\n' != stop) := by
    rw [bne_iff_ne.mpr hcr, bne_iff_ne.mpr hlf]
  rw [after?, after?, dropWhile_withCrLf hpass]
  cases h : t.dropWhile (· != stop) with
  | nil => rfl
  | cons c rest =>
    have hc : c = stop := by
      simpa using eq_false_of_head?_dropWhile (congrArg List.head? h)
    rw [withCrLf_cons (hc ▸ hlf.symm)]
    rfl

theorem dropMark_withCrLf (t : Text) : dropMark (withCrLf t) = withCrLf (dropMark t) := by
  cases t with
  | nil => rfl
  | cons c rest =>
    by_cases hlf : c = '\n'
    · subst hlf
      rfl
    · by_cases hc : c = '?'
      · subst hc
        rfl
      · simp [withCrLf_cons hlf, dropMark, hc]

theorem dropTypeParameters?_withCrLf (t : Text) :
    dropTypeParameters? (withCrLf t) = (dropTypeParameters? t).map withCrLf := by
  cases t with
  | nil => rfl
  | cons c rest =>
    by_cases hlf : c = '\n'
    · subst hlf
      rfl
    · by_cases hc : c = '<'
      · subst hc
        have htrim : trimStart ∘ withCrLf = withCrLf ∘ trimStart := funext trimStart_withCrLf
        rw [withCrLf_cons hlf, dropTypeParameters?, dropTypeParameters?,
          after?_withCrLf (by decide) (by decide), Option.map_map, Option.map_map, htrim]
      · simp [withCrLf_cons hlf, dropTypeParameters?, hc]

theorem head?_withCrLf_eq_colon (t : Text) :
    ((withCrLf t).head? == some ':') = (t.head? == some ':') := by
  cases t with
  | nil => rfl
  | cons c rest =>
    by_cases hlf : c = '\n'
    · subst hlf
      rfl
    · rw [withCrLf_cons hlf]
      rfl

theorem startsParameters_withCrLf (t : Text) :
    startsParameters (withCrLf t) = startsParameters t := by
  cases t with
  | nil => rfl
  | cons c rest =>
    by_cases hlf : c = '\n'
    · subst hlf
      rfl
    · by_cases hc : c = '('
      · subst hc
        rw [withCrLf_cons hlf, startsParameters, startsParameters,
          after?_withCrLf (by decide) (by decide), Option.map_map, Option.any_map, Option.any_map]
        congr
        funext after
        exact (congrArg (·.head? == some ':') (trimStart_withCrLf after)).trans
          (head?_withCrLf_eq_colon _)
      · simp [withCrLf_cons hlf, startsParameters, hc]

theorem continuesMethod_withCrLf (t : Text) : continuesMethod (withCrLf t) = continuesMethod t := by
  rw [continuesMethod, dropMark_withCrLf, trimStart_withCrLf, dropTypeParameters?_withCrLf,
    Option.any_map, funext startsParameters_withCrLf]
  rfl

theorem hasMethod_withCrLf (t : Text) : hasMethod (withCrLf t) = hasMethod t := by
  induction t with
  | nil => rfl
  | cons c rest ih =>
    by_cases hlf : c = '\n'
    · subst hlf
      have hword : isWord '\r' = false ∧ isWord '\n' = false := by decide
      simpa [hasMethod, hword] using ih
    · rw [withCrLf_cons hlf, hasMethod, hasMethod, continuesMethod_withCrLf, ih]

theorem isPrefixOf?_withCrLf {p : Text} (hp : ∀ c ∈ p, endsLine c = false) (t : Text) :
    p.isPrefixOf? (withCrLf t) = (p.isPrefixOf? t).map withCrLf := by
  induction p generalizing t with
  | nil => rfl
  | cons d p ih =>
    have hd : endsLine d = false := hp d List.mem_cons_self
    have hdrop := ih fun c hc => hp c (List.mem_cons_of_mem d hc)
    cases t with
    | nil => rfl
    | cons c rest =>
      by_cases hlf : c = '\n'
      · subst hlf
        have hne : d ≠ '\r' ∧ d ≠ '\n' := by
          simpa [endsLine, and_comm] using hd
        simp [List.isPrefixOf?, hne]
      · rw [withCrLf_cons hlf, List.isPrefixOf?, List.isPrefixOf?, hdrop]
        split <;> rfl

theorem declaredName?_withCrLf {t : Text} (h : ¬ "export type\n".toList <+: t) :
    declaredName? (withCrLf t) = declaredName? t := by
  have hkeyword : ∀ c ∈ "export type".toList, endsLine c = false := by
    simp [endsLine]
  rw [declaredName?, declaredName?, isPrefixOf?_withCrLf hkeyword]
  cases hrest : "export type".toList.isPrefixOf? t with
  | none => rfl
  | some rest =>
    cases rest with
    | nil => rfl
    | cons c rest =>
      have hlf : c ≠ '\n' := by
        rintro rfl
        refine h ⟨rest, ?_⟩
        rw [← List.isPrefixOf?_eq_some_iff_append_eq.mp hrest]
        rfl
      have hword : (withCrLf rest).takeWhile isWord = rest.takeWhile isWord :=
        takeWhile_withCrLf (by decide) (by decide) rest
      rw [Option.map_some, withCrLf_cons hlf]
      simp only [hword]

theorem firstName?_withCrLf {t : Text} (h : ¬ "export type\n".toList <:+: t) (insideWord : Bool) :
    firstName? insideWord (withCrLf t) = firstName? insideWord t := by
  induction t generalizing insideWord with
  | nil => rfl
  | cons c rest ih =>
    have hrest : ¬ "export type\n".toList <:+: rest :=
      fun hinside => h (hinside.trans (List.suffix_cons c rest).isInfix)
    by_cases hlf : c = '\n'
    · subst hlf
      -- No declaration starts with either part of the line end, and neither part continues a word.
      have hcr : firstName? insideWord ('\r' :: '\n' :: withCrLf rest) =
          firstName? false (withCrLf rest) := by
        cases insideWord <;> rfl
      have hlf : firstName? insideWord ('\n' :: rest) = firstName? false rest := by
        cases insideWord <;> rfl
      rw [withCrLf_lf, hcr, hlf, ih hrest]
    · have hdeclared := declaredName?_withCrLf fun hfront => h hfront.isInfix
      rw [withCrLf_cons hlf] at hdeclared
      rw [withCrLf_cons hlf, firstName?, firstName?, hdeclared, ih hrest]

variable {α : Type} {step? : Text → Option (α × Text)} {skip : Text → Text} {scan : Text → List α}

/-- A scan that keeps to lines finds the same whichever way they end. -/
theorem IsScan.scan_withCrLf (hscan : IsScan step? skip scan) (hstop : StopsAtLineEnds step? skip)
    (s t : Text) : scan (s ++ withCrLf t) = scan (s ++ t) := by
  have hcr := hscan.append_lineEnd hstop (x := '\r') (by decide)
  have hlf := hscan.append_lineEnd hstop (x := '\n') (by decide)
  have hstart : ∀ t : Text, scan ('\n' :: t) = scan t := by
    intro t
    have hcut := hlf [] t
    rwa [List.nil_append, hscan.nil, List.nil_append] at hcut
  induction t generalizing s with
  | nil => rfl
  | cons c t ih =>
    by_cases hc : c = '\n'
    · subst hc
      rw [withCrLf_lf, hcr, hstart, hlf]
      exact congrArg (scan s ++ ·) (ih [])
    · rw [withCrLf_cons hc, List.append_cons, List.append_cons s c t]
      exact ih (s ++ [c])

theorem members_withCrLf (t : Text) : members (withCrLf t) = members t := by
  have hmembers : memberList (withCrLf t) = memberList t :=
    isScan_memberList.scan_withCrLf stopsAtLineEnds_member? [] t
  have hproperties : propertyNames (withCrLf t) = propertyNames t :=
    isScan_propertyNames.scan_withCrLf stopsAtLineEnds_property? [] t
  rw [members, members, hmembers, hproperties]

end Alias

/-- A document with CR LF at its line ends gives the same builder as with LF, or the same failure. -/
theorem Builder.ofDocument_withCrLf {t : Text} (h : ¬ "export type\n".toList <:+: t)
    (s : ClassSettings) : Builder.ofDocument s (withCrLf t) = Builder.ofDocument s t := by
  have hempty : (withCrLf t).trim.isEmpty = t.trim.isEmpty := by
    rw [Bool.eq_iff_iff, List.isEmpty_iff, List.isEmpty_iff, trim_withCrLf_eq_nil]
  have hname : Alias.name (withCrLf t) = Alias.name t := by
    rw [Alias.name, Alias.name, Alias.firstName?_withCrLf h]
  rw [Builder.ofDocument, Builder.ofDocument, hempty, Alias.hasMethod_withCrLf, hname,
    Alias.members_withCrLf]

/-- A document with an empty line, a type at a line end and a property without one. -/
theorem ofDocument_withCrLf_gaps :
    ¬ "export type\n".toList <:+: "export type T =\n\n\x7b a:\n b?: c\n\x7d\n".toList ∧
      (Builder.ofDocument {} (withCrLf "export type T =\n\n\x7b a:\n b?: c\n\x7d\n".toList)).map
          Builder.members =
        .ok [{ name := "b".toList, type := "c".toList, optional := true }] := by
  have hlines : ¬ "export type\n".toList <:+: "export type T =\n\n\x7b a:\n b?: c\n\x7d\n".toList := by
    decide
  refine ⟨hlines, ?_⟩
  rw [Builder.ofDocument_withCrLf hlines]
  decide +kernel

/-- A line that ends behind `export type` declares a name with LF and none with CR LF. -/
example : Alias.name "export type\nT".toList = .ok "T".toList ∧
    Alias.name (withCrLf "export type\nT".toList) = .error .aliasNameNotFound := by
  decide

end FluentBuilder
