import Mathlib.Data.List.TakeWhile
import FluentBuilder.Proofs.Json.Grammar

namespace FluentBuilder.Json

def skip (t : Text) : Text :=
  t.dropWhile isWhite

def readUnit? (t : Text) : Option (Nat × Text) :=
  (unit? (t.take 4)).map (·, t.drop 4)

def readNumber? (t : Text) : Option (Char × Text) := do
  let (n, rest) ← readUnit? t
  if n.isValidChar then return (Char.ofNat n, rest)
  match rest with
  | '\\' :: 'u' :: rest =>
    let (low, rest) ← readUnit? rest
    if (0xD800 ≤ n ∧ n < 0xDC00) ∧ 0xDC00 ≤ low ∧ low < 0xE000 then
      return (ofSurrogates n low, rest)
    else none
  | _ => none

def readCharacter? : Text → Option (Char × Text)
  | '\\' :: 'u' :: rest => readNumber? rest
  | '\\' :: l :: rest => (letters.lookup l).map (·, rest)
  | c :: rest => if 0x20 ≤ c.toNat ∧ c ≠ '"' ∧ c ≠ '\\' then some (c, rest) else none
  | [] => none

/-- The characters up to a closing quote. Like the readers below, it takes no more steps than its
first argument says. -/
def readCharacters? : Nat → Text → Option (Text × Text)
  | 0, _ => none
  | _ + 1, '"' :: rest => some ([], rest)
  | n + 1, t => do
    let (c, rest) ← readCharacter? t
    let (s, rest) ← readCharacters? n rest
    return (c :: s, rest)

def readElements? {α : Type} (read? : Text → Option (α × Text)) (close : Char) :
    Nat → Text → Option (List α × Text)
  | 0, _ => none
  | n + 1, t => do
    let (a, rest) ← read? t
    match skip rest with
    | [] => none
    | c :: rest =>
      if c = close then return ([a], rest)
      else if c = ',' then
        let (as, rest) ← readElements? read? close n (skip rest)
        return (a :: as, rest)
      else none

def readSequence? {α : Type} (read? : Text → Option (α × Text)) (close : Char) (n : Nat) (t : Text) :
    Option (List α × Text) :=
  match skip t with
  | [] => none
  | c :: rest => if c = close then some ([], rest) else readElements? read? close n (c :: rest)

def readField? (read? : Text → Option (Json × Text)) (n : Nat) :
    Text → Option ((Text × Json) × Text)
  | '"' :: t => do
    let (key, rest) ← readCharacters? n t
    match skip rest with
    | ':' :: rest =>
      let (v, rest) ← read? (skip rest)
      return ((key, v), rest)
    | _ => none
  | _ => none

def readValue? : Nat → Text → Option (Json × Text)
  | 0, _ => none
  | n + 1, t =>
    match t with
    | '"' :: rest => (readCharacters? n rest).map (Prod.map string id)
    | 't' :: 'r' :: 'u' :: 'e' :: rest => some (boolean true, rest)
    | 'f' :: 'a' :: 'l' :: 's' :: 'e' :: rest => some (boolean false, rest)
    | '[' :: rest => (readSequence? (readValue? n) ']' n rest).map (Prod.map array id)
    | '{' :: rest =>
      (readSequence? (readField? (readValue? n) n) '}' n rest).map (Prod.map object id)
    | _ => none

def read? (t : Text) : Option Json := do
  let (v, rest) ← readValue? (t.length + 1) (skip t)
  if skip rest = [] then return v else none

/-- Reads what the grammar spells, up to a length: what is read stands at the start of the text, and a
spelling that is short enough is read whatever follows it. -/
structure IsReader {α : Type} (read? : Text → Option (α × Text)) (spells : α → Text → Prop)
    (n : Nat) : Prop where
  sound {t r : Text} {a : α} (h : read? t = some (a, r)) : ∃ u, spells a u ∧ t = u ++ r
  complete {u : Text} {a : α} (h : spells a u) (hu : u.length < n) (r : Text) :
    read? (u ++ r) = some (a, r)

/-- What is read when a constructor is put around it. -/
theorem IsReader.sound_map {α β : Type} {read? : Text → Option (α × Text)}
    {spells : α → Text → Prop} {n : Nat} (hread : IsReader read? spells n) {f : α → β} {t r : Text}
    {b : β} (h : (read? t).map (Prod.map f id) = some (b, r)) :
    ∃ a u, b = f a ∧ spells a u ∧ t = u ++ r := by
  simp only [Option.map_eq_some_iff, Prod.map_apply, id_eq, Prod.mk.injEq, Prod.exists] at h
  obtain ⟨a, _, ha, rfl, rfl⟩ := h
  obtain ⟨u, hu, rfl⟩ := hread.sound ha
  exact ⟨a, u, rfl, hu, rfl⟩

theorem skip_append {w : Text} (hw : IsWhite w) (t : Text) : skip (w ++ t) = skip t :=
  List.dropWhile_append_of_pos hw

theorem skip_cons {c : Char} (hc : isWhite c = false) (t : Text) : skip (c :: t) = c :: t := by
  simp [skip, hc]

theorem skip_append_cons {w : Text} (hw : IsWhite w) {c : Char} (hc : isWhite c = false) (t : Text) :
    skip (w ++ c :: t) = c :: t := by
  rw [skip_append hw, skip_cons hc]

/-- White space with a text behind it, where skipping has left that text. -/
theorem exists_white_of_skip {t u : Text} (h : skip t = u) : ∃ w, IsWhite w ∧ t = w ++ u :=
  ⟨t.takeWhile isWhite, fun _ => List.mem_takeWhile_imp,
    by rw [← h, skip, List.takeWhile_append_dropWhile]⟩

theorem length_of_unit? {t : Text} {n : Nat} (h : unit? t = some n) : t.length = 4 := by
  unfold unit? at h
  split at h
  · assumption
  · cases h

theorem readUnit?_append {t : Text} {n : Nat} (h : unit? t = some n) (r : Text) :
    readUnit? (t ++ r) = some (n, r) := by
  have hlen := length_of_unit? h
  simp [readUnit?, ← hlen, h]

theorem exists_of_readUnit? {t r : Text} {n : Nat} (h : readUnit? t = some (n, r)) :
    ∃ u, unit? u = some n ∧ t = u ++ r := by
  simp only [readUnit?, Option.map_eq_some_iff, Prod.mk.injEq] at h
  obtain ⟨m, hm, rfl, rfl⟩ := h
  exact ⟨t.take 4, hm, (List.take_append_drop 4 t).symm⟩

theorem readCharacter?_append {c : Char} {u : Text} (h : Character c u) (r : Text) :
    readCharacter? (u ++ r) = some (c, r) := by
  cases h with
  | plain high quote backslash =>
    simp [readCharacter?, high, quote, backslash]
  | @letter l c h =>
    -- no letter is the `u` of an escape by number, which the reader looks for first
    have hnone : letters.lookup 'u' = none := by decide
    have hl : l ≠ 'u' := by
      rintro rfl
      rw [hnone] at h
      cases h
    simp [readCharacter?, h]
  | unit h hn => simp [readCharacter?, readNumber?, readUnit?_append h, hn]
  | @pair high low t t' h h' leading trailing =>
    -- a leading surrogate alone is no character, so the reader goes on to the trailing one
    have hn : ¬ high.isValidChar := by
      unfold Nat.isValidChar
      omega
    simp [readCharacter?, readNumber?, readUnit?_append h, readUnit?_append h', hn, leading,
      trailing]

theorem exists_of_readNumber? {t r : Text} {c : Char} (h : readNumber? t = some (c, r)) :
    ∃ u, Character c ('\\' :: 'u' :: u) ∧ t = u ++ r := by
  simp only [readNumber?, Option.bind_eq_bind, Option.bind_eq_some_iff, Prod.exists] at h
  obtain ⟨n, rest, hn, h⟩ := h
  obtain ⟨u, hu, rfl⟩ := exists_of_readUnit? hn
  split at h
  · next hvalid =>
    simp only [Option.pure_def, Option.some.injEq, Prod.mk.injEq] at h
    obtain ⟨rfl, rfl⟩ := h
    exact ⟨u, .unit hu hvalid, rfl⟩
  · split at h
    · next rest =>
      simp only [Option.bind_eq_some_iff, Prod.exists] at h
      obtain ⟨low, rest, hlow, h⟩ := h
      obtain ⟨u', hu', rfl⟩ := exists_of_readUnit? hlow
      split at h
      · next hpair =>
        simp only [Option.pure_def, Option.some.injEq, Prod.mk.injEq] at h
        obtain ⟨rfl, rfl⟩ := h
        exact ⟨u ++ '\\' :: 'u' :: u', .pair hu hu' hpair.1 hpair.2, by simp⟩
      · cases h
    · cases h

theorem exists_of_readCharacter? {t r : Text} {c : Char} (h : readCharacter? t = some (c, r)) :
    ∃ u, Character c u ∧ t = u ++ r := by
  unfold readCharacter? at h
  split at h
  · obtain ⟨u, hu, rfl⟩ := exists_of_readNumber? h
    exact ⟨_, hu, rfl⟩
  · next l rest _ =>
    simp only [Option.map_eq_some_iff, Prod.mk.injEq] at h
    obtain ⟨_, hl, rfl, rfl⟩ := h
    exact ⟨_, .letter hl, rfl⟩
  · split at h
    · next hc =>
      simp only [Option.some.injEq, Prod.mk.injEq] at h
      obtain ⟨rfl, rfl⟩ := h
      exact ⟨_, .plain hc.1 hc.2.1 hc.2.2, rfl⟩
    · cases h
  · cases h

/-- A character takes at least one character to write, and the first one is no quote. -/
theorem Character.exists_cons {c : Char} {t : Text} (h : Character c t) :
    ∃ d u, t = d :: u ∧ d ≠ '"' := by
  cases h with
  | plain _ quote _ => exact ⟨_, _, rfl, quote⟩
  | letter _ | unit _ _ | pair _ _ _ _ => exact ⟨_, _, rfl, by decide⟩

theorem isReader_readCharacters? (n : Nat) : IsReader (readCharacters? n) Characters n where
  sound {t r s} h := by
    fun_induction readCharacters? n t generalizing s with
    | case1 => cases h
    | case2 rest =>
      simp only [Option.some.injEq, Prod.mk.injEq] at h
      obtain ⟨rfl, rfl⟩ := h
      exact ⟨['"'], .close, rfl⟩
    | case3 n t _ ih =>
      simp only [Option.bind_eq_bind, Option.bind_eq_some_iff, Prod.exists, Option.pure_def,
        Option.some.injEq, Prod.mk.injEq] at h
      obtain ⟨c, rest, hc, s, _, hs, rfl, rfl⟩ := h
      obtain ⟨v, hv, rfl⟩ := exists_of_readCharacter? hc
      obtain ⟨u, hu, rfl⟩ := ih _ hs
      exact ⟨v ++ u, .cons hv hu, by simp⟩
  complete {u s} h hu r := by
    -- every character takes up at least one of the text, so the steps suffice
    induction n generalizing u s with
    | zero => cases hu
    | succ n ih =>
      cases h with
      | close => rfl
      | @cons c s t u h rest =>
        obtain ⟨d, t, rfl, hd⟩ := h.exists_cons
        have hc := readCharacter?_append h (u ++ r)
        have hlen : u.length < n := by
          simp only [List.length_append, List.length_cons] at hu
          omega
        simp only [List.cons_append] at hc
        simp [readCharacters?, hd, hc, ih rest hlen]

def starts : Text :=
  "\"tf[\x7b".toList

theorem isWhite_of_mem_starts : ∀ c ∈ starts, isWhite c = false := by
  simp [starts, isWhite]

def Starts {α : Type} (spells : α → Text → Prop) : Prop :=
  ∀ ⦃a t⦄, spells a t → ∃ c ∈ starts, ∃ u, t = c :: u

theorem starts_value : Starts Value := by
  intro v t h
  cases h with
  | string _ | true | false | array _ | object _ => exact ⟨_, by decide, _, rfl⟩

theorem starts_field : Starts Field := by
  intro f t h
  cases h with
  | mk _ _ _ _ => exact ⟨_, by decide, _, rfl⟩

section Lists
variable {α : Type} {read? : Text → Option (α × Text)} {spells : α → Text → Prop} {close : Char}

theorem starts_elements (hs : Starts spells) : Starts (Elements spells close) := by
  intro as t h
  cases h with
  | last ha _ | cons ha _ _ _ =>
    obtain ⟨c, hc, u, rfl⟩ := hs ha
    exact ⟨c, hc, _, rfl⟩

/-- Nothing is skipped in front of a value. -/
theorem skip_of_starts (hs : Starts spells) {a : α} {t : Text} (h : spells a t) (r : Text) :
    skip (t ++ r) = t ++ r := by
  obtain ⟨c, hc, u, rfl⟩ := hs h
  exact skip_cons (isWhite_of_mem_starts c hc) _

variable (hs : Starts spells) (hclose : close = ']' ∨ close = '}')

include hclose in
theorem isWhite_close : isWhite close = false := by
  rcases hclose with rfl | rfl <;> decide

include hs hclose

theorem isReader_readElements? {n : Nat} (h : IsReader read? spells n) (m : Nat) :
    IsReader (readElements? read? close m) (Elements spells close) (min n m) where
  sound {t r as} hr := by
    fun_induction readElements? read? close m t generalizing as with
    | case1 => cases hr
    | case2 m t ih =>
      simp only [Option.bind_eq_bind, Option.bind_eq_some_iff, Prod.exists] at hr
      obtain ⟨a, rest, ha, hr⟩ := hr
      obtain ⟨u, hu, rfl⟩ := h.sound ha
      split at hr
      · cases hr
      · next c rest' hskip =>
        obtain ⟨w, hw, rfl⟩ := exists_white_of_skip hskip
        split at hr
        · next hc =>
          simp only [Option.pure_def, Option.some.injEq, Prod.mk.injEq] at hr
          obtain ⟨rfl, rfl⟩ := hr
          exact ⟨_, .last hu hw, by simp [hc]⟩
        · split at hr
          · next hc =>
            simp only [Option.bind_eq_some_iff, Prod.exists, Option.pure_def, Option.some.injEq,
              Prod.mk.injEq] at hr
            obtain ⟨as, _, has, rfl, rfl⟩ := hr
            obtain ⟨u', hu', hrest⟩ := ih _ has
            obtain ⟨w', hw', rfl⟩ := exists_white_of_skip hrest
            exact ⟨_, .cons hu hw hw' hu', by simp [hc]⟩
          · cases hr
  complete {u as} hu hlen r := by
    have hwhite := isWhite_close hclose
    have hcomma : ',' ≠ close := by rcases hclose with rfl | rfl <;> decide
    -- along the spelling: each element is shorter than the list, so that `h` reads it
    induction hu generalizing m with
    | @last a t w ha hw =>
      simp only [List.length_append] at hlen
      obtain ⟨m, rfl⟩ : ∃ m', m = m' + 1 := ⟨m - 1, by omega⟩
      have hread := h.complete ha (by omega) (w ++ close :: r)
      simp [readElements?, hread, skip_append_cons hw hwhite]
    | @cons a as t w w' u ha hw hw' hrest ih =>
      simp only [List.length_append, List.length_cons] at hlen
      obtain ⟨m, rfl⟩ : ∃ m', m = m' + 1 := ⟨m - 1, by omega⟩
      have hread := h.complete ha (by omega) (w ++ ',' :: (w' ++ u ++ r))
      have hskip : skip (w' ++ (u ++ r)) = u ++ r := by
        rw [skip_append hw', skip_of_starts (starts_elements hs) hrest]
      have hmore := ih m (by omega)
      simp only [List.append_assoc] at hread
      simp [readElements?, hread, skip_append_cons hw, isWhite, hcomma, hskip, hmore]

theorem isReader_readSequence? {n : Nat} (h : IsReader read? spells n) :
    IsReader (readSequence? read? close n) (Sequence spells close) n where
  sound {t r as} hr := by
    unfold readSequence? at hr
    split at hr
    · cases hr
    · next c rest hskip =>
      obtain ⟨w, hw, rfl⟩ := exists_white_of_skip hskip
      split at hr
      · next hc =>
        simp only [Option.some.injEq, Prod.mk.injEq] at hr
        obtain ⟨rfl, rfl⟩ := hr
        exact ⟨_, .empty hw, by simp [hc]⟩
      · obtain ⟨u, hu, hrest⟩ := (isReader_readElements? hs hclose h n).sound hr
        exact ⟨_, .elements hw hu, by simp [hrest]⟩
  complete {u as} hu hlen r := by
    cases hu with
    | @empty w hw =>
      simp [readSequence?, skip_append_cons hw (isWhite_close hclose)]
    | @elements _ w t hw ht =>
      obtain ⟨c, hc, u, rfl⟩ := starts_elements hs ht
      -- the reader would take the list for empty if an element could start with a bracket
      have hne : c ≠ close := by
        rintro rfl
        rcases hclose with rfl | rfl <;> exact absurd hc (by decide)
      have hread := (isReader_readElements? hs hclose h n).complete ht
        (by simp only [List.length_append] at hlen; omega) r
      simp only [List.cons_append] at hread
      simp [readSequence?, skip_append_cons hw (isWhite_of_mem_starts c hc), hne, hread]

end Lists

theorem isReader_readField? {read? : Text → Option (Json × Text)} {n : Nat}
    (h : IsReader read? Value n) : IsReader (readField? read? n) Field n where
  sound {t r f} hr := by
    unfold readField? at hr
    split at hr
    · next t =>
      simp only [Option.bind_eq_bind, Option.bind_eq_some_iff, Prod.exists] at hr
      obtain ⟨key, rest, hkey, hr⟩ := hr
      obtain ⟨u, hu, rfl⟩ := (isReader_readCharacters? n).sound hkey
      split at hr
      · next rest' hskip =>
        obtain ⟨w, hw, rfl⟩ := exists_white_of_skip hskip
        simp only [Option.bind_eq_some_iff, Prod.exists, Option.pure_def, Option.some.injEq,
          Prod.mk.injEq] at hr
        obtain ⟨v, _, hv, rfl, rfl⟩ := hr
        obtain ⟨u', hu', hrest⟩ := h.sound hv
        obtain ⟨w', hw', rfl⟩ := exists_white_of_skip hrest
        exact ⟨_, .mk hu hw hw' hu', by simp⟩
      · cases hr
    · cases hr
  complete {u f} hu hlen r := by
    cases hu with
    | @mk key s w w' t v hkey hw hw' hv =>
      simp only [List.length_append, List.length_cons] at hlen
      have hname := (isReader_readCharacters? n).complete hkey (by omega)
        (w ++ ':' :: (w' ++ (t ++ r)))
      -- no value starts with white space, so skipping stops right in front of it
      have hskip : skip (w' ++ (t ++ r)) = t ++ r := by
        rw [skip_append hw', skip_of_starts starts_value hv]
      have hvalue := h.complete hv (by omega) r
      simp [readField?, hname, skip_append_cons hw, isWhite, hskip, hvalue]

/-- Values inside a value are shorter than it, so every value that is shorter than the number of steps
is read. -/
theorem isReader_readValue? (n : Nat) : IsReader (readValue? n) Value n := by
  -- on the number of steps: what stands inside of a value is read with one step less
  induction n with
  | zero =>
    exact { sound := nofun, complete := nofun }
  | succ n ih =>
    have hitems : IsReader (readSequence? (readValue? n) ']' n) (Sequence Value ']') n :=
      isReader_readSequence? starts_value (.inl rfl) ih
    have hfields : IsReader (readSequence? (readField? (readValue? n) n) '}' n)
        (Sequence Field '}') n :=
      isReader_readSequence? starts_field (.inr rfl) (isReader_readField? ih)
    constructor
    · intro t r v h
      simp only [readValue?] at h
      split at h
      · obtain ⟨s, u, rfl, hu, rfl⟩ := (isReader_readCharacters? n).sound_map h
        exact ⟨_, .string hu, rfl⟩
      · simp only [Option.some.injEq, Prod.mk.injEq] at h
        obtain ⟨rfl, rfl⟩ := h
        exact ⟨_, .true, rfl⟩
      · simp only [Option.some.injEq, Prod.mk.injEq] at h
        obtain ⟨rfl, rfl⟩ := h
        exact ⟨_, .false, rfl⟩
      · obtain ⟨items, u, rfl, hu, rfl⟩ := hitems.sound_map h
        exact ⟨_, .array hu, rfl⟩
      · obtain ⟨fields, u, rfl, hu, rfl⟩ := hfields.sound_map h
        exact ⟨_, .object hu, rfl⟩
      · cases h
    · intro u v hu hlen r
      cases hu with
      | true | false => rfl
      | string hs =>
        have := (isReader_readCharacters? n).complete hs (by simpa using hlen) r
        simp [readValue?, this]
      | array h =>
        have := hitems.complete h (by simpa using hlen) r
        simp [readValue?, this]
      | object h =>
        have := hfields.complete h (by simpa using hlen) r
        simp [readValue?, this]

/-- What a text reads as is what it spells. -/
theorem read?_eq_some_iff {t : Text} {v : Json} : read? t = some v ↔ Spells v t := by
  have hreader := isReader_readValue? (t.length + 1)
  constructor
  · intro h
    simp only [read?, Option.bind_eq_bind, Option.bind_eq_some_iff, Prod.exists] at h
    obtain ⟨v', rest, hv, h⟩ := h
    obtain ⟨u, hu, hrest⟩ := hreader.sound hv
    obtain ⟨w, hw, ht⟩ := exists_white_of_skip hrest
    split at h
    · next hend =>
      obtain ⟨w', hw', rfl⟩ := exists_white_of_skip hend
      cases h
      exact ⟨w, u, w', hw, hu, hw', by simp [ht]⟩
    · cases h
  · rintro ⟨w, u, w', hw, hu, hw', rfl⟩
    have hskip : skip (w ++ u ++ w') = u ++ w' := by
      rw [List.append_assoc, skip_append hw, skip_of_starts starts_value hu]
    have hread := hreader.complete hu (by simp only [List.length_append]; omega) w'
    have hend : skip w' = [] := List.dropWhile_eq_nil_iff.2 hw'
    rw [read?, hskip, hread]
    simp [hend]

example : (read? "[ \"\\uD83D\\uDE00\" ]".toList).map (layout 0) = some "[\n  \"😀\"\n]".toList := by
  decide

/-- A text spells one value at most. -/
theorem Spells.eq {t : Text} {v v' : Json} (h : Spells v t) (h' : Spells v' t) : v = v' :=
  Option.some.inj ((read?_eq_some_iff.2 h).symm.trans (read?_eq_some_iff.2 h'))

end FluentBuilder.Json
