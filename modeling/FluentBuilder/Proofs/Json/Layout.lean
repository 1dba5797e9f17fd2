import FluentBuilder.Proofs.Json.Grammar

namespace FluentBuilder.Json

theorem unit?_hexDigit : ∀ n < 0x20,
    unit? ['0', '0', hexDigit (n / 16), hexDigit (n % 16)] = some n := by
  decide

theorem character_escape (c : Char) : Character c (escape c) := by
  fun_cases escape c with
  | case1 | case2 | case3 | case4 | case5 | case6 | case7 =>
    subst_vars
    exact .letter rfl
  | case8 _ _ _ _ _ _ _ low =>
    have h := Character.unit (unit?_hexDigit c.toNat low) (.inl (by omega))
    rwa [Char.ofNat_toNat] at h
  | case9 quote backslash _ _ _ _ _ high => exact .plain (by omega) quote backslash

theorem characters_escape (t : Text) : Characters t (t.flatMap escape ++ ['"']) := by
  induction t with
  | nil => exact .close
  | cons c t ih =>
    rw [List.flatMap_cons, List.append_assoc]
    exact .cons (character_escape c) ih

theorem isWhite_newLine (depth : Nat) : IsWhite (newLine depth) := by
  intro c hc
  rw [newLine, List.mem_cons, List.mem_replicate] at hc
  rcases hc with rfl | ⟨-, rfl⟩ <;> rfl

theorem isWhite_nil : IsWhite [] := by
  simp [IsWhite]

theorem isWhite_space : IsWhite [' '] := by
  simp [IsWhite, isWhite]

theorem field_layout (key : Text) {v : Json} {t : Text} (h : Value v t) :
    Field (key, v) (quote key ++ ": ".toList ++ t) := by
  have h' := Field.mk (characters_escape key) isWhite_nil isWhite_space h
  simpa [quote] using h'

mutual

theorem value_layout (depth : Nat) : ∀ v : Json, Value v (layout depth v)
  | string t => .string (characters_escape t)
  | boolean true => .true
  | boolean false => .false
  | array [] => .array (.empty isWhite_nil)
  | array (item :: items) => by
    have h := elements_layoutItems depth items (value_layout (depth + 1) item)
    have h' := Value.array (.elements (isWhite_newLine (depth + 1)) h)
    simpa [layout] using h'
  | object [] => .object (.empty isWhite_nil)
  | object ((key, v) :: fields) => by
    have h := elements_layoutFields depth fields (field_layout key (value_layout (depth + 1) v))
    have h' := Value.object (.elements (isWhite_newLine (depth + 1)) h)
    simpa [layout] using h'

theorem elements_layoutItems (depth : Nat) : ∀ (items : List Json) {v : Json} {t : Text},
    Value v t → Elements Value ']' (v :: items) (t ++ layoutItems depth items)
  | [], _, _, h => by
    have h' : Elements Value ']' _ _ := .last h (isWhite_newLine depth)
    simpa [layoutItems] using h'
  | item :: items, _, _, h => by
    have hrest := elements_layoutItems depth items (value_layout (depth + 1) item)
    have h' := Elements.cons h isWhite_nil (isWhite_newLine (depth + 1)) hrest
    simpa [layoutItems] using h'

theorem elements_layoutFields (depth : Nat) : ∀ (fields : List (Text × Json)) {f : Text × Json}
    {t : Text}, Field f t → Elements Field '}' (f :: fields) (t ++ layoutFields depth fields)
  | [], _, _, h => by
    have h' : Elements Field '}' _ _ := .last h (isWhite_newLine depth)
    simpa [layoutFields] using h'
  | (key, v) :: fields, _, _, h => by
    have hrest := elements_layoutFields depth fields (field_layout key (value_layout (depth + 1) v))
    have h' := Elements.cons h isWhite_nil (isWhite_newLine (depth + 1)) hrest
    simpa [layoutFields] using h'

end

/-- A layout spells its value. -/
theorem spells_layout (depth : Nat) (v : Json) : Spells v (layout depth v) :=
  ⟨[], _, [], isWhite_nil, value_layout depth v, isWhite_nil, by simp⟩

def isControl (c : Char) : Bool :=
  c.toNat < 0x20

mutual

def lineEnds : Json → Nat
  | string _ => 0
  | boolean _ => 0
  | array [] => 0
  | array (item :: items) => lineEnds item + lineEndsOfItems items + 1
  | object [] => 0
  | object ((_, v) :: fields) => lineEnds v + lineEndsOfFields fields + 1

def lineEndsOfItems : List Json → Nat
  | [] => 1
  | item :: items => lineEnds item + lineEndsOfItems items + 1

def lineEndsOfFields : List (Text × Json) → Nat
  | [] => 1
  | (_, v) :: fields => lineEnds v + lineEndsOfFields fields + 1

end

theorem filter_hexDigit : ∀ n < 0x20,
    ['\\', 'u', '0', '0', hexDigit (n / 16), hexDigit (n % 16)].filter isControl = [] := by
  decide

theorem filter_escape (c : Char) : (escape c).filter isControl = [] := by
  fun_cases escape c with
  | case1 | case2 | case3 | case4 | case5 | case6 | case7 => rfl
  | case8 _ _ _ _ _ _ _ low => exact filter_hexDigit c.toNat low
  | case9 _ _ _ _ _ _ _ high => simpa [isControl] using high

theorem filter_quote (t : Text) : (quote t).filter isControl = [] := by
  simp [quote, List.filter_flatMap, filter_escape, isControl]

theorem filter_newLine (depth : Nat) : (newLine depth).filter isControl = ['\n'] := by
  simp [newLine, isControl]

mutual

/-- The control characters of a layout are the line ends between its items. -/
theorem filter_layout (depth : Nat) : ∀ v : Json,
    (layout depth v).filter isControl = List.replicate (lineEnds v) '\n'
  | string t => by simp [layout, lineEnds, filter_quote]
  | boolean true => rfl
  | boolean false => rfl
  | array [] => rfl
  | array (item :: items) => by
    simp [layout, lineEnds, filter_newLine, filter_layout, filter_layoutItems, isControl,
      List.replicate_succ]
  | object [] => rfl
  | object ((key, v) :: fields) => by
    simp [layout, lineEnds, filter_newLine, filter_quote, filter_layout, filter_layoutFields, isControl,
      List.replicate_succ]

theorem filter_layoutItems (depth : Nat) : ∀ items : List Json,
    (layoutItems depth items).filter isControl = List.replicate (lineEndsOfItems items) '\n'
  | [] => by simp [layoutItems, lineEndsOfItems, filter_newLine, isControl]
  | item :: items => by
    simp [layoutItems, lineEndsOfItems, filter_newLine, filter_layout, filter_layoutItems, isControl,
      List.replicate_succ]

theorem filter_layoutFields (depth : Nat) : ∀ fields : List (Text × Json),
    (layoutFields depth fields).filter isControl = List.replicate (lineEndsOfFields fields) '\n'
  | [] => by simp [layoutFields, lineEndsOfFields, filter_newLine, isControl]
  | (key, v) :: fields => by
    simp [layoutFields, lineEndsOfFields, filter_newLine, filter_quote, filter_layout,
      filter_layoutFields, isControl, List.replicate_succ]

end

end FluentBuilder.Json
