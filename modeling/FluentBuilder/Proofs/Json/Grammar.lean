import FluentBuilder.Json.Basic
import FluentBuilder.Toml.Quoted

namespace FluentBuilder.Json

def isWhite (c : Char) : Bool :=
  c = ' ' || c = '\t' || c = '\n' || c = '\r'

def IsWhite (t : Text) : Prop :=
  ∀ c ∈ t, isWhite c

def letters : List (Char × Char) :=
  [('"', '"'), ('\\', '\\'), ('/', '/'), ('b', '\x08'), ('f', '\x0c'), ('n', '\n'), ('r', '\r'),
    ('t', '\t')]

def unit? (t : Text) : Option Nat :=
  if t.length = 4 then (t.mapM Toml.hexDigit?).map (List.foldl (16 * · + ·) 0) else none

def ofSurrogates (high low : Nat) : Char :=
  Char.ofNat (0x10000 + 0x400 * (high - 0xD800) + (low - 0xDC00))

inductive Character : Char → Text → Prop where
  | plain {c : Char} (high : 0x20 ≤ c.toNat) (quote : c ≠ '"') (backslash : c ≠ '\\') :
    Character c [c]
  | letter {l c : Char} (h : letters.lookup l = some c) : Character c ['\\', l]
  | unit {n : Nat} {t : Text} (h : unit? t = some n) (hn : n.isValidChar) :
    Character (Char.ofNat n) ('\\' :: 'u' :: t)
  | pair {high low : Nat} {t t' : Text} (h : unit? t = some high) (h' : unit? t' = some low)
    (leading : 0xD800 ≤ high ∧ high < 0xDC00) (trailing : 0xDC00 ≤ low ∧ low < 0xE000) :
    Character (ofSurrogates high low) ('\\' :: 'u' :: t ++ '\\' :: 'u' :: t')

inductive Characters : Text → Text → Prop where
  | close : Characters [] ['"']
  | cons {c : Char} {s t u : Text} (h : Character c t) (rest : Characters s u) :
    Characters (c :: s) (t ++ u)

/-- The spellings of a list with at least one element, up to the closing bracket: between two
elements stands a comma, with white space on either side. -/
inductive Elements {α : Type} (spells : α → Text → Prop) (close : Char) : List α → Text → Prop where
  | last {a : α} {t w : Text} (h : spells a t) (hw : IsWhite w) :
    Elements spells close [a] (t ++ w ++ [close])
  | cons {a : α} {as : List α} {t w w' u : Text} (h : spells a t) (hw : IsWhite w)
    (hw' : IsWhite w') (rest : Elements spells close as u) :
    Elements spells close (a :: as) (t ++ w ++ ',' :: w' ++ u)

inductive Sequence {α : Type} (spells : α → Text → Prop) (close : Char) : List α → Text → Prop where
  | empty {w : Text} (hw : IsWhite w) : Sequence spells close [] (w ++ [close])
  | elements {as : List α} {w t : Text} (hw : IsWhite w) (h : Elements spells close as t) :
    Sequence spells close as (w ++ t)

mutual

inductive Value : Json → Text → Prop where
  | string {s t : Text} (h : Characters s t) : Value (string s) ('"' :: t)
  | true : Value (boolean true) "true".toList
  | false : Value (boolean false) "false".toList
  | array {items : List Json} {t : Text} (h : Sequence Value ']' items t) :
    Value (array items) ('[' :: t)
  | object {fields : List (Text × Json)} {t : Text} (h : Sequence Field '}' fields t) :
    Value (object fields) ('{' :: t)

inductive Field : Text × Json → Text → Prop where
  | mk {key s w w' t : Text} {v : Json} (hkey : Characters key s) (hw : IsWhite w)
    (hw' : IsWhite w') (h : Value v t) : Field (key, v) ('"' :: s ++ w ++ ':' :: w' ++ t)

end

/-- A text spells a value when it is a spelling of it with white space around. -/
def Spells (v : Json) (t : Text) : Prop :=
  ∃ w u w', IsWhite w ∧ Value v u ∧ IsWhite w' ∧ t = w ++ u ++ w'

end FluentBuilder.Json
