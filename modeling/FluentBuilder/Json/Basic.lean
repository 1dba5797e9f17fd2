import FluentBuilder.Text

namespace FluentBuilder

/-- A JSON value without numbers and null. -/
inductive Json where
  | string (t : Text)
  | boolean (b : Bool)
  | array (items : List Json)
  | object (fields : List (Text × Json))
deriving Repr

namespace Json

def hexDigit (n : Nat) : Char :=
  if n < 10 then Char.ofNat ('0'.toNat + n) else Char.ofNat ('a'.toNat + (n - 10))

/-- A character as it stands inside quotes. Quotes, backslashes and control characters are escaped,
with a letter where there is one. -/
def escape (c : Char) : Text :=
  if c = '"' then ['\\', '"']
  else if c = '\\' then ['\\', '\\']
  else if c = '\x08' then ['\\', 'b']
  else if c = '\x0c' then ['\\', 'f']
  else if c = '\n' then ['\\', 'n']
  else if c = '\r' then ['\\', 'r']
  else if c = '\t' then ['\\', 't']
  else if c.toNat < 0x20 then
    ['\\', 'u', '0', '0', hexDigit (c.toNat / 16), hexDigit (c.toNat % 16)]
  else [c]

def quote (t : Text) : Text :=
  '"' :: t.flatMap escape ++ ['"']

def newLine (depth : Nat) : Text :=
  '\n' :: List.replicate (2 * depth) ' '

mutual

def layout (depth : Nat) : Json → Text
  | string t => quote t
  | boolean true => "true".toList
  | boolean false => "false".toList
  | array [] => "[]".toList
  | array (item :: items) =>
    '[' :: newLine (depth + 1) ++ layout (depth + 1) item ++ layoutItems depth items
  | object [] => "\x7b\x7d".toList
  | object ((key, value) :: fields) =>
    '{' :: newLine (depth + 1) ++ quote key ++ ": ".toList ++ layout (depth + 1) value ++
      layoutFields depth fields

def layoutItems (depth : Nat) : List Json → Text
  | [] => newLine depth ++ [']']
  | item :: items =>
    ',' :: newLine (depth + 1) ++ layout (depth + 1) item ++ layoutItems depth items

def layoutFields (depth : Nat) : List (Text × Json) → Text
  | [] => newLine depth ++ ['}']
  | (key, value) :: fields =>
    ',' :: newLine (depth + 1) ++ quote key ++ ": ".toList ++ layout (depth + 1) value ++
      layoutFields depth fields

end

end Json

end FluentBuilder
