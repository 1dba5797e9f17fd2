import FluentBuilder.Text

namespace FluentBuilder.Toml

def fixedDigits? (n : Nat) (t : Text) : Option (Nat × Text) :=
  let digits := t.take n
  if digits.length = n ∧ digits.all Char.isDigit then
    some (digits.foldl (fun m c => 10 * m + (c.toNat - '0'.toNat)) 0, t.drop n)
  else none

def afterChar? (c : Char) : Text → Option Text
  | d :: rest => if d = c then some rest else none
  | [] => none

def daysInMonth (year month : Nat) : Nat :=
  if month = 2 then if year % 4 = 0 ∧ (year % 100 ≠ 0 ∨ year % 400 = 0) then 29 else 28
  else if month = 4 ∨ month = 6 ∨ month = 9 ∨ month = 11 then 30
  else 31

def afterDate? (t : Text) : Option Text := do
  let (year, t) ← fixedDigits? 4 t
  let (month, t) ← fixedDigits? 2 (← afterChar? '-' t)
  let (day, t) ← fixedDigits? 2 (← afterChar? '-' t)
  if 1 ≤ month ∧ month ≤ 12 ∧ 1 ≤ day ∧ day ≤ daysInMonth year month then some t else none

def afterFraction? : Text → Option Text
  | '.' :: rest =>
    if rest.head?.any Char.isDigit then some (rest.dropWhile Char.isDigit) else none
  | t => some t

/-- What follows a time of day. A minute may have a second numbered 60. -/
def afterTime? (t : Text) : Option Text := do
  let (hour, t) ← fixedDigits? 2 t
  let (minute, t) ← fixedDigits? 2 (← afterChar? ':' t)
  if 23 < hour ∨ 59 < minute then none
  else match t with
    | ':' :: rest => do
      let (second, rest) ← fixedDigits? 2 rest
      if 60 < second then none else afterFraction? rest
    | t => some t

def isOffset : Text → Bool
  | [] => true
  | ['Z'] | ['z'] => true
  | sign :: rest =>
    (sign == '+' || sign == '-') &&
      ((do
        let (hour, rest) ← fixedDigits? 2 rest
        let (minute, rest) ← fixedDigits? 2 (← afterChar? ':' rest)
        return hour ≤ 23 && minute ≤ 59 && rest.isEmpty
      : Option Bool).getD false)

def isDateTime (t : Text) : Bool :=
  match afterDate? t with
  | none => afterTime? t == some []
  | some [] => true
  | some (separator :: rest) =>
    (separator == 'T' || separator == 't' || separator == ' ') && (afterTime? rest).any isOffset

def hasDateForm (t : Text) : Bool :=
  ((do
    let (_, t) ← fixedDigits? 4 t
    let (_, t) ← fixedDigits? 2 (← afterChar? '-' t)
    let (_, t) ← fixedDigits? 2 (← afterChar? '-' t)
    return t.isEmpty
  : Option Bool).getD false)

end FluentBuilder.Toml
