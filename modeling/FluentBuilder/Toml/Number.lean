import FluentBuilder.Toml.Value
import FluentBuilder.Toml.Quoted

namespace FluentBuilder.Toml

def digits? (isDigit : Char → Bool) : Text → Option Text
  | [] => none
  | [c] => if isDigit c then some [c] else none
  | c :: '_' :: rest => if isDigit c then (digits? isDigit rest).map (c :: ·) else none
  | c :: rest => if isDigit c then (digits? isDigit rest).map (c :: ·) else none

def digitsValue (base : Nat) (digits : Text) : Nat :=
  digits.foldl (fun n c => base * n + (hexDigit? c).getD 0) 0

def wholeDigits? (t : Text) : Option Text :=
  if t.head? = some '0' ∧ t ≠ ['0'] then none else digits? Char.isDigit t

def splitSign : Text → Bool × Text
  | '-' :: rest => (true, rest)
  | '+' :: rest => (false, rest)
  | t => (false, t)

def integer? (t : Text) : Option Int :=
  let value : Option Int :=
    match t with
    | '0' :: 'x' :: rest => (digits? (hexDigit? · |>.isSome) rest).map (digitsValue 16 ·)
    | '0' :: 'o' :: rest => (digits? (fun c => '0' ≤ c && c ≤ '7') rest).map (digitsValue 8 ·)
    | '0' :: 'b' :: rest => (digits? (fun c => c == '0' || c == '1') rest).map (digitsValue 2 ·)
    | _ =>
      let (negative, rest) := splitSign t
      (wholeDigits? rest).map fun digits =>
        if negative then -(digitsValue 10 digits : Int) else digitsValue 10 digits
  -- an integer takes 128 bits, with a sign or without
  value.filter fun n => n.toNat < Nat.pow 2 128 && (-n).toNat ≤ Nat.pow 2 127

/-- Whether `mantissa * 10 ^ exponent`, rounded to the nearest double, is finite. -/
def roundsToFinite (mantissa : Nat) (exponent : Int) : Bool :=
  let scale := (Nat.toDigits 10 mantissa).length + exponent
  mantissa == 0 || scale < 300 ||
    scale < 310 &&
      mantissa * Nat.pow 10 exponent.toNat <
        (Nat.pow 2 1024 - Nat.pow 2 970) * Nat.pow 10 (-exponent).toNat

def exponent? (t : Text) : Option Int :=
  let (negative, rest) := splitSign t
  (digits? Char.isDigit rest).map fun digits =>
    if negative then -(digitsValue 10 digits : Int) else digitsValue 10 digits

/-- Whether a literal is a float: a decimal number with a fraction, an exponent or both, or one of the
special values. -/
def isFloat (t : Text) : Bool :=
  let (_, rest) := splitSign t
  let isE := fun c => c == 'e' || c == 'E'
  let mantissa := rest.takeWhile (!isE ·)
  let exponent := rest.dropWhile (!isE ·)
  let whole := mantissa.takeWhile (· != '.')
  let fraction := mantissa.dropWhile (· != '.')
  rest == "inf".toList || rest == "nan".toList ||
    (!exponent.isEmpty || !fraction.isEmpty) &&
      ((do
        let whole ← wholeDigits? whole
        let fraction ← if fraction.isEmpty then some [] else digits? Char.isDigit fraction.tail
        let exponent ← if exponent.isEmpty then some 0 else exponent? exponent.tail
        return roundsToFinite (digitsValue 10 (whole ++ fraction)) (exponent - fraction.length)
      : Option Bool).getD false)

end FluentBuilder.Toml
