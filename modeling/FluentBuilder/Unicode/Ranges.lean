namespace FluentBuilder.Unicode

/-- Closed ranges of code points, ascending and apart. The tables hold the values of Unicode 17. -/
abbrev Ranges := List (Nat × Nat)

def Ranges.covers : Ranges → Nat → Bool
  | [], _ => false
  | (first, last) :: rest, n => if n < first then false else n ≤ last || Ranges.covers rest n

end FluentBuilder.Unicode
