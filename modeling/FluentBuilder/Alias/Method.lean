import FluentBuilder.Text
import FluentBuilder.Unicode.Word

namespace FluentBuilder.Alias

open Unicode

def after? (stop : Char) (t : Text) : Option Text :=
  match t.dropWhile (· != stop) with
  | _ :: rest => some rest
  | [] => none

def dropMark : Text → Text
  | '?' :: rest => rest
  | t => t

def dropTypeParameters? : Text → Option Text
  | '<' :: rest => (after? '>' rest).map Text.trimStart
  | t => some t

-- The list ends at the first closing parenthesis.
def startsParameters : Text → Bool
  | '(' :: rest => ((after? ')' rest).map Text.trimStart).any (·.head? == some ':')
  | _ => false

def continuesMethod (t : Text) : Bool :=
  (dropTypeParameters? (dropMark t).trimStart).any startsParameters

/-- Whether a document declares something shaped like a method. -/
def hasMethod : Text → Bool
  | [] => false
  | c :: rest => if isWord c && continuesMethod rest then true else hasMethod rest

end FluentBuilder.Alias
