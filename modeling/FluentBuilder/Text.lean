import FluentBuilder.Unicode.Space

namespace FluentBuilder

/-- A list of characters, so that every scan is a recursion on the text itself. -/
abbrev Text := List Char

namespace Text

open Unicode

def trimStart (t : Text) : Text :=
  t.dropWhile isSpace

def trimEnd (t : Text) : Text :=
  (t.reverse.dropWhile isSpace).reverse

def trim (t : Text) : Text :=
  trimEnd (trimStart t)

/-- The lines of a text. A line ends before LF or CR LF; what follows the last line end is a line if
it is not empty. -/
def lines : Text → List Text
  | [] => []
  | '\n' :: rest => [] :: lines rest
  | '\r' :: '\n' :: rest => [] :: lines rest
  | c :: rest =>
    match lines rest with
    | [] => [[c]]
    | line :: more => (c :: line) :: more

/-- The pieces between separators; one more than there are separators. -/
def pieces (separator : Char) : Text → List Text
  | [] => [[]]
  | c :: rest =>
    if c = separator then [] :: pieces separator rest
    else match pieces separator rest with
      | [] => [[c]]
      | piece :: more => (c :: piece) :: more

end Text

end FluentBuilder
