import FluentBuilder.Unicode.Ranges

namespace FluentBuilder.Unicode

def spaceRanges : Ranges :=
  [
   (0x0009, 0x000D), (0x0020, 0x0020), (0x0085, 0x0085), (0x00A0, 0x00A0), (0x1680, 0x1680),
   (0x2000, 0x200A), (0x2028, 0x2029), (0x202F, 0x202F), (0x205F, 0x205F), (0x3000, 0x3000)]

def isSpace (c : Char) : Bool :=
  spaceRanges.covers c.toNat

/-- A space or a tab: the white space that keeps to its line. -/
def isBlank (c : Char) : Bool :=
  c == ' ' || c == '\t'

end FluentBuilder.Unicode
