import FluentBuilder.Builder.Fragments

namespace FluentBuilder.Fragments

def indentLine (indent line : Text) : Text :=
  if line.isEmpty then [] else indent ++ line

def entryLines (indent : Text) : List Text → List Text
  | [] => []
  | [entry] => [indent ++ entry]
  | entry :: rest => (indent ++ entry ++ [',']) :: entryLines indent rest

/-- The lines of the class for an alias. A fragment may hold line ends of its own; only setters are
taken apart and indented line by line. -/
def classLines (aliasName : Text) (f : Fragments) (s : ClassSettings) : List Text :=
  let indent := s.indent
  [(if s.exportClass then "export ".toList else []) ++ "class ".toList ++ aliasName ++
      "Builder \x7b".toList] ++
    f.definitions.map (indent ++ ·) ++
    [[], indent ++ "public build(): ".toList ++ aliasName ++ " \x7b".toList,
      indent ++ indent ++ "return \x7b".toList] ++
    entryLines (indent ++ indent ++ indent) f.entries ++
    [indent ++ indent ++ ['}'], indent ++ ['}']] ++
    f.setters.flatMap (fun setter => [] :: (Text.lines setter).map (indentLine indent)) ++
    [['}']]

def classText (aliasName : Text) (f : Fragments) (s : ClassSettings) : Text :=
  (classLines aliasName f s).flatMap (· ++ ['\n'])

end FluentBuilder.Fragments
