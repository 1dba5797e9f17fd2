import FluentBuilder.Alias.Member
import FluentBuilder.PascalCase
import FluentBuilder.Settings.Basic

namespace FluentBuilder

/-- The parts of a class that its members give, each list in member order. -/
structure Fragments where
  definitions : List Text
  setters : List Text
  entries : List Text
deriving DecidableEq, Repr

def capitalize : Text → Text
  | [] => []
  | c :: rest => Unicode.upperCase c ++ rest

def ClassSettings.setterName (s : ClassSettings) (property : Text) : Text :=
  s.setterPrefix ++ match s.setterCase with
    | .capitalize => capitalize property
    | .pascal => PascalCase.convert property

namespace Member

def definition (m : Member) (s : ClassSettings) : Text :=
  "private ".toList ++ m.name ++ (if m.optional then ['?'] else []) ++ ": ".toList ++ m.type ++
    " = ".toList ++ s.fieldInitializer

/-- The member's setter, four lines without an end to the last one. -/
def setter (m : Member) (s : ClassSettings) : Text :=
  "public ".toList ++ s.setterName m.name ++ "(value: ".toList ++ m.type ++ ") \x7b\n".toList ++
    s.indent ++ "this.".toList ++ m.name ++ " = value\n".toList ++
    s.indent ++ "return this\n\x7d".toList

def entry (m : Member) : Text :=
  m.name ++ ": this.".toList ++ m.name

end Member

def Fragments.ofMembers (s : ClassSettings) (members : List Member) : Fragments where
  definitions := members.map (·.definition s)
  setters := members.map (·.setter s)
  entries := members.map (·.entry)

end FluentBuilder
