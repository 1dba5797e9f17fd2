import FluentBuilder.Alias.Method
import FluentBuilder.Alias.Name
import FluentBuilder.Builder.Layout
import FluentBuilder.Log

namespace FluentBuilder

/-- A type alias with the class that builds its values. -/
structure Builder where
  aliasName : Text
  members : List Member
  classText : Text
deriving DecidableEq, Repr

def Builder.ofMembers (s : ClassSettings) (aliasName : Text) (members : List Member) : Builder where
  aliasName
  members
  classText := (Fragments.ofMembers s members).classText aliasName s

def Builder.ofDocument (s : ClassSettings) (document : Text) : Except Failure Builder :=
  if document.trim.isEmpty then .error .emptyDocument
  else if Alias.hasMethod document then .error .methodsNotSupported
  else do
    let aliasName ← Alias.name document
    let members ← Alias.members document
    return .ofMembers s aliasName members

/-- What making a builder from a document logs: there are names and types, but nothing to pair. -/
def Builder.documentLines (document : Text) : List LogLine :=
  if document.trim.isEmpty || Alias.hasMethod document then []
  else match Alias.name document, Alias.memberList document with
    | .ok _, [] =>
      if Alias.propertyNames document = [] || Alias.typeTexts document = [] then [] else [.unpairable]
    | _, _ => []

end FluentBuilder
