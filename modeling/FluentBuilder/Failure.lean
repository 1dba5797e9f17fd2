import FluentBuilder.Text

namespace FluentBuilder

inductive Failure where
  | noWorkspace
  | noActiveDocument
  | emptyDocument
  | methodsNotSupported
  | missingDocumentPath
  | aliasNameNotFound
  | noProperties
  | noDataTypes
  /-- The builder was made and could not be saved; `detail` is the reason the system gave. -/
  | saveFailed (detail : Text)
deriving DecidableEq, Repr

def Failure.message : Failure → Text
  | .noWorkspace => "Please open a directory before creating a builder.".toList
  | .noActiveDocument => "No open text editor. Please open a type alias file.".toList
  | .emptyDocument => "No text found. Please open a type alias file.".toList
  | .methodsNotSupported => "Methods defined in types are not currently supported.".toList
  | .missingDocumentPath => "Could not determine the path of the open type alias file.".toList
  | .aliasNameNotFound => "Could not find the type alias name.".toList
  | .noProperties => "Could not find any properties defined in the type alias.".toList
  | .noDataTypes => "Could not find any data types defined in the type alias.".toList
  | .saveFailed detail => "File save failed: ".toList ++ detail

end FluentBuilder
