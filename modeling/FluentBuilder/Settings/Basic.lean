import FluentBuilder.Text

namespace FluentBuilder

inductive SetterCase where
  /-- With its first character in upper case: `firstName` gives `withFirstName`. -/
  | capitalize
  /-- In pascal case: `first_name` gives `withFirstName`. -/
  | pascal
deriving DecidableEq, Repr

structure ClassSettings where
  setterPrefix : Text := "with".toList
  setterCase : SetterCase := .capitalize
  fieldInitializer : Text := "undefined".toList
  indentWidth : Nat := 2
  exportClass : Bool := true
deriving DecidableEq, Repr

structure Settings where
  generator : ClassSettings := {}
  /-- Stands before the extension in the name of a builder file. -/
  suffix : Text := "builder".toList
deriving DecidableEq, Repr

def ClassSettings.indent (s : ClassSettings) : Text :=
  List.replicate s.indentWidth ' '

end FluentBuilder
