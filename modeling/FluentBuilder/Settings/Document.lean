import FluentBuilder.Log
import FluentBuilder.Settings.Basic
import FluentBuilder.Settings.Reference
import FluentBuilder.Toml.Document

namespace FluentBuilder.Settings

open Toml

/-- The entries of a section: those of a table, or the items of an array under the keys in their
order. A section that is not there has none, nor has a date in its place. -/
def sectionEntries? (keys : List Text) : Option Value → Option Entries
  | none | some (.dateTime _) => some []
  | some (.table _ entries) => some entries
  | some (.array items) => some (keys.zip items)
  | some _ => none

def text? (default : Text) : Option Value → Option Text
  | none => some default
  | some (.string t) => some t
  | some _ => none

def flag? (default : Bool) : Option Value → Option Bool
  | none => some default
  | some (.boolean b) => some b
  | some _ => none

def count? (default : Nat) : Option Value → Option Nat
  | none => some default
  | some (.integer n) => if 0 ≤ n ∧ n.toNat < UInt64.size then some n.toNat else none
  | some _ => none

def caseNamed? (name : Text) : Option SetterCase :=
  if name = "capitalize".toList then some .capitalize
  else if name = "pascal".toList then some .pascal
  else none

/-- A setter case: its name, or a table with its name as the only key and nothing under it. -/
def setterCase? (default : SetterCase) : Option Value → Option SetterCase
  | none => some default
  | some (.string name) => caseNamed? name
  | some (.table _ [(name, .table _ [])]) => caseNamed? name
  | some (.table _ [(name, .array [])]) => caseNamed? name
  | some _ => none

def generatorKeys : List Text :=
  ["setter_prefix".toList, "setter_case".toList, "field_initializer".toList,
    "indent_width".toList, "export_class".toList]

def decodeGenerator? (entries : Entries) : Option ClassSettings := do
  let default : ClassSettings := {}
  return {
    setterPrefix := ← text? default.setterPrefix (entries.lookup "setter_prefix".toList)
    setterCase := ← setterCase? default.setterCase (entries.lookup "setter_case".toList)
    fieldInitializer := ←
      text? default.fieldInitializer (entries.lookup "field_initializer".toList)
    indentWidth := ← count? default.indentWidth (entries.lookup "indent_width".toList)
    exportClass := ← flag? default.exportClass (entries.lookup "export_class".toList) }

/-- The settings in the entries of a document. Keys that are not settings are passed over. -/
def decode? (entries : Entries) : Option Settings := do
  let generator ← sectionEntries? generatorKeys (entries.lookup "generator".toList)
  let output ← sectionEntries? ["suffix".toList] (entries.lookup "output".toList)
  let default : Settings := {}
  return {
    generator := ← decodeGenerator? generator
    suffix := ← text? default.suffix (output.lookup "suffix".toList) }

def expandReferences (env : Environment) (s : Settings) : Except Text Settings := do
  let setterPrefix ← expand env s.generator.setterPrefix
  let fieldInitializer ← expand env s.generator.fieldInitializer
  let suffix ← expand env s.suffix
  return { s with generator := { s.generator with setterPrefix, fieldInitializer }, suffix }

def fault? (s : Settings) : Option (Text × Text) :=
  if s.generator.indentWidth = 0 then
    some ("generator.indent_width".toList, ['0'])
  else if s.generator.setterPrefix.trim.isEmpty then
    some ("generator.setter_prefix".toList, s.generator.setterPrefix)
  else if s.suffix.trim.isEmpty || s.suffix.contains '/' || s.suffix.contains '\\' then
    some ("output.suffix".toList, s.suffix)
  else none

def ofDocument (env : Environment) (document : Text) : Except SetupError Settings :=
  match (document? document).bind decode? with
  | none => .error .malformed
  | some written =>
    match expandReferences env written with
    | .error name => .error (.variableNotSet name)
    | .ok s =>
      -- checked last, so that no value of a variable slips past
      match s.fault? with
      | some (key, value) => .error (.invalidValue key value)
      | none => .ok s

def references (s : Settings) : List Reference :=
  FluentBuilder.references s.generator.setterPrefix ++
    FluentBuilder.references s.generator.fieldInitializer ++ FluentBuilder.references s.suffix

def documentLines (env : Environment) (document : Text) : List LogLine :=
  match (document? document).bind decode? with
  | none => [.settingsMalformed]
  | some written => (defaulted env written.references).map .defaultUsed

end FluentBuilder.Settings
