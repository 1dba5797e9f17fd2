import FluentBuilder.Text

namespace FluentBuilder.Toml

inductive Origin where
  /-- In braces; complete. -/
  | inline
  /-- Under its own header. -/
  | header
  /-- Only as a step in the header of another table. -/
  | implied
  /-- As a step in a dotted key. -/
  | dotted
deriving DecidableEq, Repr

inductive Value where
  | string (text : Text)
  | integer (n : Int)
  | float (literal : Text)
  | boolean (b : Bool)
  | dateTime (literal : Text)
  | array (items : List Value)
  | table (origin : Origin) (entries : List (Text × Value))
  /-- An array of tables, grown by headers; the newest comes first. -/
  | tables (elements : List (List (Text × Value)))
deriving Repr

abbrev Entries := List (Text × Value)

def Entries.set (key : Text) (value : Value) : Entries → Entries
  | [] => [(key, value)]
  | (k, v) :: rest => if k = key then (key, value) :: rest else (k, v) :: set key value rest

end FluentBuilder.Toml
