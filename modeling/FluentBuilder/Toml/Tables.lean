import FluentBuilder.Toml.Value

namespace FluentBuilder.Toml

inductive Statement where
  /-- `[a.b]`, the table that follows. -/
  | table (path : List Text)
  /-- `[[a.b]]`, a further element of an array of tables. -/
  | element (path : List Text)
  /-- `a.b = value` in the table that was opened last. -/
  | assign (path : List Text) (value : Value)
deriving Repr

namespace Entries

def openTable : List Text → Entries → Option Entries
  | [], _ => none
  | [key], entries =>
    match entries.lookup key with
    | none => some (entries.set key (.table .header []))
    | some (.table .implied inner) => some (entries.set key (.table .header inner))
    | some _ => none
  | key :: path, entries =>
    match entries.lookup key with
    | none => (openTable path []).map fun inner => entries.set key (.table .implied inner)
    | some (.table .inline _) => none
    | some (.table origin inner) =>
      (openTable path inner).map fun inner => entries.set key (.table origin inner)
    | some (.tables (newest :: older)) =>
      (openTable path newest).map fun newest => entries.set key (.tables (newest :: older))
    | some _ => none

def openElement : List Text → Entries → Option Entries
  | [], _ => none
  | [key], entries =>
    match entries.lookup key with
    | none => some (entries.set key (.tables [[]]))
    | some (.tables elements) => some (entries.set key (.tables ([] :: elements)))
    | some _ => none
  | key :: path, entries =>
    match entries.lookup key with
    | none => (openElement path []).map fun inner => entries.set key (.table .implied inner)
    | some (.table .inline _) => none
    | some (.table origin inner) =>
      (openElement path inner).map fun inner => entries.set key (.table origin inner)
    | some (.tables (newest :: older)) =>
      (openElement path newest).map fun newest => entries.set key (.tables (newest :: older))
    | some _ => none

/-- Gives a key its value. Dotted keys go through tables that dotted keys made; through others only on
the way to one of those. -/
def assign (value : Value) : List Text → Entries → Option Entries
  | [], _ => none
  | [key], entries =>
    match entries.lookup key with
    | none => some (entries.set key value)
    | some _ => none
  | key :: path, entries =>
    match entries.lookup key with
    | none => (assign value path []).map fun inner => entries.set key (.table .dotted inner)
    | some (.table .dotted inner) =>
      (assign value path inner).map fun inner => entries.set key (.table .dotted inner)
    | some (.table .implied inner) =>
      if path.length = 1 then none
      else (assign value path inner).map fun inner => entries.set key (.table .implied inner)
    | some (.tables (newest :: older)) =>
      if path.length = 1 then none
      else (assign value path newest).map fun newest => entries.set key (.tables (newest :: older))
    | some _ => none

/-- Changes the table at a path, in the newest element where the path goes through an array. -/
def change (f : Entries → Option Entries) : List Text → Entries → Option Entries
  | [], entries => f entries
  | key :: path, entries =>
    match entries.lookup key with
    | some (.table origin inner) =>
      (change f path inner).map fun inner => entries.set key (.table origin inner)
    | some (.tables (newest :: older)) =>
      (change f path newest).map fun newest => entries.set key (.tables (newest :: older))
    | _ => none

/-- The entries after further statements, when the table at `path` was opened last. -/
def extend (path : List Text) (entries : Entries) : List Statement → Option Entries
  | [] => some entries
  | .table header :: rest => (entries.openTable header).bind fun entries => extend header entries rest
  | .element header :: rest =>
    (entries.openElement header).bind fun entries => extend header entries rest
  | .assign key value :: rest =>
    (change (assign value key) path entries).bind fun entries => extend path entries rest

def ofPairs (pairs : List (List Text × Value)) : Option Entries :=
  pairs.foldlM (fun entries (key, value) => assign value key entries) []

end Entries

end FluentBuilder.Toml
