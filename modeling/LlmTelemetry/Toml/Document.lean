import LlmTelemetry.Toml.Statement
/-!
# Documents of TOML

The statements of a document build its table. Every key and every table can be given once only: a header
may complete a table that longer headers implied, and a dotted key may go on with tables that dotted
keys made.
-/

namespace LlmTelemetry.Toml

abbrev Entries := List (String × Toml)

/-- Change the table at the end of a path. Tables that are not there are made, with the given origin. On
the way through an array of tables the last one counts. A dotted key does not go into a table with a
header of its own, and does not end in one that a header implied. -/
def changeAt (origin : TableOrigin) (change : TableOrigin → Entries → Option Entries) :
    (path : List String) → (here : TableOrigin) → Entries → Option Entries
  | [], here, entries => change here entries
  | part :: path, _, entries =>
    match KeyedList.find? part entries with
    | none =>
      (changeAt origin change path origin []).map fun inner =>
        KeyedList.put part (.table origin inner) entries
    | some (.table .inline _) => none
    | some (.table there inner) =>
      if origin = .dotted ∧ there = .header then none
      else
        (changeAt origin change path there inner).map fun inner =>
          KeyedList.put part (.table there inner) entries
    | some (.tables elements) =>
      match elements.getLast? with
      | some (.table there inner) =>
        (changeAt origin change path there inner).map fun inner =>
          KeyedList.put part (.tables (elements.dropLast ++ [.table there inner])) entries
      | _ => none
    | some _ => none

def putValue (key : Key) (content : Toml) (entries : Entries) : Option Entries :=
  changeAt .dotted
    (fun here entries =>
      if ((here == .dotted) == key.path.isEmpty) || KeyedList.contains key.last entries then none
      else some (KeyedList.put key.last content entries))
    key.path .header entries

/-- Begin the table with the given header. A table that was implied goes to the end of its parent. -/
def beginTable (key : Key) (entries : Entries) : Option Entries :=
  changeAt .implied
    (fun _ entries =>
      match KeyedList.find? key.last entries with
      | none => some (KeyedList.put key.last (.table .header []) entries)
      | some (.table .implied inner) =>
        some (KeyedList.put key.last (.table .header inner) (KeyedList.erase key.last entries))
      | some _ => none)
    key.path .header entries

/-- Begin one more table of the array with the given header. -/
def beginElement (key : Key) (entries : Entries) : Option Entries :=
  changeAt .implied
    (fun _ entries =>
      match KeyedList.find? key.last entries with
      | none => some (KeyedList.put key.last (.tables [.table .header []]) entries)
      | some (.tables elements) =>
        some (KeyedList.put key.last (.tables (elements ++ [.table .header []])) entries)
      | some _ => none)
    key.path .header entries

/-- A document that is being built. -/
structure Builder where
  entries : Entries := []
  /-- The table that values go into. -/
  current : List String := []

/-- Put a value into the current table. -/
def putCurrent (current : List String) (key : Key) (content : Toml) (entries : Entries) :
    Option Entries :=
  changeAt .implied (fun _ entries => putValue key content entries) current .header entries

def Builder.add (builder : Builder) : Statement → Option Builder
  | .header key =>
    (beginTable key builder.entries).map fun entries => ⟨entries, key.path ++ [key.last]⟩
  | .arrayHeader key =>
    (beginElement key builder.entries).map fun entries => ⟨entries, key.path ++ [key.last]⟩
  | .value key content =>
    (putCurrent builder.current key content builder.entries).map fun entries =>
      { builder with entries := entries }

def byteOrderMark : Char := '\ufeff'

def parse? (text : String) : Option Toml := do
  let text := match text.toList with
    | c :: rest => if c = byteOrderMark then rest else c :: rest
    | [] => []
  let statements ← statements? (text.length + 1) text
  let builder ← statements.foldlM Builder.add {}
  return .table .header builder.entries

end LlmTelemetry.Toml
