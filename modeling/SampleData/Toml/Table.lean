import SampleData.Toml.Value

/-! # Adding to tables

What a line of a document may add. A key is assigned once. A dotted key makes the tables on its way and may
go on in tables that dotted keys made, but it never ends in a table that a header made. A header opens a table
once, also one that the header of a table inside it has implied, and a header of a list opens one more
table of that list; on its way a header goes through tables and into the last table of a list.
-/
namespace SampleData.Toml

def assign (v : Toml) : List String → Entries → Option Entries
  | [], _ => none
  | [key], es => if (es.lookup key).isSome then none else some (put key v es)
  | key :: keys, es =>
    match es.lookup key with
    | none => (assign v keys []).map fun inner => put key (.table .dotted inner) es
    | some (.table .dotted inner) =>
      (assign v keys inner).map fun inner => put key (.table .dotted inner) es
    | some (.table .implied inner) =>
      if keys.length = 1 then none
      else (assign v keys inner).map fun inner => put key (.table .implied inner) es
    | some (.tables items) =>
      if keys.length = 1 then none
      else (assign v keys (items.getLastD [])).map fun inner =>
        put key (.tables (items.dropLast ++ [inner])) es
    | some _ => none

/-- Changes the table at the end of the way of a header. -/
def within (change : Entries → Option Entries) : List String → Entries → Option Entries
  | [], es => change es
  | key :: keys, es =>
    match es.lookup key with
    | none => (within change keys []).map fun inner => put key (.table .implied inner) es
    | some (.table origin inner) =>
      if origin = .braces then none
      else (within change keys inner).map fun inner => put key (.table origin inner) es
    | some (.tables items) =>
      (within change keys (items.getLastD [])).map fun inner =>
        put key (.tables (items.dropLast ++ [inner])) es
    | some _ => none

def openTable (key : String) (es : Entries) : Option Entries :=
  match es.lookup key with
  | none => some (put key (.table .header []) es)
  | some (.table .implied inner) => some (put key (.table .header inner) es)
  | some _ => none

def openItem (key : String) (es : Entries) : Option Entries :=
  match es.lookup key with
  | none => some (put key (.tables [[]]) es)
  | some (.tables items) => some (put key (.tables (items ++ [[]])) es)
  | some _ => none

/-- Opens what a header names by `open` at the last key of its path. -/
def openAt (act : String → Entries → Option Entries) (path : List String) (es : Entries) :
    Option Entries :=
  match path.getLast? with
  | none => none
  | some key => within (act key) path.dropLast es

end SampleData.Toml
