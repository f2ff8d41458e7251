/-! # TOML values

The values of a TOML document. A table remembers how it came to be, because that decides what may still be
added to it.
-/
namespace SampleData

/-- How a table came to be: by its own header, on the way to the header of a table inside it, by a dotted
key, or between braces. -/
inductive Toml.Origin where
  | header
  | implied
  | dotted
  | braces
  deriving DecidableEq, Repr

/-- A TOML value. `tables` is a list of tables with headers of their own, and `moment` a date, a time or both
as it is written. -/
inductive Toml where
  | text (s : String)
  | int (n : Int)
  | real (x : Float)
  | bool (b : Bool)
  | moment (written : String)
  | list (items : List Toml)
  | tables (items : List (List (String × Toml)))
  | table (origin : Toml.Origin) (entries : List (String × Toml))
  deriving Inhabited

namespace Toml

abbrev Entries := List (String × Toml)

def put (key : String) (v : Toml) : Entries → Entries
  | [] => [(key, v)]
  | e :: es => if e.1 = key then (key, v) :: es else e :: put key v es

end Toml

end SampleData
