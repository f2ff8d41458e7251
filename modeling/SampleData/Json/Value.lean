import SampleData.SortedMap

/-! # JSON values

Bundles, generated records and documents are JSON values. Whole numbers and doubles are different
values, so `1` and `1.0` differ. An object is the list of its fields; a value that was read or built
with `ofFields` has them in ascending order of keys, each key once.
-/
namespace SampleData

inductive Json where
  | null
  | bool (b : Bool)
  | int (n : Int)
  | real (x : Float)
  | str (s : String)
  | list (items : List Json)
  | object (fields : List (String × Json))
  deriving Inhabited

namespace Json

mutual

/-- Equality of values. Doubles are compared as numbers, so both zeros are equal. -/
def beq : Json → Json → Bool
  | .null, .null => true
  | .bool a, .bool b => a == b
  | .int a, .int b => a == b
  | .real a, .real b => a == b
  | .str a, .str b => a == b
  | .list a, .list b => beqItems a b
  | .object a, .object b => beqFields a b
  | _, _ => false

def beqItems : List Json → List Json → Bool
  | [], [] => true
  | a :: as, b :: bs => beq a b && beqItems as bs
  | _, _ => false

def beqFields : List (String × Json) → List (String × Json) → Bool
  | [], [] => true
  | (j, a) :: as, (k, b) :: bs => j == k && (beq a b && beqFields as bs)
  | _, _ => false

end

instance : BEq Json := ⟨beq⟩

/-- The object with the given fields; of two fields with one key the later counts. -/
def ofFields (fields : List (String × Json)) : Json :=
  .object (fields.foldl (fun es f => insertEntry f.1 f.2 es) [])

def ofStrings (texts : List String) : Json := .list (texts.map .str)

def isObject : Json → Bool
  | .object _ => true
  | _ => false

def get? : Json → String → Option Json
  | .object fields, key => fields.lookup key
  | _, _ => none

def string? : Json → Option String
  | .str s => some s
  | _ => none

def list? : Json → Option (List Json)
  | .list items => some items
  | _ => none

end Json

end SampleData
