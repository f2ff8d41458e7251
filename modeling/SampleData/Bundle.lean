import SampleData.Gen
import SampleData.Json.Value
import SampleData.Random.Choice
import SampleData.Text.Pieces

/-! # Bundles

A bundle is the parsed data of one domain in one locale. Values are reached by dotted paths; each piece of a
path is a key of an object, so a path never enters a list and never reaches a key that contains a dot.
-/
namespace SampleData

def keysOf (path : String) : List String := (Text.pieces '.' path.toList).map String.ofList

def Json.follow (v : Json) : List String → Option Json
  | [] => some v
  | key :: keys =>
    match v.get? key with
    | some w => w.follow keys
    | none => none

structure Bundle where
  domain : String
  locale : String
  data : Json
  deriving Inhabited

namespace Bundle

instance : BEq Bundle where
  beq a b := a.domain == b.domain && (a.locale == b.locale && a.data == b.data)

def get? (b : Bundle) (path : String) : Option Json := b.data.follow (keysOf path)

def require (b : Bundle) (path : String) : Except BundleFault Json :=
  match b.get? path with
  | some v => .ok v
  | none => .error (.missingKey path b.locale b.domain)

def wrongShape (b : Bundle) (path : String) (expected : Shape) : BundleFault :=
  .wrongShape path b.locale b.domain expected

def string (b : Bundle) (path : String) : Except BundleFault String := do
  match (← b.require path).string? with
  | some s => .ok s
  | none => .error (b.wrongShape path .string)

def list (b : Bundle) (path : String) : Except BundleFault (List Json) := do
  match (← b.require path).list? with
  | some items => .ok items
  | none => .error (b.wrongShape path .list)

def stringItem (b : Bundle) (path : String) (item : Json) : Except BundleFault String :=
  match item.string? with
  | some s => .ok s
  | none => .error (b.wrongShape path .stringList)

def strings (b : Bundle) (path : String) : Except BundleFault (List String) := do
  (← b.list path).mapM (b.stringItem path)

/-- One item of the list at a path, which has to be a string. The choice is made before the item is
looked at. -/
def pick {σ : Type} [WordSource σ] (b : Bundle) (path : String) : Gen σ String :=
  match b.list path with
  | .error fault => throw (.invalidBundle fault)
  | .ok items => do
    match ← Gen.draw (Random.choose? items) with
    | none => throw (.invalidBundle (.emptyList path b.locale b.domain))
    | some item =>
      match b.stringItem path item with
      | .ok s => return s
      | .error fault => throw (.invalidBundle fault)

def text {s : Type} (b : Bundle) (path : String) : Gen s String :=
  match b.string path with
  | .ok text => pure text
  | .error fault => throw (.invalidBundle fault)

end Bundle

end SampleData
