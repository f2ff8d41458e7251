import SampleData.Gen
import SampleData.Json.Value
import SampleData.SortedMap
import SampleData.Text.Digits
import SampleData.Text.Lowercase
import SampleData.Provider.Builtin

/-! # Registered providers

Providers of other types can be registered under a name: the one their type declares, or else the last part of
the type's path in lower case. A name is an identifier of small ASCII letters, digits and underscores, and none
of the built-in names. Registering again under a name replaces the instance; a rejected registration changes
nothing. An instance is looked up by its name and its type, and two types count as one if they have one path.
-/
namespace SampleData

/-- Instances of provider types. An instance knows its type, by the type's path. -/
class Registrable (ι : Type) where
  typePath : ι → String
  declaredName : ι → Option String
  fieldNames : ι → List String
  generate : String → Gen ι Json

namespace Registry

def withoutArguments (path : List Char) : List Char := path.takeWhile (· ≠ '<')

/-- What stands behind the last double colon; `rest` are the characters after the start of that part. -/
def lastPart : List Char → List Char → List Char
  | part, [] => part
  | _, ':' :: ':' :: cs => lastPart cs cs
  | part, _ :: cs => lastPart part cs

/-- The name of a type, without its module path and arguments. -/
def typeName (path : String) : List Char :=
  lastPart (withoutArguments path.toList) (withoutArguments path.toList)

def isSmall (c : Char) : Bool := 'a'.toNat ≤ c.toNat && c.toNat ≤ 'z'.toNat

def isIdentifier (name : String) : Bool :=
  match name.toList with
  | [] => false
  | c :: cs => (isSmall c || c == '_') && cs.all fun c => isSmall c || Text.isDigit c || c == '_'

variable {ι : Type} [Registrable ι]

def nameOf (fresh : ι) : Except NameFault String :=
  let path := Registrable.typePath fresh
  let name := (Registrable.declaredName fresh).getD
    (Text.lower (String.ofList (typeName path)))
  if !isIdentifier name then .error (.notAnIdentifier name path)
  else if name ∈ Builtin.names then .error (.builtIn name)
  else .ok name

end Registry

abbrev Registry (ι : Type) := SortedMap String ι

namespace Registry

variable {ι : Type} [Registrable ι]

def register (fresh : ι) : Gen (Registry ι) String := do
  match nameOf fresh with
  | .error fault => throw (.invalidProvider fault)
  | .ok name =>
    modify (·.insert name fresh)
    return name

/-- The instance registered under `name`, if it is of the given type. -/
def find? (r : Registry ι) (name typePath : String) : Option ι :=
  (r.get? name).filter fun i => Registrable.typePath i == typePath

/-- Runs a step on the instance registered under `name`. -/
def onInstance {α : Type} (name : String) (step : Gen ι α) : Gen (Registry ι) α := fun r =>
  match r.get? name with
  | none => .error (.unsupportedOption "provider" name) r
  | some i =>
    match step i with
    | .ok a i => .ok a (r.insert name i)
    | .error e i => .error e (r.insert name i)

end Registry

end SampleData
